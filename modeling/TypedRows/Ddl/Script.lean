import TypedRows.Dialect
import TypedRows.Text.Blank

namespace TypedRows.Ddl

open Text

-- The text of a statement, and the line on which its first token stands.
-- Line comments are left out of the text. Other comments stay in it, but are no tokens.
structure ScriptStatement where
  text : String
  line : Nat
  deriving DecidableEq, Repr

namespace Script

-- Where in a script the next character stands.
inductive Place
  | code
  -- After a hyphen that may begin a comment.
  | hyphen
  -- After a slash that may begin a comment.
  | slash
  | quoted (quote : Char)
  -- After a backslash between single quotes.
  | escaped
  -- After a quote that ends the quoted text, unless the same quote follows.
  | quoteSeen (quote : Char)
  | lineComment
  | blockComment
  -- After a star in a comment.
  | starSeen
  deriving DecidableEq, Repr

-- Outside quotes and comments.
def Place.isOutside : Place → Bool
  | code | hyphen | slash | quoteSeen _ => true
  | quoted _ | escaped | lineComment | blockComment | starSeen => false

-- What was read of a script. Lists hold the latest item first.
structure Reader where
  place : Place := .code
  line : Nat := 1
  -- The line of the first token of the open statement.
  start : Option Nat := none
  text : List Char := []
  statements : List ScriptStatement := []

namespace Reader

def keep (r : Reader) (c : Char) (place : Place) : Reader :=
  { r with text := c :: r.text, place := place }

-- A token begins here, if the statement has none yet.
def touch (r : Reader) : Reader :=
  { r with start := some (r.start.getD r.line) }

-- Settles a character that might have begun a comment.
def settle (r : Reader) : Reader :=
  match r.place with
  | .hyphen => { r.touch with text := '-' :: r.text }
  | .slash => r.touch
  | _ => r

def closed (r : Reader) : List ScriptStatement :=
  match r.start with
  | none => r.statements
  | some line => ⟨String.ofList (trimChars r.text.reverse), line⟩ :: r.statements

def endStatement (r : Reader) : Reader :=
  { r with place := .code, start := none, text := [], statements := r.closed }

def isQuote (c : Char) : Bool :=
  c = '\x27' || c = '\x22' || c = '\x60'

-- A character outside quotes and comments. Only MySQL has comments after a hash sign.
def atCode (r : Reader) (d : Dialect) (c : Char) : Reader :=
  if c = ';' then r.endStatement
  else if c = '-' then { r with place := .hyphen }
  else if c = '#' && d = .mysql then { r with place := .lineComment }
  else if c = '/' then r.keep c .slash
  else if isQuote c then r.touch.keep c (.quoted c)
  else if isBlank c then r.keep c .code
  else r.touch.keep c .code

def atQuoted (r : Reader) (quote c : Char) : Reader :=
  if c = quote then r.keep c (.quoteSeen quote)
  else if c = '\\' && quote = '\x27' then r.keep c .escaped
  else r.keep c (.quoted quote)

def takeChar (r : Reader) (d : Dialect) (c : Char) : Reader :=
  match r.place with
  | .code => r.atCode d c
  | .hyphen => if c = '-' then { r with place := .lineComment } else r.settle.atCode d c
  | .slash => if c = '*' then r.keep c .blockComment else r.settle.atCode d c
  | .quoted q => r.atQuoted q c
  | .escaped => r.keep c (.quoted '\x27')
  | .quoteSeen q => if c = q then r.keep c (.quoted q) else r.atCode d c
  | .lineComment => if c = '\n' then r.keep c .code else r
  | .blockComment => r.keep c (if c = '*' then .starSeen else .blockComment)
  | .starSeen => r.keep c (if c = '/' then .code else if c = '*' then .starSeen else .blockComment)

def step (d : Dialect) (r : Reader) (c : Char) : Reader :=
  let next := r.takeChar d c
  if c = '\n' then { next with line := next.line + 1 } else next

def run (d : Dialect) (r : Reader) (cs : List Char) : Reader :=
  cs.foldl (step d) r

-- The end of the script ends the open statement.
def finish (r : Reader) : List ScriptStatement :=
  r.settle.closed.reverse

end Reader

def statementsOf (d : Dialect) (cs : List Char) : List ScriptStatement :=
  (Reader.run d {} cs).finish

-- The statements of a script that hold anything but blanks and comments.
def statements (d : Dialect) (script : String) : List ScriptStatement :=
  statementsOf d script.toList

end Script
end TypedRows.Ddl
