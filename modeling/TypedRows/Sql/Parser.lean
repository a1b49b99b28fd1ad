import TypedRows.Dialect
import TypedRows.Sql.Keyword
import TypedRows.Sql.Token
import TypedRows.Text.Numeral

namespace TypedRows.Sql

-- Why tokens are not taken.
inductive Refusal
  | unexpected
  | tooDeep
  deriving DecidableEq, Repr

namespace Refusal

def text : Refusal → String
  | unexpected => "unexpected token"
  | tooDeep => "recursion limit exceeded"

def message (r : Refusal) : String :=
  "sql parser error: " ++ r.text

end Refusal

abbrev Parser := StateT (List Token) (Except Refusal)

namespace Parser

variable {α : Type}

def refuse : Parser α :=
  throw .unexpected

def require (b : Bool) : Parser Unit :=
  if b then pure () else refuse

def peek? : Parser (Option Token) :=
  return (← get).head?

-- The token after the first `n`.
def peekAfter? (n : Nat) : Parser (Option Token) :=
  return (← get)[n]?

def skip : Parser Unit :=
  modify (·.drop 1)

def next : Parser Token := do
  match ← get with
  | [] => refuse
  | t :: rest => set rest; return t

def atEnd : Parser Bool :=
  return (← get).isEmpty

-- Takes nothing if `p` refuses.
-- What is nested too deeply is refused for good.
def attempt? (p : Parser α) : Parser (Option α) := fun ts =>
  match p ts with
  | .ok (a, rest) => .ok (some a, rest)
  | .error .unexpected => .ok (none, ts)
  | .error .tooDeep => .error .tooDeep

-- The first of two parsers that does not refuse.
def orElse (p q : Parser α) : Parser α := do
  match ← attempt? p with
  | some a => return a
  | none => q

def keyOf : Token → String
  | .word _ key => key
  | _ => ""

-- The next word in capitals, or nothing before any other token.
def peekKey : Parser String :=
  return match ← peek? with
    | some t => keyOf t
    | none => ""

def peekKeyAfter (n : Nat) : Parser String :=
  return match ← peekAfter? n with
    | some t => keyOf t
    | none => ""

def peekSymbol (s : String) : Parser Bool :=
  return (← peek?) = some (.symbol s)

def keyword? (k : String) : Parser Bool := do
  if (← peekKey) = k then skip; return true
  else return false

-- All of some words in a row, or none of them.
def keywords? (ks : List String) : Parser Bool := do
  if ((← get).take ks.length).map keyOf = ks then modify (·.drop ks.length); return true
  else return false

def keyword (k : String) : Parser Unit := do
  require (← keyword? k)

def keywords (ks : List String) : Parser Unit :=
  ks.forM keyword

-- A test that only some dialects make.
def when? (b : Bool) (p : Parser Bool) : Parser Bool :=
  if b then p else return false

def oneOf? (ks : List String) : Parser (Option String) := do
  let k ← peekKey
  if ks.contains k then skip; return some k
  else return none

def oneOf (ks : List String) : Parser String := do
  match ← oneOf? ks with
  | some k => return k
  | none => refuse

def symbol? (s : String) : Parser Bool := do
  if ← peekSymbol s then skip; return true
  else return false

def symbol (s : String) : Parser Unit := do
  require (← symbol? s)

def parenthesized (p : Parser α) : Parser α := do
  symbol "("
  let a ← p
  symbol ")"
  return a

-- Repeats a step that takes a token or more, until it gives nothing.
def manyWithin (step : Parser (Option α)) : (fuel : Nat) → Parser (List α)
  | 0 => return []
  | fuel + 1 => do
    match ← step with
    | none => return []
    | some a => return a :: (← manyWithin step fuel)

-- Repeats a step until it gives nothing, which is as often as there are tokens at most.
def many (step : Parser (Option α)) : Parser (List α) := do
  manyWithin step ((← get).length + 1)

-- Whether a list ends after its last comma.
def endsList : Parser Bool := do
  match ← peek? with
  | none => return true
  | some (.symbol s) => return [")", ";", "]", "\x7d"].contains s
  | some t => return Keyword.noColumnAlias.contains (keyOf t)

-- One item or more between commas; a comma may follow the last one.
def commaSeparated (item : Parser α) : Parser (List α) := do
  let first ← item
  let rest ← many do
    if (← symbol? ",") && !(← endsList) then return some (← item)
    else return none
  return first :: rest

-- Items between commas up to a closing mark that may come at once.
def commaSeparatedBefore (closing : String) (item : Parser α) : Parser (List α) := do
  if ← peekSymbol closing then return []
  else if (← get).take 2 = [.symbol ",", .symbol closing] then skip; return []
  else commaSeparated item

def ident : Parser Ident := do
  match ← next with
  | .word i _ => return i
  | .string .single s => return ⟨s, some '\x27'⟩
  | .string .double s => return ⟨s, some '\x22'⟩
  | _ => refuse

def ident? : Parser (Option Ident) :=
  attempt? ident

def objectName : Parser ObjectName := do
  let first ← ident
  let rest ← many do
    if ← symbol? "." then return some (← ident)
    else return none
  return first :: rest

def columnList : Parser (List Ident) :=
  parenthesized (commaSeparated ident)

def optionalColumnList : Parser (List Ident) := do
  if ← peekSymbol "(" then columnList else return []

def wholeNumber : Parser Nat := do
  match ← next with
  | .number digits _ =>
    match Text.boundedNumeral? UInt64.size digits.toList with
    | some n => return n
    | none => refuse
  | _ => refuse

-- A string, or a word without any other meaning.
def literalText (d : Dialect) : Parser String := do
  match ← next with
  | .word i key => require (i.quote.isSome || !Keyword.all.contains key); return i.value
  | .string .single s | .string .double s | .string .unicode s => return s
  | .string .escaped s => require (d = .postgresql); return s
  | _ => refuse

end Parser

def commaJoined (items : List String) : String :=
  ", ".intercalate items

def renderIdents (is : List Ident) : String :=
  commaJoined (is.map Ident.render)

-- `text` after a blank, or nothing.
def spaced (text : String) : String :=
  if text = "" then "" else " " ++ text

end TypedRows.Sql
