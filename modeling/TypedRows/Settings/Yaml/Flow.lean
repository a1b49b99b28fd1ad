import TypedRows.Settings.Datum
import TypedRows.Text.CharParser

namespace TypedRows.Yaml

open Text CharParser

def isGap (c : Char) : Bool :=
  c = ' ' || c = '\t'

def isSpace (c : Char) : Bool :=
  isGap c || c = '\n'

-- Blanks and the line ends between them, folded into what they stand for.
def folded (gaps : List Char) : List Char :=
  match gaps.count '\n' with
  | 0 => gaps
  | 1 => [' ']
  | n + 1 => List.replicate n '\n'

namespace Flow

def isHexDigit (c : Char) : Bool :=
  c.isDigit || ('a' ≤ c && c ≤ 'f') || ('A' ≤ c && c ≤ 'F')

def digitValue (c : Char) : Nat :=
  if c.isDigit then c.toNat - '0'.toNat else c.toLower.toNat - 'a'.toNat + 10

def codePoint (width : Nat) : CharParser Char := do
  let digits := (← get).take width
  skip width
  require (digits.length = width && digits.all isHexDigit)
  let code := digits.foldl (fun n c => 16 * n + digitValue c) 0
  require code.isValidChar
  return Char.ofNat code

def namedEscapes : List (Char × Char) := [
  ('0', '\x00'), ('a', '\x07'), ('b', '\x08'), ('t', '\t'), ('\t', '\t'), ('n', '\n'),
  ('v', '\x0b'), ('f', '\x0c'), ('r', '\r'), ('e', '\x1b'), (' ', ' '), ('\x22', '\x22'),
  ('/', '/'), ('\\', '\\'), ('N', '\u0085'), ('_', '\u00a0'), ('L', '\u2028'), ('P', '\u2029')]

-- What follows a backslash. A line end there means nothing, nor do the blanks after it.
def escape : CharParser (List Char) := do
  match ← next with
  | 'x' => return [← codePoint 2]
  | 'u' => return [← codePoint 4]
  | 'U' => return [← codePoint 8]
  | '\n' => dropWhile isSpace; return []
  | c =>
    match namedEscapes.lookup c with
    | some image => return [image]
    | none => failure

def doubleQuoted? : CharParser (Option (List Char)) := do
  let gaps ← takeWhile isSpace
  if !gaps.isEmpty then return some (folded gaps)
  else
    match ← next with
    | '\x22' => return none
    | '\\' => return some (← escape)
    | c => return some [c]

def singleQuoted? : CharParser (Option (List Char)) := do
  let gaps ← takeWhile isSpace
  if !gaps.isEmpty then return some (folded gaps)
  else if ← text? "\x27\x27" then return some ['\x27']
  else
    match ← next with
    | '\x27' => return none
    | c => return some [c]

-- A text in quotes.
def quoted? : CharParser (Option String) := do
  if ← text? "\"" then return some (String.ofList (← many doubleQuoted?).flatten)
  else if ← text? "\x27" then return some (String.ofList (← many singleQuoted?).flatten)
  else return none

-- Blanks, line ends and comments. A comment follows a blank or begins its line.
def space : CharParser Unit :=
  discard <| many do
    let gaps ← takeWhile isSpace
    if gaps.isEmpty then return none
    else
      if (← peek?) = some '#' then dropWhile (· ≠ '\n')
      return some ()

def isBracket (c : Char) : Bool :=
  [',', '[', ']', '\x7b', '\x7d'].contains c

-- Marks that no text without quotes begins with.
def isMark (c : Char) : Bool :=
  isBracket c ||
    ['#', '&', '*', '!', '|', '>', '\x27', '\x22', '%', '@', '\x60'].contains c

-- A hyphen, question mark or colon begins a text if something follows it at once.
def startsPlain : List Char → Bool
  | c :: cs =>
    if ['-', '?', ':'].contains c then cs.head?.any fun d => !isSpace d && !isBracket d
    else !isMark c && !isSpace c
  | [] => false

-- Whether a colon here ends a key.
def isColon : List Char → Bool
  | ':' :: cs => cs.head?.all fun c => isSpace c || isBracket c
  | _ => false

def plainPart? : CharParser (Option (List Char)) := do
  let cs ← get
  let gaps := cs.takeWhile isSpace
  match cs.dropWhile isSpace with
  | [] => return none
  | c :: rest =>
    if isBracket c || isColon (c :: rest) || (c = '#' && !gaps.isEmpty) then return none
    else
      set rest
      return some (folded gaps ++ [c])

def plain : CharParser String := do
  require (startsPlain (← get))
  return String.ofList (← many plainPart?).flatten

def scalar : CharParser Datum := do
  match ← quoted? with
  | some s => return .text s
  | none => return .bare (← plain)

-- Items between commas up to a closing mark.
def items {α : Type} (closing : String) (item : CharParser α) : CharParser (List α) :=
  many do
    space
    if ← text? closing then return none
    else
      let a ← item
      space
      if !(← text? ",") then require (closing.toList.isPrefixOf (← get))
      return some a

-- What follows a key: a value, or nothing. A quoted key needs no blank after its colon.
def valueAfter (isQuoted : Bool) (value : CharParser Datum) : CharParser Datum := do
  space
  if isColon (← get) || (isQuoted && (← peek?) = some ':') then
    skip 1
    space
    match ← peek? with
    | some ',' | some '\x7d' => return .bare ""
    | _ => value
  else return .bare ""

def entry (value : CharParser Datum) : CharParser (String × Datum) := do
  match ← quoted? with
  | some key => return (key, ← valueAfter true value)
  | none =>
    let key ← plain
    return (key, ← valueAfter false value)

def value : (depth : Nat) → CharParser Datum
  | 0 => failure
  | depth + 1 => do
    if ← text? "[" then return .list true (← items "]" (value depth))
    else if ← text? "\x7b" then return .table .closed (← items "\x7d" (entry (value depth)))
    else scalar

-- How deep collections may nest.
def maxDepth : Nat := 127

end Flow
end TypedRows.Yaml
