import TypedRows.Calendar.Pattern
import TypedRows.Settings.Datum
import TypedRows.Text.CharParser

namespace TypedRows.Toml

open Text CharParser

namespace Scalar

def isGap (c : Char) : Bool :=
  c = ' ' || c = '\t'

-- Characters that a comment or a text can hold.
def isPlain (c : Char) : Bool :=
  c = '\t' || (0x20 ≤ c.toNat && c ≠ '\x7f')

def isKeyChar (c : Char) : Bool :=
  c.isAlphanum || c = '_' || c = '-'

def gap : CharParser Unit :=
  dropWhile isGap

def lineEnd? : CharParser Bool := do
  if ← text? "\n" then return true else text? "\r\n"

def comment : CharParser Unit := do
  if ← text? "#" then dropWhile isPlain

-- What may follow on a line after its meaning.
def restOfLine : CharParser Unit := do
  gap
  comment
  if !(← lineEnd?) then require (← atEnd)

-- Blanks, comments and line ends.
def space : CharParser Unit :=
  discard <| many do
    gap
    comment
    if ← lineEnd? then return some () else return none

def isHexDigit (c : Char) : Bool :=
  c.isDigit || ('a' ≤ c && c ≤ 'f') || ('A' ≤ c && c ≤ 'F')

def digitValue (c : Char) : Nat :=
  if c.isDigit then c.toNat - '0'.toNat else c.toLower.toNat - 'a'.toNat + 10

def numberIn (base : Nat) (digits : List Char) : Nat :=
  digits.foldl (fun n c => base * n + digitValue c) 0

-- A character given by so many hexadecimal digits.
def codePoint (width : Nat) : CharParser Char := do
  let digits := (← get).take width
  skip width
  require (digits.length = width && digits.all isHexDigit)
  let code := numberIn 16 digits
  require code.isValidChar
  return Char.ofNat code

-- What follows a backslash.
def escape : CharParser Char := do
  match ← next with
  | 'b' => return '\x08'
  | 't' => return '\t'
  | 'n' => return '\n'
  | 'f' => return '\x0c'
  | 'r' => return '\r'
  | '\x22' => return '\x22'
  | '\\' => return '\\'
  | 'u' => codePoint 4
  | 'U' => codePoint 8
  | _ => failure

def basicChar? : CharParser (Option Char) := do
  let c ← next
  if c = '\x22' then return none
  else if c = '\\' then return some (← escape)
  else
    require (isPlain c)
    return some c

def literalChar? : CharParser (Option Char) := do
  let c ← next
  if c = '\x27' then return none
  else
    require (isPlain c)
    return some c

-- A backslash before a line end takes all white space after it.
def continuation? : CharParser Bool := do
  let cs ← get
  match cs.dropWhile isGap with
  | '\n' :: _ | '\r' :: '\n' :: _ =>
    set (cs.dropWhile fun c => isGap c || c = '\n' || c = '\r')
    return true
  | _ => return false

-- Up to two quotes may stand right before the three that close a long text.
def closing? (quote : Char) : CharParser (Option (List Char)) := do
  let quotes := (← get).takeWhile (· = quote)
  if quotes.length < 3 then return none
  else
    require (quotes.length ≤ 5)
    skip quotes.length
    return some (quotes.drop 3)

def longChar (quote : Char) : CharParser (List Char) := do
  if ← lineEnd? then return ['\n']
  else
    let c ← next
    if c = '\\' && quote = '\x22' then
      if ← continuation? then return [] else return [← escape]
    else
      require (isPlain c)
      return [c]

-- What follows three quotes. A line end right after them is left out.
def longWithin (quote : Char) : (fuel : Nat) → CharParser (List Char)
  | 0 => failure
  | fuel + 1 => do
    match ← closing? quote with
    | some quotes => return quotes
    | none => return (← longChar quote) ++ (← longWithin quote fuel)

def long (quote : Char) : CharParser String := do
  discard lineEnd?
  return String.ofList (← longWithin quote ((← get).length + 1))

def short? : CharParser (Option String) := do
  if ← text? "\"" then return some (String.ofList (← many basicChar?))
  else if ← text? "\x27" then return some (String.ofList (← many literalChar?))
  else return none

def quoted? : CharParser (Option String) := do
  if ← text? "\"\"\"" then return some (← long '\x22')
  else if ← text? "\x27\x27\x27" then return some (← long '\x27')
  else short?

def simpleKey : CharParser String := do
  match ← short? with
  | some key => return key
  | none =>
    let key ← takeWhile isKeyChar
    require !key.isEmpty
    return String.ofList key

-- Keys with dots between them.
def key : CharParser (List String) := do
  let first ← simpleKey
  let rest ← many do
    gap
    if ← text? "." then
      gap
      return some (← simpleKey)
    else return none
  return first :: rest

-- Digits in which an underscore may stand between two of them.
def digits? (isDigit : Char → Bool) (cs : List Char) : Option (List Char) :=
  let groups := splitAtChar '_' cs
  if groups.all fun g => !g.isEmpty && g.all isDigit then some groups.flatten else none

def wholeDigits? (cs : List Char) : Option (List Char) :=
  match digits? Char.isDigit cs with
  | some ['0'] => some ['0']
  | some ('0' :: _) => none
  | ds => ds

def isSign (c : Char) : Bool :=
  c = '+' || c = '-'

def unsigned (cs : List Char) : List Char :=
  match cs with
  | c :: rest => if isSign c then rest else cs
  | [] => []

def radixInteger? (cs : List Char) : Option Int :=
  match cs with
  | '0' :: 'x' :: ds => (digits? isHexDigit ds).map fun ds => (numberIn 16 ds : Int)
  | '0' :: 'o' :: ds =>
    (digits? (fun c => '0' ≤ c && c ≤ '7') ds).map fun ds => (numberIn 8 ds : Int)
  | '0' :: 'b' :: ds =>
    (digits? (fun c => c = '0' || c = '1') ds).map fun ds => (numberIn 2 ds : Int)
  | _ => none

def decimalInteger? (cs : List Char) : Option Int :=
  (wholeDigits? (unsigned cs)).map fun ds =>
    if cs.head? = some '-' then -(numberIn 10 ds : Int) else (numberIn 10 ds : Int)

def fits64 (n : Int) : Bool :=
  Int64.minValue.toInt ≤ n && n ≤ Int64.maxValue.toInt

def integer? (cs : List Char) : Option Int :=
  ((radixInteger? cs).or (decimalInteger? cs)).filter fits64

def isExponentMark (c : Char) : Bool :=
  c = 'e' || c = 'E'

-- An exponent, or nothing.
def isExponent (cs : List Char) : Bool :=
  match cs with
  | [] => true
  | _ :: ds => (digits? Char.isDigit (unsigned ds)).isSome

-- A point with digits on both sides, or an exponent, or both.
def isFloat (cs : List Char) : Bool :=
  let cs := unsigned cs
  let mantissa := cs.takeWhile (!isExponentMark ·)
  let exponent := cs.dropWhile (!isExponentMark ·)
  cs = "inf".toList || cs = "nan".toList ||
    (isExponent exponent && match mantissa.dropWhile (· ≠ '.') with
      | [] => (wholeDigits? mantissa).isSome && !exponent.isEmpty
      | _ :: fraction =>
        (wholeDigits? (mantissa.takeWhile (· ≠ '.'))).isSome &&
          (digits? Char.isDigit fraction).isSome)

section Dates

open Calendar (Pattern Item Part)

def fullDate : Pattern :=
  [.exact .year, .oneOf ['-'], .exact .month, .oneOf ['-'], .exact .day]

def clock : Pattern :=
  [.exact .hour, .oneOf [':'], .exact .minute, .oneOf [':'], .exact .second, .fraction]

def betweenDateAndClock : Item :=
  .oneOf ['T', 't', ' ']

def isClock (cs : List Char) : Bool :=
  match clock.read? {} cs with
  | some (_, []) => true
  | _ => false

def isDate (cs : List Char) : Bool :=
  isClock cs || fullDate.admits cs || (fullDate ++ betweenDateAndClock :: clock).admits cs ||
    (fullDate ++ betweenDateAndClock :: clock ++ [Item.zone]).admits cs

end Dates

def isScalarChar (c : Char) : Bool :=
  isKeyChar c || c = '+' || c = '.' || c = ':'

-- The characters of a scalar without quotes. One blank may stand between a date and a clock.
def scalarChars : CharParser (List Char) := do
  let word ← takeWhile isScalarChar
  match ← get with
  | ' ' :: c :: _ =>
    if fullDate.admits word && c.isDigit then
      skip 1
      return word ++ ' ' :: (← takeWhile isScalarChar)
    else return word
  | _ => return word

def bareScalar : CharParser Datum := do
  let word ← scalarChars
  if word = "true".toList then return .boolean true
  else if word = "false".toList then return .boolean false
  else match integer? word with
    | some n => return .integer n
    | none =>
      require (isFloat word || isDate word)
      return .other

end Scalar

namespace Table

open Datum

-- Whether dotted keys may add to a table.
def isOpen : TableOrigin → Bool
  | .implied | .dottedKey => true
  | .header | .closed => false

-- Puts a value under a key of a table, inside tables that the dots before the key name.
def assign (value : Datum) (last : String) : (path : List String) → Datum → Option Datum
  | [], table origin entries =>
    (setEntry last (fun d => if d.isSome then none else some value) entries).map (table origin)
  | key :: path, table origin entries =>
    (setEntry key (fun d => inner path (d.getD (emptyTable .dottedKey))) entries).map (table origin)
  | _, _ => none
where
  -- Dotted keys end in a table that dotted keys made.
  inner (path : List String) (d : Datum) : Option Datum :=
    match d with
    | table origin _ =>
      if isOpen origin && (!path.isEmpty || origin = .dottedKey) then assign value last path d
      else none
    | _ => none

-- Changes the table under a header: the latest one where the header is repeated.
def changeAt (change : Datum → Option Datum) : (path : List String) → Datum → Option Datum
  | [], d => change d
  | key :: path, table origin entries =>
    (setEntry key (fun d => inner path (d.getD (emptyTable .implied))) entries).map (table origin)
  | _, _ => none
where
  inner (path : List String) (d : Datum) : Option Datum :=
    match d with
    | table .closed _ => none
    | table _ _ => changeAt change path d
    | tables (latest :: earlier) => (changeAt change path latest).map fun d => tables (d :: earlier)
    | _ => none

def entriesOf (d : Datum) : List (String × Datum) :=
  match d with
  | table _ entries => entries
  | _ => []

-- Opens the table `last`, which no other header may have opened.
def openTable (last : String) (parent : Datum) : Option Datum :=
  let opened (d : Option Datum) : Option Datum :=
    match d with
    | none => some (emptyTable .header)
    | some (table .implied entries) => some (table .header entries)
    | some _ => none
  match parent with
  | table origin entries => (setEntry last opened entries).map (table origin)
  | _ => none

-- Adds a table to the list `last`.
def addTable (last : String) (parent : Datum) : Option Datum :=
  let added (d : Option Datum) : Option Datum :=
    match d with
    | none => some (tables [emptyTable .header])
    | some (tables items) => some (tables (emptyTable .header :: items))
    | some _ => none
  match parent with
  | table origin entries => (setEntry last added entries).map (table origin)
  | _ => none

end Table

open Scalar

def liftOption {α : Type} (a : Option α) : CharParser α :=
  match a with
  | some a => pure a
  | none => failure

-- Items between commas up to a bracket; a comma may follow the last one.
def items (value : CharParser Datum) : CharParser (List Datum) := do
  let read ← many do
    space
    if ← text? "]" then return none
    else
      let item ← value
      space
      if ← text? "," then return some item
      else
        require ((← peek?) = some ']')
        return some item
  return read

-- A table between braces, on one line and without a comma at its end.
def inlineTable (value : CharParser Datum) : CharParser Datum := do
  gap
  if ← text? "\x7d" then return .table .closed []
  let entry : CharParser (List String × Datum) := do
    gap
    let path ← key
    gap
    text "="
    gap
    let d ← value
    gap
    return (path, d)
  let first ← entry
  let rest ← many do if ← text? "," then return some (← entry) else return none
  text "\x7d"
  let filled ← (first :: rest).foldlM (fun d (path, v) =>
    liftOption (Table.assign v (path.getLast?.getD "") path.dropLast d)) (Datum.emptyTable .header)
  return .table .closed (Table.entriesOf filled)

def value : (depth : Nat) → CharParser Datum
  | 0 => failure
  | depth + 1 => do
    match ← quoted? with
    | some s => return .text s
    | none =>
      if ← text? "[" then return .list false (← items (value depth))
      else if ← text? "\x7b" then inlineTable (value depth)
      else bareScalar

-- How deep values may nest.
def maxDepth : Nat := 80

-- A document under way: all tables, and the header under which keys are put.
structure Document where
  root : Datum := .table .header []
  header : List String := []

-- A line that says something: a header, a header that is repeated, or a key with its value.
inductive Line
  | header (path : List String)
  | repeated (path : List String)
  | entry (path : List String) (value : Datum)

def headerPath (closing : String) : CharParser (List String) := do
  gap
  let path ← key
  gap
  text closing
  return path

def line : CharParser Line := do
  if ← text? "[[" then return .repeated (← headerPath "]]")
  else if ← text? "[" then return .header (← headerPath "]")
  else
    let path ← key
    gap
    text "="
    gap
    return .entry path (← value maxDepth)

def lines : CharParser (List Line) :=
  many do
    space
    if ← atEnd then return none
    else
      let l ← line
      restOfLine
      return some l

namespace Document

def lastOf (path : List String) : String :=
  path.getLast?.getD ""

-- A table is defined once: under its own header, by dotted keys, or in one place between braces.
def add (d : Document) (l : Line) : Option Document :=
  match l with
  | .header path =>
    (Table.changeAt (Table.openTable (lastOf path)) path.dropLast d.root).map (⟨·, path⟩)
  | .repeated path =>
    (Table.changeAt (Table.addTable (lastOf path)) path.dropLast d.root).map (⟨·, path⟩)
  | .entry path v =>
    let change := Table.assign v (lastOf path) path.dropLast
    (Table.changeAt change d.header d.root).map (⟨·, d.header⟩)

end Document

def dropByteOrderMark : List Char → List Char
  | '\ufeff' :: cs => cs
  | cs => cs

def read? (cs : List Char) : Option Datum := do
  let ls ← whole lines (dropByteOrderMark cs)
  let d ← ls.foldlM Document.add {}
  return d.root

end TypedRows.Toml
