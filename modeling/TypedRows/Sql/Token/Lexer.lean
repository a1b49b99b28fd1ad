import TypedRows.Dialect
import TypedRows.Sql.Token
import TypedRows.Text.Blank

namespace TypedRows.Sql

open Text

namespace Lexer

def isHighWordChar (c : Char) : Bool :=
  0x80 ≤ c.toNat && c.toNat ≤ 0xFFFF

def startsWord (d : Dialect) (c : Char) : Bool :=
  match d with
  | .mysql => isAlphabetic c || c = '_' || c = '$' || c = '@' || isHighWordChar c
  | .postgresql => isAlphabetic c || c = '_'
  | .sqlite => c.isAlpha || c = '_' || c = '$' || c = '\x7f' || isHighWordChar c

def continuesWord (d : Dialect) (c : Char) : Bool :=
  startsWord d c || c.isDigit || (c = '$' && d = .postgresql)

def opensIdentifier (d : Dialect) (c : Char) : Bool :=
  match d with
  | .mysql => c = '\x60'
  | .postgresql => c = '\x22'
  | .sqlite => c = '\x60' || c = '\x22' || c = '['

def closingQuote (c : Char) : Char :=
  if c = '[' then ']' else c

def hexValue? (c : Char) : Option Nat :=
  if c.isDigit then some (c.toNat - '0'.toNat)
  else if 'a' ≤ c && c ≤ 'f' then some (c.toNat - 'a'.toNat + 10)
  else if 'A' ≤ c && c ≤ 'F' then some (c.toNat - 'A'.toNat + 10)
  else none

def octalValue? (c : Char) : Option Nat :=
  (hexValue? c).filter (· < 8)

-- The value of as many leading digits as there are, at most `width`, and what follows them.
def leadingDigits (digit? : Char → Option Nat) (base : Nat) (cs : List Char) :
    (width : Nat) → (value : Nat) → Nat × List Char
  | 0, value => (value, cs)
  | width + 1, value =>
    match cs with
    | [] => (value, [])
    | c :: rest =>
      match digit? c with
      | none => (value, cs)
      | some n => leadingDigits digit? base rest width (base * value + n)

def charOf? (n : Nat) : Option Char :=
  if n.isValidChar then some (Char.ofNat n) else none

-- A character given by exactly `width` hexadecimal digits.
def codePoint? (width : Nat) (cs : List Char) : Option (Char × List Char) :=
  let digits := cs.take width
  if digits.length = width && digits.all (fun c => (hexValue? c).isSome) then
    (charOf? (leadingDigits hexValue? 16 digits width 0).1).map (·, cs.drop width)
  else none

def asciiOf? : Nat × List Char → Option (Char × List Char)
  | (n, rest) => if 0 < n && n < 0x80 then some (Char.ofNat n, rest) else none

-- What a backslash and the text after it stand for.
abbrev Escapes := List Char → Option (Char × List Char)

def shortEscapes : Escapes
  | [] => none
  | c :: cs =>
    let image := match c with
      | '0' => '\x00'
      | 'a' => '\x07'
      | 'b' => '\x08'
      | 'f' => '\x0c'
      | 'n' => '\n'
      | 'r' => '\r'
      | 't' => '\t'
      | 'Z' => '\x1a'
      | c => c
    some (image, cs)

def longEscapes : Escapes
  | [] => none
  | c :: cs =>
    match c with
    | 'b' => some ('\x08', cs)
    | 'f' => some ('\x0c', cs)
    | 'n' => some ('\n', cs)
    | 'r' => some ('\r', cs)
    | 't' => some ('\t', cs)
    | 'u' => (codePoint? 4 cs).filter (·.1 ≠ '\x00')
    | 'U' => (codePoint? 8 cs).filter (·.1 ≠ '\x00')
    | 'x' =>
      if cs.head?.any (fun c => (hexValue? c).isSome) then
        asciiOf? (leadingDigits hexValue? 16 cs 2 0)
      else some ('x', cs)
    | c =>
      if (octalValue? c).isSome then
        let (n, rest) := leadingDigits octalValue? 8 (c :: cs) 3 0
        asciiOf? (n % 256, rest)
      else if c = '\x00' then none
      else some (c, cs)

def unicodeEscapes : Escapes
  | '\\' :: cs => some ('\\', cs)
  | '+' :: cs => codePoint? 6 cs
  | cs => codePoint? 4 cs

-- The text up to the closing quote, where two quotes stand for one.
def quotedText (quote : Char) (escapes : Option Escapes) (read : List Char) :
    (fuel : Nat) → List Char → Option (List Char × List Char)
  | 0, _ => none
  | _, [] => none
  | fuel + 1, c :: cs =>
    if c = quote then
      match cs with
      | d :: ds =>
        if d = quote then quotedText quote escapes (c :: read) fuel ds
        else some (read.reverse, cs)
      | [] => some (read.reverse, [])
    else match escapes with
      | none => quotedText quote none (c :: read) fuel cs
      | some f =>
        if c ≠ '\\' then quotedText quote escapes (c :: read) fuel cs
        else match f cs with
          | none => none
          | some (c, rest) => quotedText quote escapes (c :: read) fuel rest

-- A token, if there is one, and what follows it.
abbrev Cut := Option Token × List Char

def string? (kind : StringKind) (quote : Char) (escapes : Option Escapes) (cs : List Char) :
    Option Cut :=
  (quotedText quote escapes [] (cs.length + 1) cs).map fun (value, rest) =>
    (some (.string kind (String.ofList value)), rest)

-- Backslashes escape in the literals of MySQL.
def literalEscapes (d : Dialect) : Option Escapes :=
  if d = .mysql then some shortEscapes else none

-- A literal whose kind is told by a letter before it, or what `other` makes of the text.
def prefixed? (d : Dialect) (cs : List Char) (other : Option Cut) : Option Cut :=
  match cs with
  | c :: '\x27' :: rest =>
    match c.toUpper with
    | 'N' => string? .national '\x27' (literalEscapes d) rest
    | 'X' => string? .hexadecimal '\x27' (some shortEscapes) rest
    | 'B' => if d = .sqlite then other else string? .bytes '\x27' none rest
    | 'E' => string? .escaped '\x27' (some longEscapes) rest
    | _ => other
  | c :: '\x22' :: rest =>
    if c.toUpper = 'B' && d ≠ .sqlite then string? .doubleBytes '\x22' none rest else other
  | c :: '&' :: '\x27' :: rest =>
    if c.toUpper = 'U' && d = .postgresql then string? .unicode '\x27' (some unicodeEscapes) rest
    else other
  | _ => other

def identifier? (opening : Char) (cs : List Char) : Option Cut :=
  (quotedText (closingQuote opening) none [] (cs.length + 1) cs).map fun (value, rest) =>
    (some (.word ⟨String.ofList value, some opening⟩ ""), rest)

def word (d : Dialect) (start rest : List Char) : Cut :=
  (some (bareWord (String.ofList (start ++ rest.takeWhile (continuesWord d)))),
    rest.dropWhile (continuesWord d))

def isExponentMark (c : Char) : Bool :=
  c = 'e' || c = 'E'

-- An exponent with its mark, if one with digits stands here.
def exponent (cs : List Char) : List Char × List Char :=
  match cs with
  | [] => ([], [])
  | e :: rest =>
    if !isExponentMark e then ([], cs)
    else
      let sign := rest.take 1 |>.filter fun c => c = '+' || c = '-'
      let rest := rest.drop sign.length
      match rest.takeWhile Char.isDigit with
      | [] => ([], cs)
      | ds => (e :: sign ++ ds, rest.dropWhile Char.isDigit)

-- A number, or in MySQL a word that starts with digits and no exponent mark right after them.
def decimal (d : Dialect) (digits rest : List Char) : Cut :=
  let tail := rest.takeWhile (continuesWord d)
  if d = .mysql && !tail.isEmpty && !tail.head?.any isExponentMark then
    (some (bareWord (String.ofList (digits ++ tail))), rest.dropWhile (continuesWord d))
  else
    let (power, rest) := exponent rest
    let number := String.ofList (digits ++ power)
    match rest with
    | 'L' :: rest => (some (.number number true), rest)
    | _ => (some (.number number false), rest)

def number (d : Dialect) (cs : List Char) : Cut :=
  let whole := cs.takeWhile Char.isDigit
  match whole, cs.dropWhile Char.isDigit with
  | ['0'], 'x' :: rest =>
    let isHex (c : Char) := (hexValue? c).isSome
    (some (.string .hexadecimal (String.ofList (rest.takeWhile isHex))), rest.dropWhile isHex)
  | [], '.' :: rest =>
    match rest.takeWhile Char.isDigit with
    | [] => (some (.symbol "."), rest)
    | fraction => decimal d ('.' :: fraction) (rest.dropWhile Char.isDigit)
  | whole, '.' :: rest =>
    decimal d (whole ++ '.' :: rest.takeWhile Char.isDigit) (rest.dropWhile Char.isDigit)
  | whole, rest => decimal d whole rest

-- What follows a comment. Comments nest.
def afterComment (depth : Nat) (last : Char) : List Char → Option (List Char)
  | [] => none
  | c :: cs =>
    if last = '/' && c = '*' then afterComment (depth + 1) c cs
    else if last = '*' && c = '/' then
      if depth = 0 then some cs else afterComment (depth - 1) c cs
    else afterComment depth c cs

def afterLine (cs : List Char) : List Char :=
  (cs.dropWhile (· ≠ '\n')).drop 1

-- The text before the first `mark`, and what follows the mark.
def upTo (mark : List Char) : List Char → Option (List Char × List Char)
  | [] => none
  | c :: cs =>
    if mark.isPrefixOf (c :: cs) then some ([], (c :: cs).drop mark.length)
    else (upTo mark cs).map fun (before, after) => (c :: before, after)

def isTagChar (c : Char) : Bool :=
  isAlphanumeric c || c = '_'

-- What follows a dollar sign: a literal between tags, or the name of a placeholder.
def dollar? (cs : List Char) : Option Cut :=
  let tag := cs.takeWhile isTagChar
  match cs.dropWhile isTagChar with
  | '$' :: rest =>
    (upTo ('$' :: tag ++ ['$']) rest).map fun (value, rest) =>
      (some (.string (.dollar (String.ofList tag)) (String.ofList value)), rest)
  | rest => some (some (.placeholder (String.ofList ('$' :: tag))), rest)

-- Operators and marks, the longer ones first, and whether other characters may continue them.
def symbols : List (String × Bool) := [
  ("||/", true), ("||", true), ("|/", true), ("|", true),
  ("=>", false), ("==", false), ("=", false),
  ("!~~*", false), ("!~~", false), ("!~*", false), ("!~", false), ("!=", false), ("!!", false),
  ("!", false),
  ("<=>", true), ("<=", true), ("<>", true), ("<<", true), ("<@", true), ("<", true),
  (">=", true), (">>", true), (">", true),
  ("::", false), (":=", false), (":", false),
  ("&&", true), ("&", true), ("^@", false), ("^", false),
  ("~~*", true), ("~~", true), ("~*", true), ("~", true),
  ("#>>", true), ("#>", true), ("#-", true), ("#", true),
  ("@>", true), ("@?", true), ("@@", false), ("@", false),
  ("->>", true), ("->", true), ("-", true), ("%", true),
  ("+", false), ("*", false), ("/", false), (",", false), (";", false), ("(", false), (")", false),
  ("[", false), ("]", false), ("\x7b", false), ("\x7d", false), ("\\", false)]

def isOperatorChar (c : Char) : Bool :=
  ['+', '-', '*', '/', '<', '>', '=', '~', '!', '@', '#', '%', '^', '&', '|', '\x60', '?'].contains
    c

def symbol? (d : Dialect) (cs : List Char) : Option Cut :=
  match symbols.find? fun s => s.1.toList.isPrefixOf cs with
  | none => none
  | some (text, grows) =>
    let rest := cs.drop text.length
    let more := if grows && d = .postgresql then rest.takeWhile isOperatorChar else []
    if !more.isEmpty then
      some (some (.customOperator (text ++ String.ofList more)), rest.dropWhile isOperatorChar)
    else if text = "!=" then some (some (.symbol "<>"), rest)
    else some (some (.symbol text), rest)

-- A sign that starts a variable in MySQL takes the next character with it.
def sqlVariable? (d : Dialect) (cs : List Char) : Option Cut :=
  if d ≠ .mysql then none
  else match cs with
    | '@' :: '@' :: c :: rest => if c = ' ' then none else some (word d ['@', '@', c] rest)
    | '@' :: c :: rest =>
      if ['>', '?', '@', ' ', '\x27', '\x22', '\x60'].contains c then none
      else some (word d ['@', c] rest)
    | _ => none

def questionMark (d : Dialect) (cs : List Char) : Cut :=
  if d = .postgresql then
    match cs with
    | '|' :: rest => (some (.symbol "?|"), rest)
    | '&' :: rest => (some (.symbol "?&"), rest)
    | rest => (some (.symbol "?"), rest.drop 1)
  else (some (.placeholder (String.ofList ('?' :: cs.takeWhile isNumeric))), cs.dropWhile isNumeric)

-- A comment of one line. MySQL asks for a blank after two hyphens, and has a second mark.
def isLineComment (d : Dialect) : List Char → Bool
  | '-' :: '-' :: rest => d ≠ .mysql || rest.head? = some ' '
  | '#' :: _ => d = .mysql
  | _ => false

def otherToken (d : Dialect) (c : Char) (rest : List Char) : Cut :=
  if startsWord d c then word d [c] rest
  else if isBlank c then (none, rest)
  else (some (.other c), rest)

def unquoted? (d : Dialect) (c : Char) (rest : List Char) : Option Cut :=
  if isLineComment d (c :: rest) then some (none, afterLine rest)
  else match c, rest with
    | '/', '*' :: rest => (afterComment 0 ' ' rest).map (none, ·)
    | '?', rest => some (questionMark d rest)
    | '$', rest => if startsWord d '$' then some (word d ['$'] rest) else dollar? rest
    | c, rest =>
      ((sqlVariable? d (c :: rest)).or (symbol? d (c :: rest))).or (some (otherToken d c rest))

def cut? (d : Dialect) (c : Char) (rest : List Char) : Option Cut :=
  prefixed? d (c :: rest) <|
    if c = '\x27' then string? .single c (literalEscapes d) rest
    else if opensIdentifier d c then identifier? c rest
    else if c = '\x22' then string? .double c (literalEscapes d) rest
    else if c.isDigit || c = '.' then some (number d (c :: rest))
    else unquoted? d c rest

-- `read` holds the tokens so far, last one first.
def tokensFrom (d : Dialect) (read : List Token) : (fuel : Nat) → List Char → Option (List Token)
  | _, [] => some read.reverse
  | 0, _ => none
  | fuel + 1, c :: cs =>
    match cut? d c cs with
    | none => none
    | some (none, rest) => tokensFrom d read fuel rest
    | some (some t, rest) => tokensFrom d (t :: read) fuel rest

end Lexer

-- The tokens of a text. Each takes a character or more, so its length bounds their number.
-- A text with an open quote has none at all; blanks and comments leave no token.
def tokens? (d : Dialect) (cs : List Char) : Option (List Token) :=
  Lexer.tokensFrom d [] cs.length cs

end TypedRows.Sql
