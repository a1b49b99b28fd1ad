import TypedRows.Text.LetterCase.Table
import TypedRows.Text.Category

namespace TypedRows.Text

namespace LetterCase

def shiftBy (shifts : List Shift) (c : Char) : Char :=
  match shifts.find? (·.applies c.toNat) with
  | some s => Char.ofNat (c.toNat + s.distance).toNat
  | none => c

def lowerChar (c : Char) : List Char :=
  if c.toNat < 0x80 then [c.toLower]
  else if c = '\u0130' then ['i', '\u0307']
  else [shiftBy lowerShifts c]

def upperChar (c : Char) : List Char :=
  if c.toNat < 0x80 then [c.toUpper]
  else match upperExpansions.lookup c.toNat with
    | some cs => cs
    | none => [shiftBy upperShifts c]

def isCased (c : Char) : Bool :=
  if c.toNat < 0x80 then c.isAlpha else Category.cased.contains c

def isCaseIgnorable (c : Char) : Bool :=
  if c.toNat < 0x80 then ['\x27', '.', ':', '^', '\x60'].contains c
  else Category.caseIgnorable.contains c

-- Whether the first character of `cs` that matters to case is a cased one.
def meetsCased (cs : List Char) : Bool :=
  match cs.dropWhile isCaseIgnorable with
  | [] => false
  | c :: _ => isCased c

-- `before` holds what precedes, nearest character first.
-- A capital sigma at the end of a word becomes the final one.
def lowerAfter (before : List Char) : List Char → List Char
  | [] => []
  | c :: rest =>
    let image :=
      if c = 'Σ' then [if meetsCased before && !meetsCased rest then 'ς' else 'σ'] else lowerChar c
    image ++ lowerAfter (c :: before) rest

end LetterCase

def lowerChars (cs : List Char) : List Char :=
  LetterCase.lowerAfter [] cs

def upperChars (cs : List Char) : List Char :=
  cs.flatMap LetterCase.upperChar

def lower (s : String) : String :=
  String.ofList (lowerChars s.toList)

def upper (s : String) : String :=
  String.ofList (upperChars s.toList)

def isAlphabetic (c : Char) : Bool :=
  if c.toNat < 0x80 then c.isAlpha else Category.alphabetic.contains c

def isNumeric (c : Char) : Bool :=
  if c.toNat < 0x80 then c.isDigit else Category.numeric.contains c

def isAlphanumeric (c : Char) : Bool :=
  isAlphabetic c || isNumeric c

def isLowercase (c : Char) : Bool :=
  if c.toNat < 0x80 then c.isLower else Category.lowercase.contains c

def isUppercase (c : Char) : Bool :=
  if c.toNat < 0x80 then c.isUpper else Category.uppercase.contains c

-- Decimal digits of any script.
def isDecimalDigit (c : Char) : Bool :=
  if c.toNat < 0x80 then c.isDigit else Category.decimalDigit.contains c

end TypedRows.Text
