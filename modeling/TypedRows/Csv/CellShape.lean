import TypedRows.Calendar.Pattern
import TypedRows.Text.LetterCase
import TypedRows.Text.Utf8

namespace TypedRows.Csv

open Text

-- The sizes in bytes of both parts of a decimal numeral, leading zeros left out.
structure DecimalShape where
  whole : Nat
  fraction : Nat
  deriving DecidableEq, Repr

namespace DecimalShape

def dropSign : List Char → List Char
  | c :: cs => if c = '+' || c = '-' then cs else c :: cs
  | [] => []

def ofParts (whole fraction : List Char) : DecimalShape :=
  ⟨max 1 (Utf8.size (whole.dropWhile (· = '0'))), Utf8.size fraction⟩

-- Digits of any script with an optional sign and point; a point needs a digit on one of its sides.
def ofChars? (cs : List Char) : Option DecimalShape :=
  let whole := (dropSign cs).takeWhile isDecimalDigit
  match (dropSign cs).dropWhile isDecimalDigit with
  | [] => if whole.isEmpty then none else some (ofParts whole [])
  | '.' :: fraction =>
    if fraction.all isDecimalDigit && !(whole.isEmpty && fraction.isEmpty) then
      some (ofParts whole fraction)
    else none
  | _ => none

end DecimalShape

structure CellShape where
  integer : Option Int
  decimal : Option DecimalShape
  date : Bool
  dateTime : Bool
  deriving DecidableEq, Repr

def CellShape.ofChars (cs : List Char) : CellShape where
  integer := integer64? cs
  decimal := DecimalShape.ofChars? cs
  date := Calendar.isDateText cs
  dateTime := Calendar.isDateTimeText cs

end TypedRows.Csv
