import TypedRows.Csv.CellShape
import TypedRows.Schema.CanonicalType

namespace TypedRows.Csv

open Text

-- Which types all cells allow so far. Blank cells say nothing.
structure Evidence where
  seen : Nat := 0
  allInteger : Bool := true
  allNarrow : Bool := true
  allDecimal : Bool := true
  whole : Nat := 0
  fraction : Nat := 0
  allDate : Bool := true
  allTemporal : Bool := true
  anyDateTime : Bool := false
  deriving DecidableEq, Repr

def fits32 (n : Int) : Bool :=
  Int32.minValue.toInt ≤ n && n ≤ Int32.maxValue.toInt

namespace Evidence

def none : Evidence := {}

def add (e : Evidence) (s : CellShape) : Evidence where
  seen := e.seen + 1
  allInteger := e.allInteger && s.integer.isSome
  allNarrow := e.allNarrow && s.integer.all fits32
  allDecimal := e.allDecimal && s.decimal.isSome
  whole := max e.whole ((s.decimal.map DecimalShape.whole).getD 0)
  fraction := max e.fraction ((s.decimal.map DecimalShape.fraction).getD 0)
  allDate := e.allDate && s.date
  allTemporal := e.allTemporal && (s.date || s.dateTime)
  anyDateTime := e.anyDateTime || s.dateTime

def observe (e : Evidence) (cell : List Char) : Evidence :=
  match trimChars cell with
  | [] => e
  | value => e.add (.ofChars value)

-- The greatest precision and scale that a canonical decimal has room for.
def clamp (n : Nat) : UInt16 :=
  (min n 65535).toUInt16

def canonical (e : Evidence) : CanonicalType :=
  if e.seen = 0 then .text Option.none
  else if e.allInteger then .integer (if e.allNarrow then 32 else 64)
  else if e.allDecimal then .decimal (clamp (e.whole + e.fraction)) (clamp e.fraction)
  else if e.allDate then .date
  else if e.allTemporal && e.anyDateTime then .datetime
  else .text Option.none

def ofCells (cells : List (List Char)) : Evidence :=
  cells.foldl observe none

end Evidence
end TypedRows.Csv
