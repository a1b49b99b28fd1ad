import TypedRows.Failure
import TypedRows.Text.Blank
import TypedRows.Text.Numeral

namespace TypedRows

open Text

inductive CanonicalType
  | integer (width : UInt8)
  | float (width : UInt8)
  | decimal (precision scale : UInt16)
  | text (length : Option UInt64)
  | boolean
  | date
  | datetime
  | binary (length : Option UInt64)
  | unknown
  deriving DecidableEq, Repr

-- Types as far as target languages tell them apart.
inductive TypeKind
  | int8
  | int16
  | int32
  | int64
  | float32
  | float64
  | decimal
  | text
  | boolean
  | date
  | datetime
  | binary
  deriving DecidableEq, Repr

namespace CanonicalType

def kind? : CanonicalType → Option TypeKind
  | integer w =>
    some (if w ≤ 8 then .int8 else if w ≤ 16 then .int16 else if w ≤ 32 then .int32 else .int64)
  | float w => some (if w ≤ 32 then .float32 else .float64)
  | decimal _ _ => some .decimal
  | text _ => some .text
  | boolean => some .boolean
  | date => some .date
  | datetime => some .datetime
  | binary _ => some .binary
  | unknown => none

def isUnknown (t : CanonicalType) : Bool :=
  t = unknown

def withArguments (name : String) (arguments : List Nat) : String :=
  name ++ "(" ++ ",".intercalate (arguments.map fun n => toString n) ++ ")"

def render : CanonicalType → String
  | integer w => withArguments "integer" [w.toNat]
  | float w => withArguments "float" [w.toNat]
  | decimal p s => withArguments "decimal" [p.toNat, s.toNat]
  | text (some n) => withArguments "text" [n.toNat]
  | text none => "text"
  | boolean => "boolean"
  | date => "date"
  | datetime => "datetime"
  | binary (some n) => withArguments "binary" [n.toNat]
  | binary none => "binary"
  | unknown => "unknown"

-- The name and the text between the parentheses, which have to close at the end.
def splitArguments (cs : List Char) : Option (List Char × Option (List Char)) :=
  match cs.dropWhile (· ≠ '(') with
  | [] => some (cs, none)
  | _ :: inner =>
    if inner.getLast? = some ')' then some (cs.takeWhile (· ≠ '('), some inner.dropLast) else none

-- Numerals up to 2^64 - 1 between commas.
def arguments? (cs : List Char) : Option (List Nat) :=
  (splitAtChar ',' cs).mapM fun a => boundedNumeral? UInt64.size (trimChars a)

def ofParts? : String → Option (List Nat) → Option CanonicalType
  | "integer", some [w] => if w < UInt8.size then some (integer w.toUInt8) else none
  | "float", some [w] => if w < UInt8.size then some (float w.toUInt8) else none
  | "decimal", some [p, s] =>
    if p < UInt16.size && s < UInt16.size then some (decimal p.toUInt16 s.toUInt16) else none
  | "text", none => some (text none)
  | "text", some [n] => some (text (some n.toUInt64))
  | "binary", none => some (binary none)
  | "binary", some [n] => some (binary (some n.toUInt64))
  | "boolean", none => some boolean
  | "date", none => some date
  | "datetime", none => some datetime
  | "unknown", none => some unknown
  | _, _ => none

-- Blanks may stand around the whole and around each number, which may have a plus sign.
def ofChars? (cs : List Char) : Option CanonicalType :=
  match splitArguments (trimChars cs) with
  | none => none
  | some (name, none) => ofParts? (String.ofList name) none
  | some (name, some inner) =>
    match arguments? inner with
    | none => none
    | some ns => ofParts? (String.ofList name) (some ns)

def ofText (s : String) : Except Failure CanonicalType :=
  match ofChars? s.toList with
  | some t => .ok t
  | none => .error (.parse ("Invalid canonical type: " ++ s))

end CanonicalType
end TypedRows
