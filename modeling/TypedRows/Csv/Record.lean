import TypedRows.Text.Utf8

namespace TypedRows.Csv

open Text

-- Lines count from 1 and bytes from 0.
structure Position where
  line : Nat := 1
  byte : Nat := 0
  deriving DecidableEq, Repr

def Position.after (p : Position) (b : UInt8) : Position :=
  ⟨if b = 0x0A then p.line + 1 else p.line, p.byte + 1⟩

-- For its position, a record begins right after the byte that ended the one before it.
structure RawRecord where
  index : Nat
  position : Position
  fields : List (List UInt8)
  deriving DecidableEq, Repr

namespace RawRecord

-- Where in a record the next byte stands.
inductive Place
  | outside
  -- After a carriage return; a line feed belongs to it.
  | afterReturn
  | fieldStart
  | bare
  | quoted
  -- After a quote inside a quoted field.
  | quoteSeen
  deriving DecidableEq, Repr

-- Lists hold the latest item first.
-- Stray quotes are taken as they come.
structure Cutter where
  place : Place := .outside
  here : Position := {}
  start : Position := {}
  field : List UInt8 := []
  fields : List (List UInt8) := []
  count : Nat := 0
  records : List RawRecord := []

namespace Cutter

def isTerminator (b : UInt8) : Bool :=
  b = 0x0A || b = 0x0D

def quote : UInt8 := 0x22

def push (c : Cutter) (b : UInt8) (place : Place) : Cutter :=
  { c with field := b :: c.field, place := place }

def endField (c : Cutter) : Cutter :=
  { c with field := [], fields := c.field.reverse :: c.fields, place := .fieldStart }

def record (c : Cutter) : RawRecord :=
  ⟨c.count, c.start, (c.field.reverse :: c.fields).reverse⟩

def endRecord (c : Cutter) (b : UInt8) : Cutter where
  place := if b = 0x0D then .afterReturn else .outside
  here := c.here
  start := c.here.after b
  count := c.count + 1
  records := c.record :: c.records

-- A byte that no open quotes protect.
def unquoted (c : Cutter) (delimiter b : UInt8) : Cutter :=
  if b = delimiter then c.endField
  else if isTerminator b then c.endRecord b
  else c.push b .bare

def atFieldStart (c : Cutter) (delimiter b : UInt8) : Cutter :=
  if b = quote then { c with place := .quoted } else c.unquoted delimiter b

def outsideRecord (c : Cutter) (delimiter b : UInt8) : Cutter :=
  if isTerminator b then { c with place := .outside } else c.atFieldStart delimiter b

def take (c : Cutter) (delimiter b : UInt8) : Cutter :=
  match c.place with
  | .outside => c.outsideRecord delimiter b
  | .afterReturn => if b = 0x0A then { c with place := .outside } else c.outsideRecord delimiter b
  | .fieldStart => c.atFieldStart delimiter b
  | .bare => c.unquoted delimiter b
  | .quoted => if b = quote then { c with place := .quoteSeen } else c.push b .quoted
  | .quoteSeen => if b = quote then c.push b .quoted else c.unquoted delimiter b

def step (delimiter : UInt8) (c : Cutter) (b : UInt8) : Cutter :=
  { c.take delimiter b with here := c.here.after b }

-- The end of the bytes ends an open record.
def finish (c : Cutter) : List RawRecord :=
  match c.place with
  | .outside | .afterReturn => c.records.reverse
  | .fieldStart | .bare | .quoted | .quoteSeen => (c.record :: c.records).reverse

end Cutter

-- A byte order mark is no part of the first record but counts for positions.
def start (bytes : List UInt8) : Cutter :=
  { here := ⟨1, bytes.length - (Utf8.dropByteOrderMark bytes).length⟩ }

def ofBytes (delimiter : UInt8) (bytes : List UInt8) : List RawRecord :=
  ((Utf8.dropByteOrderMark bytes).foldl (Cutter.step delimiter) (start bytes)).finish

-- Why a record cannot be read as cells.
inductive Fault
  | size (found expected : Nat)
  | encoding (field index : Nat)
  deriving DecidableEq, Repr

def Fault.message (f : Fault) (r : RawRecord) : String :=
  let record := "record " ++ toString r.index
  let line := toString r.position.line
  let byte := toString r.position.byte
  match f with
  | size found expected =>
    "CSV error: " ++ record ++ " (line: " ++ line ++ ", byte: " ++ byte ++ "): " ++
      "found record with " ++ toString found ++ " fields, but the previous record has " ++
      toString expected ++ " fields"
  | encoding field index =>
    "CSV parse error: " ++ record ++ " (line " ++ line ++ ", field: " ++ toString field ++
      ", byte: " ++ byte ++ "): invalid utf-8: invalid UTF-8 in field " ++ toString field ++
      " near byte index " ++ toString index

def decodeFrom (index : Nat) : List (List UInt8) → Except Fault (List (List Char))
  | [] => .ok []
  | field :: fields =>
    match Utf8.decode field with
    | .error f => .error (.encoding index f.index)
    | .ok cell => (decodeFrom (index + 1) fields).map (cell :: ·)

def decode (r : RawRecord) : Except Fault (List (List Char)) :=
  decodeFrom 0 r.fields

-- The cells of a record that has to have `expected` of them.
def cells (expected : Nat) (r : RawRecord) : Except Fault (List (List Char)) :=
  if r.fields.length = expected then r.decode else .error (.size r.fields.length expected)

end RawRecord
end TypedRows.Csv
