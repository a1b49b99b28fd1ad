import TypedRows.Csv.Inference
import TypedRows.Csv.Record
import TypedRows.Diagnostic
import TypedRows.Naming.Identifier
import TypedRows.Schema

namespace TypedRows.Csv

open Text

structure Options where
  sampleRows : Nat := 1000
  delimiter : UInt8 := 0x2C
  deriving DecidableEq, Repr

def headerLine : Nat := 1

structure HeaderCell where
  -- Counted from 1.
  number : Nat
  text : List Char
  deriving DecidableEq, Repr

namespace HeaderCell

def numbered (cells : List (List Char)) : List HeaderCell :=
  cells.mapIdx fun i cell => ⟨i + 1, trimChars cell⟩

def columnName (c : HeaderCell) : String :=
  Identifier.sanitize (String.ofList c.text)

end HeaderCell

def headerError (table message : String) : Diagnostic :=
  .error .parse message (.ofTable table (some headerLine))

-- Adds a column for each cell that is neither blank nor a repetition.
def addColumns (t : Table) : List HeaderCell → Table × Diagnostics
  | [] => (t, [])
  | cell :: cells =>
    if cell.text.isEmpty then
      let (t', errors) := addColumns t cells
      (t', headerError t.name ("CSV header cell " ++ toString cell.number ++ " is empty") :: errors)
    else if (t.column? cell.columnName).isSome then
      let (t', errors) := addColumns t cells
      let location := Location.ofColumn t.name cell.columnName (some headerLine)
      let message := "Duplicate CSV header '" ++ String.ofList cell.text ++ "'"
      (t', .error .parse message location :: errors)
    else addColumns (t.addColumn { name := cell.columnName, sourceType := "csv" }) cells

-- An untyped table with the columns of a header.
def tableOfHeader (name : String) (cells : List (List Char)) : Except Diagnostics Table :=
  if cells.all fun cell => (trimChars cell).isEmpty then
    .error [headerError name "CSV header row is empty"]
  else
    match addColumns { name := name, line := some headerLine } (HeaderCell.numbered cells) with
    | (t, []) => .ok t
    | (_, errors) => .error errors

def readHeader (name : String) : List RawRecord → Except Diagnostics Table
  | [] => tableOfHeader name []
  | header :: _ =>
    match header.decode with
    | .error f => .error [headerError name ("CSV header could not be read: " ++ f.message header)]
    | .ok cells => tableOfHeader name cells

-- Observes the cells of each record, until one cannot be read.
def observeRecords (name : String) (evidence : List Evidence) :
    List RawRecord → Except Diagnostics (List Evidence)
  | [] => .ok evidence
  | record :: records =>
    match record.cells evidence.length with
    | .error f => .error [.error .parse ("Malformed CSV record: " ++ f.message record)
        (.ofTable name (some record.position.line))]
    | .ok cells => observeRecords name (evidence.zipWith Evidence.observe cells) records

def setType (c : Column) (canonical : CanonicalType) : Column :=
  { c with sourceType := canonical.render, canonical := some canonical }

def setTypes (t : Table) (evidence : List Evidence) : Table :=
  { t with columns := t.columns.zipWith (fun c e => setType c e.canonical) evidence }

def readTable (o : Options) (name : String) (records : List RawRecord) : Except Diagnostics Table :=
  match readHeader name records with
  | .error errors => .error errors
  | .ok t =>
    match observeRecords name (t.columns.map fun _ => .none) (records.tail.take o.sampleRows) with
    | .error errors => .error errors
    | .ok evidence => .ok (setTypes t evidence)

-- Reads records into the table that is named after `source`.
def readRecords (o : Options) (source : String) (records : List RawRecord) : Schema × Diagnostics :=
  match readTable o (Identifier.tableName source) records with
  | .error errors => (.empty, errors)
  | .ok t => (Schema.empty.add t, [])

def read (o : Options) (source : String) (bytes : List UInt8) : Schema × Diagnostics :=
  readRecords o source (RawRecord.ofBytes o.delimiter (Utf8.dropByteOrderMark bytes))

end TypedRows.Csv
