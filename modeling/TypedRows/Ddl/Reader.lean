import TypedRows.Ddl.Script
import TypedRows.Diagnostic
import TypedRows.Schema
import TypedRows.Sql.Definition
import TypedRows.Text.Utf8

namespace TypedRows.Ddl

open Text

-- Reads the text of a statement, which may turn out to be several, or says why it is none.
abbrev StatementParser := List Char → Except String (List Sql.Statement)

namespace ColumnReading

def serialNames : List String :=
  ["SERIAL", "BIGSERIAL", "SMALLSERIAL", "SERIAL2", "SERIAL4", "SERIAL8"]

def markSerial (c : Column) : Column :=
  if serialNames.contains (upper c.sourceType) then
    { c with autoIncrement := true, nullable := false }
  else c

def autoIncrementNames : List String :=
  ["AUTO_INCREMENT", "AUTOINCREMENT"]

def isAutoIncrement (t : Sql.Token) : Bool :=
  autoIncrementNames.contains (upper t.render)

def applyOption (c : Column) : Sql.ColumnOption → Column
  | .notNull => { c with nullable := false }
  | .null => { c with nullable := true }
  | .default e => { c with default := some e }
  | .primaryKey => c.markKey
  | .generated none => { c with autoIncrement := true, nullable := false }
  | .ofDialect tokens => { c with autoIncrement := c.autoIncrement || tokens.any isAutoIncrement }
  | .generated (some _) | .other => c

-- A later option wins, but no option makes a key nullable.
def ofDefinition (definition : Sql.ColumnDefinition) : Column :=
  let bare : Column := { name := definition.name.value, sourceType := definition.type }
  let c := definition.options.foldl applyOption (markSerial bare)
  if c.primaryKey then { c with nullable := false } else c

end ColumnReading

namespace TableReading

def isBlankName (name : String) : Bool :=
  (trimChars name.toList).isEmpty

def error (message : String) (location : Location) : Diagnostic :=
  .error .parse message location

-- Adds columns whose names are new.
def addColumns (t : Table) : List Column → Table × Diagnostics
  | [] => (t, [])
  | c :: cs =>
    if isBlankName c.name then
      let (t', errors) := addColumns t cs
      let message := "Table '" ++ t.name ++ "' has a column with an empty name"
      (t', error message (.ofTable t.name t.line) :: errors)
    else if (t.column? c.name).isSome then
      let (t', errors) := addColumns t cs
      (t', error ("Duplicate column '" ++ c.name ++ "' in table '" ++ t.name ++ "'")
        (.ofColumn t.name c.name t.line) :: errors)
    else addColumns (t.addColumn c) cs

def missingKey (t : Table) (name : String) : Diagnostic :=
  error ("Primary key of table '" ++ t.name ++ "' names unknown column '" ++ name ++ "'")
    (.ofColumn t.name name t.line)

-- Makes the named columns the key of the table.
def markKeys (t : Table) (names : List String) : Table × Diagnostics :=
  (names.foldl Table.markKey t, (names.filter fun n => (t.column? n).isNone).map (missingKey t))

-- A qualified name keeps its last part only.
def nameOf (definition : Sql.TableDefinition) : String :=
  (definition.name.getLast?.map Sql.Ident.value).getD ""

def keyNames (definition : Sql.TableDefinition) : List String :=
  definition.keys.flatten.map Sql.Ident.value

def ofDefinition (definition : Sql.TableDefinition) (line : Nat) : Except Diagnostics Table :=
  let name := nameOf definition
  if isBlankName name then .error [error "Table name is empty" (.atLine line)]
  else if definition.columns.isEmpty then
    .error [error ("Table '" ++ name ++ "' has no columns") (.ofTable name (some line))]
  else
    let columns := definition.columns.map ColumnReading.ofDefinition
    let (t, columnErrors) := addColumns { name := name, line := some line } columns
    let (t, keyErrors) := markKeys t (keyNames definition)
    match columnErrors ++ keyErrors with
    | [] => .ok t
    | errors => .error errors

end TableReading

-- What was read so far. Diagnostics stand in the order in which they were found.
structure Reading where
  schema : Schema := .empty
  skipped : Nat := 0
  diagnostics : Diagnostics := []

namespace Reading

def warning (message : String) (location : Location) : Diagnostic :=
  .warning .parse message location

def skip (r : Reading) (line : Nat) (message : String) : Reading :=
  { r with
    skipped := r.skipped + 1
    diagnostics := r.diagnostics ++ [warning message (.atLine line)] }

-- A table that is defined again replaces the earlier one.
def addTable (r : Reading) (line : Nat) (t : Table) : Reading :=
  let (replaced, schema) := r.schema.addReplacing t
  let message := "Table '" ++ t.name ++ "' is defined more than once; the last definition is used"
  { r with
    schema := schema
    diagnostics := r.diagnostics ++
      if replaced.isSome then [warning message (.ofTable t.name (some line))] else [] }

-- The first word of a statement in capitals.
def leadingWord (text : String) : String :=
  upper (String.ofList ((words text.toList).headD []))

-- Whether another table or a query gives the columns of a table.
def isDerived (definition : Sql.TableDefinition) : Bool :=
  definition.isLike || definition.isClone || definition.hasQuery

def addStatement (line : Nat) (r : Reading) : Sql.Statement → Reading
  | .other text =>
    r.skip line ("Skipping " ++ leadingWord text ++ " statement; only CREATE TABLE is used")
  | .createTable definition =>
    if isDerived definition then
      r.skip line ("Skipping CREATE TABLE " ++ definition.name.render ++
        " without column definitions; only explicit columns are used")
    else match TableReading.ofDefinition definition line with
      | .ok t => r.addTable line t
      | .error errors => { r with diagnostics := r.diagnostics ++ errors }

def rejectedText (cause : String) : String :=
  "Skipping statement that could not be parsed: " ++ cause

def addText (parse : StatementParser) (r : Reading) (s : ScriptStatement) : Reading :=
  match parse s.text.toList with
  | .error cause => r.skip s.line (rejectedText cause)
  | .ok statements => statements.foldl (addStatement s.line) r

-- Finding nothing at all is an error, unless there is one already.
def emptyError (r : Reading) : Diagnostics :=
  if r.schema.isEmpty && !r.diagnostics.hasErrors then
    let message :=
      if r.skipped = 0 then "No CREATE TABLE statement found"
      else "No CREATE TABLE statement could be read (" ++ toString r.skipped ++
        " statement(s) skipped)"
    [TableReading.error message .nowhere]
  else []

end Reading

-- Reads a script after other problems were found.
def readAfter (earlier : Diagnostics) (parse : StatementParser) (d : Dialect)
    (script : List Char) : Schema × Diagnostics :=
  let start : Reading := { diagnostics := earlier }
  let r := (Script.statementsOf d script).foldl (Reading.addText parse) start
  (r.schema, r.diagnostics ++ r.emptyError)

def read (parse : StatementParser) (d : Dialect) (script : List Char) : Schema × Diagnostics :=
  readAfter [] parse d script

-- A byte order mark in front is no part of the script.
def readBytes (parse : StatementParser) (d : Dialect) (bytes : List UInt8) : Schema × Diagnostics :=
  match Utf8.decode (Utf8.dropByteOrderMark bytes) with
  | .error f => (.empty, [.error .parse ("DDL input is not valid UTF-8: " ++ f.message) .nowhere])
  | .ok script => read parse d script

end TypedRows.Ddl
