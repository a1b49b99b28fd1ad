import TypedRows.Sql.ColumnDefinition

namespace TypedRows.Sql.Storage

open TypedRows.Sql.Parser

variable (d : Dialect) (g : Grammar)

def cluster : Parser Unit := do
  if ← keywords? ["ON", "CLUSTER"] then discard ident

-- Columns that tell partitions apart are no columns of the table.
def partitions : Parser Unit := do
  if ← keywords? ["PARTITIONED", "BY"] then
    discard (parenthesized (commaSeparated (ColumnDefinition.parse d g)))

def fileFormat : Parser Unit :=
  discard (oneOf ["AVRO", "JSONFILE", "ORC", "PARQUET", "RCFILE", "SEQUENCEFILE", "TEXTFILE"])

-- What a delimiter of rows has to say after its first word.
def delimiterWords : String → List String
  | "COLLECTION" => ["ITEMS", "TERMINATED", "BY"]
  | "MAP" => ["KEYS", "TERMINATED", "BY"]
  | "NULL" => ["DEFINED", "AS"]
  | _ => ["TERMINATED", "BY"]

def delimiter? : Parser (Option Unit) := do
  match ← oneOf? ["FIELDS", "COLLECTION", "MAP", "LINES", "NULL"] with
  | none => return none
  | some key =>
    if !(← keywords? (delimiterWords key)) then return none
    discard ident
    if ← when? (key = "FIELDS") (keywords? ["ESCAPED", "BY"]) then discard ident
    return some ()

def rowFormat : Parser Unit := do
  keyword "FORMAT"
  if ← keyword? "SERDE" then discard (literalText d)
  else
    discard (keyword? "DELIMITED")
    discard (many delimiter?)

def fileOrPlace : Parser Unit := do
  keyword "AS"
  if ← keyword? "INPUTFORMAT" then
    discard g.expr
    keyword "OUTPUTFORMAT"
    discard g.expr
  else fileFormat

def format? : Parser (Option Unit) := do
  if ← keyword? "ROW" then
    rowFormat d
    return some ()
  else if ← keyword? "STORED" then
    fileOrPlace g
    return some ()
  else if ← keyword? "LOCATION" then
    discard (literalText d)
    return some ()
  else if ← keywords? ["WITH", "SERDEPROPERTIES"] then
    g.settings
    return some ()
  else return none

def formats : Parser Unit :=
  discard (many (format? d g))

-- A query after an optional `AS`, unless the statement ends here.
def cachedQuery : Parser Unit := do
  if !(← atEnd) then
    require ((← peekKey) ≠ "")
    discard (keyword? "AS")
    discard g.query

-- What follows `CACHE`.
def cache : Parser Unit := do
  if !(← keyword? "TABLE") then
    discard objectName
    keyword "TABLE"
  discard objectName
  g.settingsAfter "OPTIONS"
  cachedQuery g

-- What follows `UNCACHE`.
def uncache : Parser Unit := do
  keyword "TABLE"
  discard (keywords? ["IF", "EXISTS"])
  discard objectName

def partitionRepair : Parser Unit := do
  discard (oneOf? ["ADD", "DROP", "SYNC"])
  keyword "PARTITIONS"

-- What follows `MSCK`.
def check : Parser Unit := do
  discard (keyword? "REPAIR")
  keyword "TABLE"
  discard objectName
  discard (attempt? partitionRepair)

def statistic? : Parser (Option Unit) := do
  match ← oneOf? ["PARTITION", "FOR", "CACHE", "NOSCAN", "COMPUTE"] with
  | none => return none
  | some "PARTITION" => discard (parenthesized g.exprs)
  | some "FOR" =>
    keyword "COLUMNS"
    discard (attempt? (commaSeparated ident))
  | some "CACHE" => keyword "METADATA"
  | some "COMPUTE" => keyword "STATISTICS"
  | some _ => pure ()
  return some ()

-- What follows `ANALYZE`.
def analyze : Parser Unit := do
  keyword "TABLE"
  discard objectName
  discard (many (statistic? g))

-- What follows `TRUNCATE`. Only PostgreSQL asks what becomes of sequences and references.
def truncate : Parser Unit := do
  discard (keyword? "TABLE")
  discard (keyword? "ONLY")
  discard (commaSeparated objectName)
  if ← keyword? "PARTITION" then discard (parenthesized g.exprs)
  if d = .postgresql then
    discard (keywords? ["RESTART", "IDENTITY"] <||> keywords? ["CONTINUE", "IDENTITY"])
    discard (oneOf? ["CASCADE", "RESTRICT"])
  cluster

end TypedRows.Sql.Storage
