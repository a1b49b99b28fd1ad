import TypedRows.Sql.Role
import TypedRows.Sql.Routine
import TypedRows.Sql.TableDefinition

namespace TypedRows.Sql

open TypedRows.Sql.Parser

variable (d : Dialect) (g : Grammar)

namespace Creation

def ifNotExists : Parser Unit :=
  discard (keywords? ["IF", "NOT", "EXISTS"])

-- What follows `CREATE INDEX`.
def index : Parser Unit := do
  discard (keyword? "CONCURRENTLY")
  let isGuarded ← keywords? ["IF", "NOT", "EXISTS"]
  if ← pure isGuarded <||> (return !(← keyword? "ON")) then
    discard objectName
    keyword "ON"
  discard objectName
  if ← keyword? "USING" then discard ident
  discard (parenthesized (commaSeparated g.orderItem))
  if ← keyword? "INCLUDE" then discard columnList
  if ← keyword? "NULLS" then
    discard (keyword? "NOT")
    keyword "DISTINCT"
  if ← when? (d = .postgresql) (keyword? "WITH") then discard (parenthesized g.exprs)
  discard (g.exprAfter "WHERE")

-- What follows `CREATE VIEW`.
def view : Parser Unit := do
  if d = .sqlite then ifNotExists
  discard objectName
  discard optionalColumnList
  g.settingsAfter "WITH"
  if ← keywords? ["CLUSTER", "BY"] then discard optionalColumnList
  keyword "AS"
  discard g.query

def schema : Parser Unit := do
  ifNotExists
  if ← keyword? "AUTHORIZATION" then discard ident
  else
    discard objectName
    if ← keyword? "AUTHORIZATION" then discard ident

def database : Parser Unit := do
  ifNotExists
  discard objectName
  discard <| many do
    if (← oneOf? ["LOCATION", "MANAGEDLOCATION"]).isSome then return some (← literalText d)
    else return none

def virtualTable : Parser Unit := do
  keyword "TABLE"
  ifNotExists
  discard objectName
  keyword "USING"
  discard ident
  discard optionalColumnList

-- A type with attributes, or in PostgreSQL one of names.
def type : Parser Unit := do
  discard objectName
  keyword "AS"
  if ← when? (d = .postgresql) (keyword? "ENUM") then
    discard (parenthesized (commaSeparatedBefore ")" ident))
  else
    symbol "("
    if !(← symbol? ")") then
      discard <| commaSeparated do
        discard ident
        discard (TypeName.parse d)
        if ← keyword? "COLLATE" then discard objectName
      symbol ")"

def extension : Parser Unit := do
  ifNotExists
  discard ident
  if ← keyword? "WITH" then
    if ← keyword? "SCHEMA" then discard ident
    if ← keyword? "VERSION" then discard ident
    discard (keyword? "CASCADE")

def sequence : Parser Unit := do
  ifNotExists
  discard objectName
  if ← keyword? "AS" then discard (TypeName.parse d)
  ColumnDefinition.sequenceOptions
  if ← keywords? ["OWNED", "BY"] then discard objectName

def replaceable? (key : String) : Option (Parser Unit) :=
  match key with
  | "VIEW" => some (view d g)
  | "MATERIALIZED" => some do keyword "VIEW"; view d g
  | "POLICY" => some (Policy.create g)
  | "FUNCTION" => some (Routine.function d g)
  | "TRIGGER" => some (Trigger.create d g)
  | "CONSTRAINT" => some do keyword "TRIGGER"; Trigger.create d g
  | _ => none

def ofKey (statements : Parser Unit) (key : String) : Parser Unit :=
  match key with
  | "INDEX" => index d g
  | "UNIQUE" => do keyword "INDEX"; index d g
  | "VIRTUAL" => virtualTable
  | "SCHEMA" => schema
  | "DATABASE" => database d
  | "TYPE" => type d
  | "EXTENSION" => extension
  | "SEQUENCE" => sequence d
  | "ROLE" => Role.create d
  | "PROCEDURE" => Routine.procedure d statements
  | _ => refuse

-- What follows `CREATE`; `statements` reads the body of a procedure.
def parse (statements : Parser Unit) : Parser Statement := do
  let replaces ← keywords? ["OR", "REPLACE"]
  discard (keywords? ["OR", "ALTER"])
  discard (keyword? "LOCAL")
  discard (keyword? "GLOBAL")
  discard (keyword? "TRANSIENT")
  discard (oneOf? ["TEMP", "TEMPORARY"])
  let key ← peekKey
  skip
  if key = "TABLE" then return .createTable (← TableDefinition.parse d g)
  else if key = "EXTERNAL" then return .createTable (← TableDefinition.parseExternal d g)
  else
    match replaceable? d g key with
    | some p => p
    | none =>
      require !replaces
      ofKey d g statements key
    return .other "CREATE"

end Creation

namespace Alteration

def behavior : Parser Unit :=
  discard (oneOf? ["CASCADE", "RESTRICT"])

def position : Parser Unit := do
  if d = .mysql then
    if !(← keyword? "FIRST") then
      if ← keyword? "AFTER" then discard ident

def partitions : Parser (List (List String)) :=
  many do
    if ← keyword? "PARTITION" then return some (← parenthesized g.exprs)
    else return none

def addition : Parser Unit := do
  match ← TableElement.constraint? d g with
  | some _ => return ()
  | none =>
    discard (keywords? ["IF", "NOT", "EXISTS"])
    if (← partitions g).isEmpty then
      discard (keyword? "COLUMN")
      if d = .postgresql then discard (keywords? ["IF", "NOT", "EXISTS"])
      discard (ColumnDefinition.parse d g)
      position d

def renamed : Parser Unit := do
  if ← when? (d = .postgresql) (keyword? "CONSTRAINT") then
    discard ident
    keyword "TO"
    discard ident
  else if ← keyword? "TO" then discard objectName
  else
    discard (keyword? "COLUMN")
    discard ident
    keyword "TO"
    discard ident

def removal : Parser Unit := do
  if ← (keywords? ["IF", "EXISTS", "PARTITION"] <||> keyword? "PARTITION") then
    discard (parenthesized g.exprs)
  else if ← keyword? "CONSTRAINT" then
    discard (keywords? ["IF", "EXISTS"])
    discard ident
    discard (keyword? "CASCADE")
  else if ← when? (d = .mysql) (keywords? ["PRIMARY", "KEY"]) then return ()
  else
    discard (keyword? "COLUMN")
    discard (keywords? ["IF", "EXISTS"])
    discard ident
    discard (keyword? "CASCADE")

def redefinition : Parser Unit := do
  discard (TypeName.parse d)
  discard (many (ColumnDefinition.option? d g))
  position d

def newIdentity : Parser Unit := do
  if !(← keyword? "ALWAYS") then discard (keywords? ["BY", "DEFAULT"])
  keywords ["AS", "IDENTITY"]
  discard ColumnDefinition.identity

def columnChange : Parser Unit := do
  discard (keyword? "COLUMN")
  discard ident
  if ← (keywords? ["SET", "NOT", "NULL"] <||> keywords? ["DROP", "NOT", "NULL"]) then return ()
  else if ← keywords? ["SET", "DEFAULT"] then discard g.expr
  else if ← keywords? ["DROP", "DEFAULT"] then return ()
  else if ← keywords? ["ADD", "GENERATED"] then newIdentity
  else
    if !(← keywords? ["SET", "DATA", "TYPE"]) then
      require (d = .postgresql)
      keyword "TYPE"
    discard (TypeName.parse d)
    if d = .postgresql then discard (g.exprAfter "USING")

-- Whether rules, triggers and the security of rows apply, and when.
def enforcement (enables : Bool) : Parser Unit := do
  if !(← keywords? ["ROW", "LEVEL", "SECURITY"]) then
    if enables then discard (oneOf? ["ALWAYS", "REPLICA"])
    discard (oneOf ["RULE", "TRIGGER"])
    discard ident

def renamedPartition : Parser Unit := do
  discard (parenthesized g.exprs)
  keywords ["RENAME", "TO", "PARTITION"]
  discard (parenthesized g.exprs)

-- What one step of an alteration does, told by its first word.
def ofKey (key : String) : Parser Unit :=
  match key with
  | "ADD" => addition d g
  | "RENAME" => renamed d
  | "DROP" => removal d g
  | "CHANGE" => do
    discard (keyword? "COLUMN")
    discard ident
    discard ident
    redefinition d g
  | "MODIFY" => do
    discard (keyword? "COLUMN")
    discard ident
    redefinition d g
  | "ALTER" => columnChange d g
  | "ENABLE" => enforcement true
  | "DISABLE" => enforcement false
  | "PARTITION" => renamedPartition g
  | "SWAP" => do keyword "WITH"; discard objectName
  | "OWNER" => do
    require (d = .postgresql)
    keyword "TO"
    discard ident
  | "CLUSTER" => do keyword "BY"; discard (parenthesized g.exprs)
  | "SUSPEND" | "RESUME" => keyword "RECLUSTER"
  | "SET" => do keyword "TBLPROPERTIES"; g.settings
  | _ => refuse

def operation : Parser Unit := do
  let key ← peekKey
  skip
  ofKey d g key

def table : Parser Unit := do
  discard (keywords? ["IF", "EXISTS"])
  discard (keyword? "ONLY")
  discard objectName
  Storage.cluster
  discard (commaSeparated (operation d g))
  if ← (keyword? "LOCATION" <||> keywords? ["SET", "LOCATION"]) then discard ident

-- What follows `ALTER`.
def parse : Parser Unit := do
  match ← oneOf ["TABLE", "INDEX", "VIEW", "ROLE", "POLICY"] with
  | "TABLE" => table d g
  | "INDEX" =>
    discard objectName
    keywords ["RENAME", "TO"]
    discard objectName
  | "VIEW" =>
    discard objectName
    discard optionalColumnList
    g.settingsAfter "WITH"
    keyword "AS"
    discard g.query
  | "ROLE" => Role.alter d g
  | _ => Policy.alter g

-- What follows `DROP`.
def drop : Parser Unit := do
  if d = .mysql then discard (keyword? "TEMPORARY")
  let named := ["TABLE", "VIEW", "INDEX", "ROLE", "SCHEMA", "DATABASE", "SEQUENCE", "STAGE", "TYPE"]
  match ← oneOf (["FUNCTION", "PROCEDURE", "TRIGGER", "POLICY"] ++ named) with
  | "FUNCTION" | "PROCEDURE" =>
    discard (keywords? ["IF", "EXISTS"])
    discard (commaSeparated (Routine.description d g))
    behavior
  | "TRIGGER" => Trigger.drop d
  | "POLICY" => Policy.drop
  | kind =>
    discard (keywords? ["IF", "EXISTS"])
    discard (commaSeparated objectName)
    if kind ≠ "ROLE" then
      behavior
      discard (keyword? "PURGE")

end Alteration
end TypedRows.Sql
