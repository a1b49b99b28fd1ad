import TypedRows.Sql.Storage

namespace TypedRows.Sql

open TypedRows.Sql.Parser

variable (d : Dialect) (g : Grammar)

-- What stands between the parentheses of a table.
inductive TableElement
  | column (c : ColumnDefinition)
  | key (columns : List Ident)
  | other

namespace TableElement

def indexMethod : Parser Bool := do
  if ← keyword? "USING" then
    discard (oneOf ["BTREE", "HASH"])
    return true
  else return false

def indexOption? : Parser (Option Unit) := do
  if ← indexMethod then return some ()
  else if ← keyword? "COMMENT" then
    discard (literalText d)
    return some ()
  else return none

-- An optional name and method before the columns of an index, and its options after them.
def indexColumns : Parser (List Ident) := do
  discard ident?
  discard indexMethod
  let columns ← columnList
  discard (many (indexOption? d))
  ColumnDefinition.characteristics
  return columns

def unique : Parser TableElement := do
  if ← (keyword? "KEY" <||> keyword? "INDEX") then require (d = .mysql)
  if ← keyword? "NULLS" then
    discard (keyword? "NOT")
    keyword "DISTINCT"
  discard (indexColumns d)
  return other

def foreignKey : Parser TableElement := do
  keyword "KEY"
  discard columnList
  keyword "REFERENCES"
  discard objectName
  discard columnList
  ColumnDefinition.referentialActions
  ColumnDefinition.characteristics
  return other

-- An index that is no constraint.
def index : Parser TableElement := do
  if (← peekKey) ≠ "USING" then discard ident?
  discard indexMethod
  discard columnList
  return other

def textIndex : Parser TableElement := do
  discard (keyword? "KEY" <||> keyword? "INDEX")
  discard ident?
  discard columnList
  return other

def constraint? : Parser (Option TableElement) := do
  let isNamed ← keyword? "CONSTRAINT"
  if isNamed then discard ident
  match ← peekKey with
  | "UNIQUE" => skip; unique d
  | "PRIMARY" =>
    skip
    keyword "KEY"
    return some (key (← indexColumns d))
  | "FOREIGN" => skip; foreignKey
  | "CHECK" =>
    skip
    discard (parenthesized g.expr)
    return some other
  | "INDEX" | "KEY" =>
    if d = .mysql && !isNamed then skip; index
    else require !isNamed; return none
  | "FULLTEXT" | "SPATIAL" =>
    require !isNamed
    if d = .mysql then skip; textIndex else return none
  | _ => require !isNamed; return none

def parse : Parser TableElement := do
  match ← constraint? d g with
  | some e => return e
  | none =>
    match ← peek? with
    | some (.word _ _) => return column (← ColumnDefinition.parse d g)
    | _ => refuse

-- Elements up to the closing parenthesis, which may follow a comma.
def allWithin : (fuel : Nat) → Parser (List TableElement)
  | 0 => refuse
  | fuel + 1 => do
    let e ← parse d g
    let comma ← symbol? ","
    if ← symbol? ")" then return [e]
    else
      require comma
      return e :: (← allWithin fuel)

def all : Parser (List TableElement) := do
  if !(← symbol? "(") then return []
  else if ← symbol? ")" then return []
  else allWithin d g (← get).length

def column? : TableElement → Option ColumnDefinition
  | column c => some c
  | _ => none

def key? : TableElement → Option (List Ident)
  | key columns => some columns
  | _ => none

end TableElement

namespace TableDefinition

def anyWord : Parser Unit := do
  match ← next with
  | .word _ _ => return ()
  | _ => refuse

def engine : Parser Unit := do
  symbol "="
  anyWord
  if ← peekSymbol "(" then discard (parenthesized (commaSeparatedBefore ")" ident))

def firstNumber : Parser Unit := do
  discard (symbol? "=")
  match ← next with
  | .number digits _ => require (Text.boundedNumeral? UInt32.size digits.toList).isSome
  | _ => refuse

def order : Parser Unit := do
  if ← symbol? "(" then
    discard (commaSeparatedBefore ")" g.expr)
    symbol ")"
  else discard g.expr

def onCommit : Parser Unit := do
  if !(← (keywords? ["DELETE", "ROWS"] <||> keywords? ["PRESERVE", "ROWS"])) then keyword "DROP"

def comment : Parser Unit := do
  discard (symbol? "=")
  discard TypeName.setMember

-- What may follow the elements of a table, in its fixed order.
def attributes : Parser Unit := do
  discard (keywords? ["WITHOUT", "ROWID"])
  Storage.partitions d g
  Storage.formats d g
  g.settingsAfter "WITH"
  g.settingsAfter "TBLPROPERTIES"
  if ← keyword? "ENGINE" then engine
  if ← keyword? "AUTO_INCREMENT" then firstNumber
  if ← keywords? ["ORDER", "BY"] then order g
  if ← when? (d = .postgresql) (keywords? ["PARTITION", "BY"]) then discard g.expr
  if ← keywords? ["DEFAULT", "CHARSET"] then symbol "="; anyWord
  if ← keyword? "COLLATE" then symbol "="; anyWord
  if ← keywords? ["ON", "COMMIT"] then onCommit
  discard (keyword? "STRICT")
  if ← keyword? "COMMENT" then comment

-- Whether a query gives rows and columns. MySQL lets it follow without `AS`.
def queryFollows : Parser Bool := do
  if ← keyword? "AS" then discard g.query; return true
  else if d = .mysql && (← peekKey) = "SELECT" then discard g.query; return true
  else return false

-- A name that is looked for. What is no name is skipped.
def nameOrNothing : Parser Bool := do
  match ← attempt? objectName with
  | some _ => return true
  | none => skip; return false

def ofElements (name : ObjectName) (elements : List TableElement) : TableDefinition where
  name := name
  columns := elements.filterMap TableElement.column?
  keys := elements.filterMap TableElement.key?

-- What follows `CREATE TABLE`.
def parse : Parser TableDefinition := do
  discard (keywords? ["IF", "NOT", "EXISTS"])
  let name ← objectName
  Storage.cluster
  let isLike ← if ← (keyword? "LIKE" <||> keyword? "ILIKE") then nameOrNothing else pure false
  let isClone ← if ← keyword? "CLONE" then nameOrNothing else pure false
  let elements ← TableElement.all d g
  attributes d g
  let hasQuery ← queryFollows d g
  return { ofElements name elements with isLike, isClone, hasQuery }

-- What follows `CREATE EXTERNAL`.
def parseExternal : Parser TableDefinition := do
  keyword "TABLE"
  discard (keywords? ["IF", "NOT", "EXISTS"])
  let name ← objectName
  let elements ← TableElement.all d g
  Storage.partitions d g
  Storage.formats d g
  g.settingsAfter "TBLPROPERTIES"
  return ofElements name elements

end TableDefinition
end TypedRows.Sql
