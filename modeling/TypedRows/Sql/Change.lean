import TypedRows.Sql.Storage

namespace TypedRows.Sql.Change

open TypedRows.Sql.Parser

variable (d : Dialect) (g : Grammar)

def assignment : Parser Unit := do
  if ← symbol? "(" then
    discard (commaSeparated objectName)
    symbol ")"
  else discard objectName
  symbol "="
  discard g.expr

def assignments : Parser Unit :=
  discard (commaSeparated (assignment g))

def returning : Parser Unit := do
  if ← keyword? "RETURNING" then discard (Select.items g)

-- What SQLite does with rows that are in the way.
def conflictClause : Parser Unit := do
  if ← keyword? "OR" then discard (oneOf ["REPLACE", "ROLLBACK", "ABORT", "FAIL", "IGNORE"])
  else discard (keyword? "REPLACE")

def tableWithJoins : Parser Unit := do
  discard (From.tablesWithin d g (← get).length)

def conflictTarget : Parser Unit := do
  if ← keywords? ["ON", "CONSTRAINT"] then discard objectName
  else discard optionalColumnList

def conflictAction : Parser Unit := do
  keyword "DO"
  if !(← keyword? "NOTHING") then
    keywords ["UPDATE", "SET"]
    assignments g
    discard (g.exprAfter "WHERE")

def onClause : Parser Unit := do
  if ← keyword? "ON" then
    if ← keyword? "CONFLICT" then
      conflictTarget
      conflictAction g
    else
      keywords ["DUPLICATE", "KEY", "UPDATE"]
      assignments g

def insertedColumns : Parser Unit := do
  if (← get).take 2 = [.symbol "(", .symbol ")"] then
    require (d = .mysql)
    modify (·.drop 2)
  else discard optionalColumnList

-- Whether a parenthesis begins a query and no list of columns.
def startsQuery : Parser Bool :=
  return (← peekSymbol "(") && ["SELECT", "WITH"].contains (← peekKeyAfter 1)

def rowAlias : Parser Unit := do
  if ← when? (d = .mysql) (keyword? "AS") then
    discard objectName
    discard optionalColumnList

-- A table, its columns, the rows that it gets, and what is done about rows in the way.
def insertedRows : Parser Unit := do
  discard (keyword? "TABLE")
  discard objectName
  if ← when? (d = .postgresql) (keyword? "AS") then discard ident
  if !(← keywords? ["DEFAULT", "VALUES"]) then
    if !(← startsQuery) then
      insertedColumns d
      if ← keyword? "PARTITION" then discard (parenthesized g.exprs)
    discard g.query
  rowAlias d
  onClause g
  returning g

-- A directory of files that rows are written into.
def directory : Parser Unit := do
  discard (literalText d)
  if ← keywords? ["STORED", "AS"] then Storage.fileFormat
  discard g.query

-- What follows `INSERT` or a word in its place.
def insert : Parser Unit := do
  conflictClause
  if d = .mysql then
    discard (oneOf? ["LOW_PRIORITY", "DELAYED", "HIGH_PRIORITY"])
    discard (keyword? "IGNORE")
  discard (keyword? "OVERWRITE")
  discard (keyword? "INTO")
  discard (keyword? "LOCAL")
  if ← keyword? "DIRECTORY" then directory d g else insertedRows d g

-- What follows `UPDATE`.
def update : Parser Unit := do
  conflictClause
  tableWithJoins d g
  keyword "SET"
  assignments g
  if ← keyword? "FROM" then
    require (d ≠ .mysql)
    tableWithJoins d g
  discard (g.exprAfter "WHERE")
  returning g

-- What follows `DELETE`.
def delete : Parser Unit := do
  if !(← keyword? "FROM") then
    discard (commaSeparated objectName)
    keyword "FROM"
  discard (From.tables d g)
  if ← keyword? "USING" then discard (From.tables d g)
  discard (g.exprAfter "WHERE")
  returning g
  discard g.orderBy
  discard (g.exprAfter "LIMIT")

-- What is done with a row; only a row that the table lacks can be inserted.
def mergeAction (isNew : Bool) : Parser Unit := do
  match ← oneOf ["UPDATE", "INSERT", "DELETE"] with
  | "UPDATE" =>
    require !isNew
    keyword "SET"
    assignments g
  | "INSERT" =>
    require isNew
    insertedColumns d
    keyword "VALUES"
    discard (Query.rows d g)
  | _ => require !isNew

def mergeClause : Parser Unit := do
  keyword "WHEN"
  let isUnmatched ← keyword? "NOT"
  keyword "MATCHED"
  let isFromTable ← when? isUnmatched (keywords? ["BY", "SOURCE"])
  discard (when? (isUnmatched && !isFromTable) (keywords? ["BY", "TARGET"]))
  discard (g.exprAfter "AND")
  keyword "THEN"
  mergeAction d g (isUnmatched && !isFromTable)

def tableFactor : Parser Unit := do
  discard (From.factor d g (From.tablesWithin d g (← get).length))

-- What follows `MERGE`.
def merge : Parser Unit := do
  discard (keyword? "INTO")
  tableFactor d g
  keyword "USING"
  tableFactor d g
  keyword "ON"
  discard g.expr
  discard <| many do
    if (← atEnd) || (← peekSymbol ";") then return none
    mergeClause d g
    return some ()

-- An insertion or an update, told by its first word.
def parse : Parser String := do
  if ← keyword? "INSERT" then insert d g; return "INSERT"
  else
    keyword "UPDATE"
    update d g
    return "UPDATE"

end TypedRows.Sql.Change
