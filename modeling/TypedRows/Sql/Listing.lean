import TypedRows.Sql.Query

namespace TypedRows.Sql.Listing

open TypedRows.Sql.Parser

variable (d : Dialect) (g : Grammar)

-- Which names are listed.
def filter : Parser Unit := do
  if ← (keyword? "LIKE" <||> keyword? "ILIKE") then discard (literalText d)
  else if ← keyword? "WHERE" then discard g.expr
  else discard (attempt? (literalText d))

-- A name that may be missing before the clauses that follow.
def container (kind : String) : Parser Unit := do
  let startsWith := (← peekKey) = "STARTS" && (← peekKeyAfter 1) = "WITH"
  let isBare := (kind = "DATABASE" || kind = "SCHEMA") && (startsWith || (← peekKey) = "LIMIT")
  if !isBare then discard (attempt? objectName)

-- Where the things are that are listed.
def place : Parser Unit := do
  if (← oneOf? ["FROM", "IN"]).isSome then
    match ← oneOf? ["ACCOUNT", "DATABASE", "SCHEMA", "TABLE", "VIEW"] with
    | some kind => container kind
    | none =>
      discard objectName
      if (← oneOf? ["FROM", "IN"]).isSome then discard ident

def options : Parser Unit := do
  place
  filter d g
  if ← keywords? ["STARTS", "WITH"] then Operand.constant d
  if ← keyword? "LIMIT" then
    if !(← keyword? "ALL") then discard g.expr
  if ← keyword? "FROM" then Operand.constant d

-- Names of a setting take everything up to an equals sign, which they cannot hold.
def variableNames : Parser Unit :=
  modify (·.dropWhile (· ≠ .symbol "="))

-- What comes without `EXTENDED` or `FULL`.
def plain : Parser Unit := do
  if ← keyword? "CREATE" then
    discard (oneOf ["TABLE", "TRIGGER", "FUNCTION", "PROCEDURE", "EVENT", "VIEW"])
    discard objectName
  else if ← keyword? "COLLATION" then filter d g
  else if ← when? (d = .mysql) (keyword? "VARIABLES" <||> keyword? "STATUS") then filter d g
  else if ← (keyword? "DATABASES" <||> keyword? "SCHEMAS") then
    discard (keyword? "HISTORY")
    options d g
  else variableNames

-- What follows `SHOW`.
def parse : Parser Unit := do
  discard (keyword? "TERSE")
  let extended ← keyword? "EXTENDED"
  let full ← keyword? "FULL"
  discard (keyword? "SESSION")
  discard (keyword? "GLOBAL")
  let external ← keyword? "EXTERNAL"
  if (← oneOf? ["COLUMNS", "FIELDS"]).isSome then options d g
  else if ← keyword? "TABLES" then
    if !external then discard (keyword? "HISTORY")
    options d g
  else if ← (keywords? ["MATERIALIZED", "VIEWS"] <||> keyword? "VIEWS") then options d g
  else if ← keyword? "FUNCTIONS" then filter d g
  else
    require !(extended || full)
    plain d g

end TypedRows.Sql.Listing
