import TypedRows.Sql.Query

namespace TypedRows.Sql.Transfer

open TypedRows.Sql.Parser

variable (d : Dialect) (g : Grammar)

def mark : Parser Unit := do
  require ((← literalText d).utf8ByteSize = 1)

def option : Parser Unit := do
  match ← oneOf ["FORMAT", "FREEZE", "DELIMITER", "NULL", "HEADER", "QUOTE", "ESCAPE",
    "FORCE_QUOTE", "FORCE_NOT_NULL", "FORCE_NULL", "ENCODING"] with
  | "FORMAT" => discard ident
  | "FREEZE" | "HEADER" => discard (oneOf? ["TRUE", "FALSE"])
  | "DELIMITER" | "QUOTE" | "ESCAPE" => mark d
  | "NULL" | "ENCODING" => discard (literalText d)
  | _ => discard columnList

-- What is said about comma-separated files outside parentheses.
def csvOption : Parser Unit := do
  match ← oneOf ["HEADER", "QUOTE", "ESCAPE", "FORCE"] with
  | "HEADER" => return ()
  | "FORCE" =>
    if !(← keywords? ["NOT", "NULL"]) then keyword "QUOTE"
    discard (commaSeparated ident)
  | _ =>
    discard (keyword? "AS")
    mark d

def bareOption : Parser Unit := do
  match ← oneOf ["BINARY", "DELIMITER", "NULL", "CSV"] with
  | "BINARY" => return ()
  | "DELIMITER" =>
    discard (keyword? "AS")
    mark d
  | "NULL" =>
    discard (keyword? "AS")
    discard (literalText d)
  | _ => discard (many (attempt? (csvOption d)))

-- Whether a query and no table gives the rows.
def isFromQuery : Parser Bool := do
  if ← peekSymbol "(" then
    discard (parenthesized g.query)
    return true
  else
    discard objectName
    discard optionalColumnList
    return false

-- What follows `COPY`.
-- Rows after the statement are not read: it ends where they would begin.
def copy : Parser Unit := do
  let isFromQuery ← isFromQuery g
  if (← oneOf ["FROM", "TO"]) = "FROM" then require !isFromQuery
  let place ← oneOf? ["STDIN", "STDOUT", "PROGRAM"]
  if place = none || place = some "PROGRAM" then discard (literalText d)
  discard (keyword? "WITH")
  if ← peekSymbol "(" then discard (parenthesized (commaSeparated (option d)))
  discard (many (attempt? (bareOption d)))
  require (place ≠ some "STDIN")

-- What follows `UNLOAD`, with the leading word of its normal spelling.
def unload : Parser String := do
  let query ← parenthesized g.query
  keyword "TO"
  discard ident
  g.settingsAfter "WITH"
  return "UNLOAD(" ++ query


end TypedRows.Sql.Transfer
