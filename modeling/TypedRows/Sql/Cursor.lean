import TypedRows.Sql.Definition
import TypedRows.Sql.Query

namespace TypedRows.Sql

open TypedRows.Sql.Parser

variable (d : Dialect) (g : Grammar)

namespace Cursor

-- What follows `DECLARE`.
def declare : Parser Unit := do
  discard ident
  discard (keyword? "BINARY")
  discard (oneOf? ["INSENSITIVE", "ASENSITIVE"])
  if !(← keyword? "SCROLL") then discard (keywords? ["NO", "SCROLL"])
  keyword "CURSOR"
  if (← oneOf? ["WITH", "WITHOUT"]).isSome then keyword "HOLD"
  keyword "FOR"
  discard g.query

def distance : Parser Unit := do
  match ← oneOf? ["NEXT", "PRIOR", "FIRST", "LAST", "ABSOLUTE", "RELATIVE", "FORWARD", "BACKWARD",
    "ALL"] with
  | some "ABSOLUTE" | some "RELATIVE" | none => Operand.numeric d
  | some "FORWARD" | some "BACKWARD" => if !(← keyword? "ALL") then Operand.numeric d
  | some _ => return ()

-- What follows `FETCH`.
def fetch : Parser Unit := do
  distance d
  discard (oneOf ["FROM", "IN"])
  discard ident
  if ← keyword? "INTO" then discard objectName

-- What follows `CLOSE`.
def close : Parser Unit := do
  if !(← keyword? "ALL") then discard ident

end Cursor

namespace Prepared

-- What follows `PREPARE`; `inner` reads the statement.
def prepare (inner : Parser Statement) : Parser Unit := do
  discard ident
  if ← peekSymbol "(" then discard (parenthesized (commaSeparated (TypeName.parse d)))
  keyword "AS"
  discard inner

def arguments : Parser Unit := do
  if ← peekSymbol "(" then discard (parenthesized (commaSeparatedBefore ")" g.expr))
  else if !(← atEnd) && (← peekKey) ≠ "USING" then discard g.exprs

-- What follows `EXECUTE`.
def execute : Parser Unit := do
  discard objectName
  arguments g
  if ← keyword? "USING" then
    discard g.expr
    g.moreExprs

-- What follows `DEALLOCATE`.
def deallocate : Parser Unit := do
  discard (keyword? "PREPARE")
  discard ident

end Prepared
end TypedRows.Sql
