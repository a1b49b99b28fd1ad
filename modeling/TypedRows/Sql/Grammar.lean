import TypedRows.Sql.TypeName

namespace TypedRows.Sql

open TypedRows.Sql.Parser

-- An expression in its normal spelling: keywords in capitals, one blank around infix operators,
-- and names and literals as they were written.
structure Expression where
  text : String
  isSubquery : Bool := false
  deriving DecidableEq, Repr

-- How to read what is nested: expressions that bind tighter than a strength, and queries.
structure Grammar where
  expression : Nat → Parser Expression
  query : Parser String

namespace Grammar

variable (g : Grammar)

def text (strength : Nat) : Parser String :=
  return (← g.expression strength).text

def expr : Parser String :=
  g.text 0

def exprs : Parser (List String) :=
  commaSeparated g.expr

def exprList : Parser String := do
  return commaJoined (← g.exprs)

-- Further expressions, each after a comma.
def moreExprs : Parser Unit :=
  discard <| many do
    if ← symbol? "," then return some (← g.expr)
    else return none

-- Named values between parentheses.
def settings : Parser Unit := do
  discard <| parenthesized <| commaSeparated do
    discard ident
    symbol "="
    g.expr

def settingsAfter (key : String) : Parser Unit := do
  if ← keyword? key then g.settings

-- Reads an expression after a keyword, if the keyword is there.
def exprAfter (key : String) : Parser String := do
  if ← keyword? key then return " " ++ key ++ " " ++ (← g.expr) else return ""

def ordering : Parser String := do
  let direction ← oneOf? ["ASC", "DESC"]
  let nulls ← if ← keywords? ["NULLS", "FIRST"] then pure " NULLS FIRST"
    else if ← keywords? ["NULLS", "LAST"] then pure " NULLS LAST"
    else pure ""
  return spaced (direction.getD "") ++ nulls

def orderItem : Parser String :=
  return (← g.expr) ++ (← ordering)

def orderItems : Parser String :=
  return commaJoined (← commaSeparated g.orderItem)

-- Two keywords and what is listed after them, or nothing.
def listAfter (first second : String) (items : Parser String) : Parser String := do
  if ← keywords? [first, second] then return first ++ " " ++ second ++ " " ++ (← items)
  else return ""

def orderBy : Parser String :=
  listAfter "ORDER" "BY" g.orderItems

def startsQuery : Parser Bool :=
  return ["SELECT", "WITH"].contains (← peekKey)

end Grammar

def joinNonempty (parts : List String) : String :=
  " ".intercalate (parts.filter (· ≠ ""))

end TypedRows.Sql
