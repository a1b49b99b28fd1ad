import TypedRows.Sql.Expression

namespace TypedRows.Sql

open TypedRows.Sql.Parser

variable (d : Dialect) (g : Grammar)

-- A name given to a column or a table; some words need `AS` before they are one.
def optionalAlias (reserved : List String) : Parser String := do
  let marked ← keyword? "AS"
  match ← peek? with
  | some (.word i key) =>
    if marked || !reserved.contains key then skip; return " AS " ++ i.render else return ""
  | some (.string .single s) => skip; return " AS " ++ literal s
  | some (.string .double s) => skip; return " AS " ++ quoted '\x22' s
  | _ => require !marked; return ""

namespace From

-- An alias of a table, which may name its columns too.
def tableAlias : Parser String := do
  match ← optionalAlias Keyword.noTableAlias with
  | "" => return ""
  | called =>
    match ← optionalColumnList with
    | [] => return called
    | columns => return called ++ " (" ++ renderIdents columns ++ ")"

def indexHintTarget : Parser String := do
  if ← keywords? ["FOR", "JOIN"] then return " FOR JOIN"
  else if ← keywords? ["FOR", "ORDER", "BY"] then return " FOR ORDER BY"
  else if ← keywords? ["FOR", "GROUP", "BY"] then return " FOR GROUP BY"
  else return ""

def indexHint : Parser (Option String) := do
  let start ← attempt? do
    return (← oneOf ["USE", "IGNORE", "FORCE"]) ++ " " ++ (← oneOf ["INDEX", "KEY"])
  match start with
  | none => return none
  | some start =>
    let target ← indexHintTarget
    let names ← parenthesized (commaSeparatedBefore ")" ident)
    return some (" " ++ start ++ target ++ " (" ++ renderIdents names ++ ")")

-- Which indexes to use, said only in MySQL.
def indexHints : Parser String := do
  if d = .mysql then return String.join (← many indexHint) else return ""

def named : Parser String := do
  let name := ObjectName.render (← objectName)
  let arguments ← if ← symbol? "(" then Call.arguments d g else pure ""
  let ordinality ← if ← keywords? ["WITH", "ORDINALITY"] then pure " WITH ORDINALITY" else pure ""
  let called ← tableAlias
  return name ++ arguments ++ ordinality ++ called ++ (← indexHints d)

def derived (mark : String) : Parser String := do
  let query ← parenthesized g.query
  return mark ++ "(" ++ query ++ ")" ++ (← tableAlias)

-- `inner` reads tables with their joins.
def factor (inner : Parser String) : Parser String := do
  if ← keyword? "LATERAL" then orElse (derived g "LATERAL ") (named d g)
  else if ← keywords? ["TABLE"] then
    let value ← parenthesized g.expr
    return "TABLE(" ++ value ++ ")" ++ (← tableAlias)
  else if ← peekSymbol "(" then
    match ← attempt? (derived g "") with
    | some text => return text
    | none =>
      let tables ← parenthesized inner
      return "(" ++ tables ++ ")" ++ (← tableAlias)
  else named d g

def joinConstraint (natural : Bool) : Parser String := do
  if natural then return ""
  else if ← keyword? "ON" then return " ON " ++ (← g.expr)
  else if ← keyword? "USING" then return " USING(" ++ renderIdents (← columnList) ++ ")"
  else return ""

def joinKind? : Parser (Option String) := do
  match ← oneOf? ["INNER", "LEFT", "RIGHT", "FULL"] with
  | some "INNER" => keyword "JOIN"; return some "JOIN"
  | some side =>
    let kind ← if side = "FULL" then
        discard (keyword? "OUTER")
        pure side
      else if ← keyword? "OUTER" then pure side
      else match ← oneOf? ["SEMI", "ANTI"] with
        | some kind => pure (side ++ " " ++ kind)
        | none => pure side
    keyword "JOIN"
    return some (kind ++ " JOIN")
  | none => if ← keyword? "JOIN" then return some "JOIN" else return none

def join? (inner : Parser String) : Parser (Option String) := do
  if ← keywords? ["CROSS", "JOIN"] then return some (" CROSS JOIN " ++ (← factor d g inner))
  else
    let natural ← keyword? "NATURAL"
    match ← joinKind? with
    | none => require !natural; return none
    | some kind =>
      let right ← factor d g inner
      let constraint ← joinConstraint g natural
      return some ((if natural then " NATURAL " else " ") ++ kind ++ " " ++ right ++ constraint)

def tablesWithin : (fuel : Nat) → Parser String
  | 0 => refuse
  | fuel + 1 => do
    let inner := tablesWithin fuel
    let first ← factor d g inner
    return first ++ String.join (← many (join? d g inner))

def tables : Parser String := do
  let depth := (← get).length
  return commaJoined (← commaSeparated (tablesWithin d g depth))

end From

namespace Select

def isBareFrom (text : String) : Bool :=
  text.toList.map Char.toLower = "from".toList

def item : Parser String := do
  match ← Item.parse g with
  | .wildcard text => return text
  | .expression text =>
    require !isBareFrom text
    return text ++ (← optionalAlias Keyword.noColumnAlias)

def items : Parser String :=
  return commaJoined (← commaSeparated (item g))

def distinction : Parser String := do
  let all ← keyword? "ALL"
  if ← keyword? "DISTINCT" then
    require !all
    if ← keyword? "ON" then
      let items ← parenthesized (commaSeparatedBefore ")" g.expr)
      return " DISTINCT ON (" ++ commaJoined items ++ ")"
    else return " DISTINCT"
  else return ""

-- A table that the rows go into.
def target : Parser String := do
  if ← keyword? "INTO" then
    let kind ← oneOf? ["TEMPORARY", "TEMP", "UNLOGGED"]
    let table ← keyword? "TABLE"
    return " INTO " ++ (kind.map (· ++ " ")).getD "" ++ (if table then "TABLE " else "") ++
      ObjectName.render (← objectName)
  else return ""

def source : Parser String := do
  if ← keyword? "FROM" then return " FROM " ++ (← From.tables d g) else return ""

-- Groupings that only PostgreSQL has, or an expression.
def grouping : Parser String := do
  let sets (name : String) : Parser String := do
    let set : Parser String := do
      if ← peekSymbol "(" then
        return "(" ++ commaJoined (← parenthesized (commaSeparatedBefore ")" g.expr)) ++ ")"
      else return "(" ++ (← g.expr) ++ ")"
    return name ++ " (" ++ commaJoined (← parenthesized (commaSeparated set)) ++ ")"
  if d ≠ .postgresql then g.expr
  else if ← keywords? ["GROUPING", "SETS"] then sets "GROUPING SETS"
  else if ← keyword? "CUBE" then sets "CUBE"
  else if ← keyword? "ROLLUP" then sets "ROLLUP"
  else if (← get).take 2 = [.symbol "(", .symbol ")"] then modify (·.drop 2); return "()"
  else g.expr

def groupBy : Parser String := do
  if ← keywords? ["GROUP", "BY"] then
    if ← keyword? "ALL" then return " GROUP BY ALL"
    else return " GROUP BY " ++ commaJoined (← commaSeparated (grouping d g))
  else return ""

def window : Parser String := do
  let name := (← ident).render
  keyword "AS"
  symbol "("
  return name ++ " AS (" ++ (← Window.spec g) ++ ")"

def windows : Parser String := do
  if ← keyword? "WINDOW" then return " WINDOW " ++ commaJoined (← commaSeparated (window g))
  else return ""

-- What follows `SELECT`.
def parse : Parser String := do
  let distinction ← distinction g
  let items ← items g
  let target ← target
  let source ← source d g
  let condition ← g.exprAfter "WHERE"
  let groups ← groupBy d g
  let having ← g.exprAfter "HAVING"
  let windows ← windows g
  return "SELECT" ++ distinction ++ " " ++ items ++ target ++ source ++ condition ++ groups ++
    having ++ windows

end Select

namespace Query

def row : Parser String := do
  let mark ← if ← keyword? "ROW" then pure "ROW" else pure ""
  symbol "("
  if d = .mysql && (← peekSymbol ")") then
    skip
    return mark ++ "()"
  else
    let values ← g.exprList
    symbol ")"
    return mark ++ "(" ++ values ++ ")"

def rows : Parser String :=
  return "VALUES " ++ commaJoined (← commaSeparated (row d g))

def quantifier : Parser String := do
  return spaced ((← oneOf? ["ALL", "DISTINCT"]).getD "")

def setStrength : String → Nat
  | "UNION" | "EXCEPT" => 10
  | "INTERSECT" => 20
  | _ => 0

-- Sets of rows, as long as their operators bind tighter than `strength`.
def bodyWithin (strength : Nat) : (fuel : Nat) → Parser String
  | 0 => refuse
  | fuel + 1 => do
    let first ← if ← keyword? "SELECT" then Select.parse d g
      else if ← symbol? "(" then do
        let query ← g.query
        symbol ")"
        pure ("(" ++ query ++ ")")
      else if ← keyword? "VALUES" then rows d g
      else do
        keyword "TABLE"
        pure ("TABLE " ++ ObjectName.render (← objectName))
    let rest ← many do
      let operator ← peekKey
      if setStrength operator ≤ strength then return none
      skip
      let quantifier ← quantifier
      let right ← bodyWithin (setStrength operator) fuel
      return some (" " ++ operator ++ quantifier ++ " " ++ right)
    return first ++ String.join rest

def body : Parser String := do
  bodyWithin d g 0 (← get).length

def materialization : Parser String := do
  if ← keyword? "MATERIALIZED" then return "MATERIALIZED "
  else if ← keywords? ["NOT", "MATERIALIZED"] then return "NOT MATERIALIZED "
  else return ""

-- A named query.
def common : Parser String := do
  let name := (← ident).render
  let columns ← optionalColumnList
  keyword "AS"
  let kind ← if d = .postgresql then materialization else pure ""
  let query ← parenthesized g.query
  let list := if columns.isEmpty then "" else " (" ++ renderIdents columns ++ ")"
  return name ++ list ++ " AS " ++ kind ++ "(" ++ query ++ ")"

def withClause : Parser String := do
  if ← keyword? "WITH" then
    let recursion ← if ← keyword? "RECURSIVE" then pure "RECURSIVE " else pure ""
    return "WITH " ++ recursion ++ commaJoined (← commaSeparated (common d g)) ++ " "
  else return ""

def limitValue : Parser (Option String) := do
  if ← keyword? "ALL" then return none else return some (← g.expr)

def offsetText : Parser String := do
  let value ← g.expr
  match ← oneOf? ["ROW", "ROWS"] with
  | some word => return " OFFSET " ++ value ++ " " ++ word
  | none => return " OFFSET " ++ value

-- What follows a limit; outside PostgreSQL a comma makes the limit an offset.
def afterLimit (limit : Option String) : Parser String := do
  let text := (limit.map (" LIMIT " ++ ·)).getD ""
  if ← keyword? "OFFSET" then return text ++ (← offsetText g)
  else if d = .postgresql then return text
  else match limit with
    | none => return text
    | some first =>
      if ← symbol? "," then return " LIMIT " ++ (← g.expr) ++ " OFFSET " ++ first else return text

-- Limit and offset in either order.
def limits : Parser String := do
  if ← keyword? "OFFSET" then
    let offset ← offsetText g
    if ← keyword? "LIMIT" then
      return ((← limitValue g).map (" LIMIT " ++ ·)).getD "" ++ offset
    else return offset
  else if ← keyword? "LIMIT" then afterLimit d g (← limitValue g)
  else return ""

def fetch : Parser String := do
  if !(← keyword? "FETCH") then return ""
  discard (oneOf ["FIRST", "NEXT"])
  let quantity ← if (← oneOf? ["ROW", "ROWS"]).isSome then pure ""
    else do
      let quantity ← g.expr
      let percent ← if ← keyword? "PERCENT" then pure " PERCENT" else pure ""
      discard (oneOf ["ROW", "ROWS"])
      pure (quantity ++ percent ++ " ")
  if ← keyword? "ONLY" then return " FETCH FIRST " ++ quantity ++ "ROWS ONLY"
  else
    keywords ["WITH", "TIES"]
    return " FETCH FIRST " ++ quantity ++ "ROWS WITH TIES"

def lock? : Parser (Option String) := do
  if !(← keyword? "FOR") then return none
  let kind ← oneOf ["UPDATE", "SHARE"]
  let table ← if ← keyword? "OF" then pure (" OF " ++ ObjectName.render (← objectName)) else pure ""
  let wait ← if ← keyword? "NOWAIT" then pure " NOWAIT"
    else if ← keywords? ["SKIP", "LOCKED"] then pure " SKIP LOCKED"
    else pure ""
  return some (" FOR " ++ kind ++ table ++ wait)

-- `change` reads a statement that changes rows, which named queries may stand before.
def parse (change : Parser String) : Parser String := do
  let names ← withClause d g
  if ["INSERT", "UPDATE"].contains (← peekKey) then return names ++ (← change)
  else
    let body ← body d g
    let order ← g.orderBy
    let limits ← limits d g
    let fetch ← fetch g
    return names ++ body ++ spaced order ++ limits ++ fetch ++ String.join (← many lock?)

end Query
end TypedRows.Sql
