import TypedRows.Sql.Grammar

namespace TypedRows.Sql

open TypedRows.Sql.Parser

namespace Window

variable (g : Grammar)

def bound : Parser String := do
  if ← keywords? ["CURRENT", "ROW"] then return "CURRENT ROW"
  else
    let distance ← if ← keyword? "UNBOUNDED" then pure "UNBOUNDED" else g.expr
    return distance ++ " " ++ (← oneOf ["PRECEDING", "FOLLOWING"])

def frame : Parser String := do
  let units ← oneOf ["ROWS", "RANGE", "GROUPS"]
  if ← keyword? "BETWEEN" then
    let first ← bound g
    keyword "AND"
    return units ++ " BETWEEN " ++ first ++ " AND " ++ (← bound g)
  else return units ++ " " ++ (← bound g)

-- A word that means nothing else names another window.
def name : Parser String := do
  match ← peek? with
  | some (.word i key) => if Keyword.all.contains key then return "" else skip; return i.render
  | _ => return ""

def spec : Parser String := do
  let name ← name
  let partition ← Grammar.listAfter "PARTITION" "BY" g.exprList
  let order ← g.orderBy
  if ← symbol? ")" then return joinNonempty [name, partition, order]
  else
    let frame ← frame g
    symbol ")"
    return joinNonempty [name, partition, order, frame]

def clause : Parser String := do
  if !(← keyword? "OVER") then return ""
  else if ← symbol? "(" then return " OVER (" ++ (← spec g) ++ ")"
  else return " OVER " ++ (← ident).render

end Window

-- Values that may be wildcards: items of a selection and arguments of functions.
inductive Item
  | wildcard (text : String)
  | expression (text : String)
  deriving DecidableEq, Repr

namespace Item

def text : Item → String
  | wildcard t | expression t => t

-- Names between points that end in a star.
def qualifiedWildcard : Parser String := do
  let first ← match ← next with
    | .word i _ => pure i
    | .string .single s => pure ⟨s, some '\x27'⟩
    | _ => refuse
  let rest ← many do
    if (← get).take 2 = [.symbol ".", .symbol "*"] then return none
    symbol "."
    match ← next with
    | .word i _ => return some i
    | .string .single s => return some ⟨s, some '\x27'⟩
    | _ => refuse
  symbol "."
  symbol "*"
  return ObjectName.render (first :: rest) ++ ".*"

def parse (g : Grammar) : Parser Item := do
  if ← symbol? "*" then return .wildcard "*"
  else match ← attempt? qualifiedWildcard with
    | some text => return .wildcard text
    | none => return .expression (← g.expr)

end Item

namespace Call

variable (d : Dialect) (g : Grammar)

def namedArgument : Parser String := do
  let name := (← ident).render
  let mark ← if ← symbol? "=>" then pure " => "
    else if d = .postgresql then do symbol ":="; pure " := "
    else refuse
  return name ++ mark ++ (← Item.parse g).text

def argument : Parser String := do
  match ← attempt? (namedArgument d g) with
  | some text => return text
  | none => return (← Item.parse g).text

def duplicates : Parser String := do
  if ← keyword? "ALL" then require ((← peekKey) ≠ "DISTINCT"); return "ALL "
  else if ← keyword? "DISTINCT" then return "DISTINCT "
  else return ""

def separator : Parser String := do
  if d = .mysql then
    if ← keyword? "SEPARATOR" then
      match ← next with
      | .string .single s => return "SEPARATOR " ++ literal s
      | .string .double s => return "SEPARATOR " ++ quoted '\x22' s
      | _ => refuse
    else return ""
  else return ""

def limit : Parser String := do
  if ← keyword? "LIMIT" then return "LIMIT " ++ (← g.expr) else return ""

-- The arguments after an opening parenthesis, up to the closing one.
def arguments : Parser String := do
  if ← symbol? ")" then return "()"
  else
    let duplicates ← duplicates
    let args := commaJoined (← commaSeparated (argument d g))
    let text := joinNonempty [args, ← g.orderBy, ← limit g, ← separator d]
    symbol ")"
    return "(" ++ duplicates ++ text ++ ")"

def withinGroup : Parser String := do
  if ← keywords? ["WITHIN", "GROUP"] then
    symbol "("
    keywords ["ORDER", "BY"]
    let items ← g.orderItems
    symbol ")"
    return " WITHIN GROUP (ORDER BY " ++ items ++ ")"
  else return ""

def filter : Parser String := do
  if d = .mysql then return ""
  else if !(← keyword? "FILTER") then return ""
  else if !(← symbol? "(") then return ""
  else if !(← keyword? "WHERE") then return ""
  else
    let condition ← g.expr
    symbol ")"
    return " FILTER (WHERE " ++ condition ++ ")"

def nullTreatment : Parser String := do
  match ← oneOf? ["RESPECT", "IGNORE"] with
  | some word => keyword "NULLS"; return " " ++ word ++ " NULLS"
  | none => return ""

-- The call of a function whose name was read.
def parse (name : String) : Parser Expression := do
  symbol "("
  let arguments ← arguments d g
  let group ← withinGroup g
  let filter ← filter d g
  let nulls ← nullTreatment
  return ⟨name ++ arguments ++ group ++ filter ++ nulls ++ (← Window.clause g), false⟩

end Call

end TypedRows.Sql
