import TypedRows.Sql.Operand

namespace TypedRows.Sql.Expression

open TypedRows.Sql.Parser

variable (d : Dialect) (g : Grammar)

def plain (text : String) : Expression :=
  ⟨text, false⟩

def comparisons : List String :=
  ["=", "<>", "<", ">", "<=", ">="]

-- An operand behind `ANY`, `ALL` or `SOME`, which only comparisons have.
def quantified (strength : Nat) (operator : String) : Parser (Option String) := do
  match ← oneOf? ["ANY", "ALL", "SOME"] with
  | none => return none
  | some word =>
    symbol "("
    let right ← if ← Grammar.startsQuery then do
        modify (.symbol "(" :: ·)
        g.expression strength
      else do
        let right ← g.expression strength
        symbol ")"
        pure right
    require (comparisons.contains operator)
    return some (word ++ if right.isSubquery then right.text else "(" ++ right.text ++ ")")

def binary (strength : Nat) (left : Expression) (operator : String) : Parser Expression := do
  let right ← match ← quantified g strength operator with
    | some text => pure text
    | none => g.text strength
  return plain (left.text ++ " " ++ operator ++ " " ++ right)

-- What is asked of a value after `IS`.
def isTest : Parser String := do
  let negation ← if ← keyword? "NOT" then pure "NOT " else pure ""
  match ← oneOf? ["NULL", "TRUE", "FALSE", "UNKNOWN"] with
  | some word => return negation ++ word
  | none =>
    keywords ["DISTINCT", "FROM"]
    return negation ++ "DISTINCT FROM " ++ (← g.expr)

-- A query or values; only SQLite takes none at all.
def listed : Parser String := do
  if ← Grammar.startsQuery then g.query
  else if d = .sqlite then return commaJoined (← commaSeparatedBefore ")" g.expr)
  else g.exprList

def membership (negation : String) (left : Expression) : Parser Expression := do
  if ← keyword? "UNNEST" then
    let array ← parenthesized g.expr
    return plain (left.text ++ negation ++ " IN UNNEST(" ++ array ++ ")")
  else
    let list ← parenthesized (listed d g)
    return plain (left.text ++ negation ++ " IN (" ++ list ++ ")")

def range (negation : String) (left : Expression) : Parser Expression := do
  let strength := Level.between.strength d
  let low ← g.text strength
  keyword "AND"
  let high ← g.text strength
  return plain (left.text ++ negation ++ " BETWEEN " ++ low ++ " AND " ++ high)

def escapeText : Parser String := do
  if ← keyword? "ESCAPE" then return " ESCAPE '" ++ (← literalText d) ++ "'" else return ""

def pattern (name negation : String) (left : Expression) : Parser Expression := do
  let any ← if name = "LIKE" || name = "ILIKE" then keyword? "ANY" else pure false
  let right ← g.text (Level.like.strength d)
  let escape ← if name = "REGEXP" || name = "RLIKE" then pure "" else escapeText d
  let quantifier := if any then " ANY " else " "
  return plain (left.text ++ negation ++ " " ++ name ++ quantifier ++ right ++ escape)

-- The operators that `NOT` may stand before.
def negatable (left : Expression) : Parser Expression := do
  let negation ← if ← keyword? "NOT" then pure " NOT" else pure ""
  match ← oneOf ["IN", "BETWEEN", "LIKE", "ILIKE", "SIMILAR", "REGEXP", "RLIKE"] with
  | "IN" => membership d g negation left
  | "BETWEEN" => range d g negation left
  | "SIMILAR" => keyword "TO"; pattern d g "SIMILAR TO" negation left
  | name => pattern d g name negation left

-- The name of an operator with its qualifiers.
def operatorName : Parser String := do
  let first ← next
  let rest ← many do
    if ← symbol? "." then return some (← next).render
    else return none
  return ".".intercalate (first.render :: rest)

def wordInfix (strength : Nat) (left : Expression) (key : String) : Parser Expression := do
  match key with
  | "AND" | "OR" | "XOR" => skip; binary g strength left key
  | "DIV" =>
    require (d = .mysql)
    skip
    return plain (left.text ++ " DIV " ++ (← g.expr))
  | "OPERATOR" =>
    require (d = .postgresql)
    skip
    binary g strength left ("OPERATOR(" ++ (← parenthesized operatorName) ++ ")")
  | "IS" => skip; return plain (left.text ++ " IS " ++ (← isTest g))
  | "AT" =>
    keywords ["AT", "TIME", "ZONE"]
    return plain (left.text ++ " AT TIME ZONE " ++ (← g.text strength))
  | "NOT" | "IN" | "BETWEEN" | "LIKE" | "ILIKE" | "SIMILAR" | "REGEXP" | "RLIKE" =>
    negatable d g left
  | _ => refuse

-- An index, or a slice with two bounds or a stride more.
def subscript : Parser String := do
  let bound (closing : String) : Parser String := do
    if (← peekSymbol ":") || (← peekSymbol closing) then return "" else g.expr
  let lower ← bound "]"
  if ← symbol? "]" then
    require (lower ≠ "")
    return lower
  else
    symbol ":"
    let upper ← bound "]"
    if ← symbol? ":" then
      let stride ← bound "]"
      symbol "]"
      return lower ++ ":" ++ upper ++ (if stride = "" then "" else ":" ++ stride)
    else
      symbol "]"
      return lower ++ ":" ++ upper

def symbolInfix (strength : Nat) (left : Expression) (s : String) : Parser Expression := do
  match binaryOperator? d s with
  | some operator => skip; binary g strength left operator
  | none =>
    match s with
    | "::" => skip; return plain (left.text ++ "::" ++ (← TypeName.parse d).text)
    | "!" => require (d = .postgresql); skip; return plain (left.text ++ "!")
    | "[" =>
      require (d = .postgresql)
      skip
      return plain (left.text ++ "[" ++ (← subscript g) ++ "]")
    | _ => refuse

def infixed (strength : Nat) (left : Expression) : Parser Expression := do
  match ← peek? with
  | some (.word _ key) => wordInfix d g strength left key
  | some (.symbol s) => symbolInfix d g strength left s
  | some (.customOperator s) => skip; binary g strength left s
  | _ => refuse

def operatorsWithin (strength : Nat) : (fuel : Nat) → Expression → Parser Expression
  | 0, left => return left
  | fuel + 1, left => do
    let tighter ← infixStrength d
    if tighter ≤ strength then return left
    else operatorsWithin strength fuel (← infixed d g tighter left)

def parse (strength : Nat) : Parser Expression := do
  let first ← Operand.parse d g
  operatorsWithin d g strength ((← get).length + 1) first

end TypedRows.Sql.Expression
