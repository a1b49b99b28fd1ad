import TypedRows.Sql.Call
import TypedRows.Sql.Precedence

namespace TypedRows.Sql.Operand

open TypedRows.Sql.Parser

variable (d : Dialect) (g : Grammar)

def plain (text : String) : Expression :=
  ⟨text, false⟩

section Interval

def temporalUnits : List String := [
  "YEAR", "YEARS", "MONTH", "WEEK", "WEEKS", "DAY", "DAYOFWEEK", "DAYOFYEAR", "DAYS", "HOUR",
  "HOURS", "MINUTE", "SECOND", "SECONDS", "CENTURY", "DECADE", "DOW", "DOY", "EPOCH", "ISODOW",
  "ISOYEAR", "ISOWEEK", "JULIAN", "MICROSECOND", "MICROSECONDS", "MILLENIUM", "MILLENNIUM",
  "MILLISECOND", "MILLISECONDS", "NANOSECOND", "NANOSECONDS", "QUARTER", "TIMEZONE",
  "TIMEZONE_ABBR", "TIMEZONE_HOUR", "TIMEZONE_MINUTE", "TIMEZONE_REGION"]

-- A field of a time. PostgreSQL also takes a name or a string.
def dateTimeField : Parser String := do
  match ← oneOf? ("DATE" :: "TIME" :: temporalUnits) with
  | some unit => return unit
  | none =>
    match ← next with
    | .word i _ => require (d = .postgresql); return i.render
    | .string .single s => require (d = .postgresql); return literal s
    | _ => refuse

def fraction : Parser String := do
  return spaced (← TypeName.size)

def secondPrecision : Parser String := do
  if ← symbol? "(" then
    let precision := toString (← wholeNumber)
    let scale ← if ← symbol? "," then pure (", " ++ toString (← wholeNumber)) else pure ""
    symbol ")"
    return " (" ++ precision ++ scale ++ ")"
  else return ""

def intervalEnd : Parser String := do
  if ← keyword? "TO" then
    let last ← dateTimeField d
    return " TO " ++ last ++ (← if last = "SECOND" then fraction else pure "")
  else return ""

def intervalUnit : Parser String := do
  if temporalUnits.contains (← peekKey) then
    let unit ← dateTimeField d
    if unit = "SECOND" then return " SECOND" ++ (← secondPrecision)
    else return " " ++ unit ++ (← fraction) ++ (← intervalEnd d)
  else
    require (d ≠ .mysql)
    return (← fraction) ++ (← intervalEnd d)

-- `inner` reads one operand. Only MySQL takes a whole expression, and insists on a unit.
def interval (inner : Parser Expression) : Parser Expression := do
  let value ← if d = .mysql then g.expression 0 else inner
  return plain ("INTERVAL " ++ value.text ++ (← intervalUnit d))

end Interval

section Literals

def placeholderName : Parser String := do
  match ← next with
  | .word i _ => return i.value
  | .number digits false => return digits
  | _ => refuse

-- A literal or a placeholder.
def value : Parser Expression := do
  match ← next with
  | .number digits long => return plain (Token.renderNumber digits long)
  | .string kind s => require (kind ≠ .escaped || d = .postgresql); return plain (kind.render s)
  | .placeholder s => return plain s
  | .symbol s =>
    require (s = ":" || s = "@")
    return plain (s ++ (← placeholderName))
  | _ => refuse

-- A literal, a placeholder, or a word for a value.
def constant : Parser Unit := do
  match ← peek? with
  | some (.word i key) =>
    skip
    require (i.quote = some '\x22' || ["TRUE", "FALSE", "NULL"].contains key)
  | _ => discard (value d)

-- A number or a placeholder.
def numeric : Parser Unit := do
  match ← peek? with
  | some (.string _ _) => refuse
  | _ => discard (value d)

-- A type before a string makes a literal of that type. Types that are not known do not.
def typed (inner : Parser Expression) : Parser Expression := do
  let t ← TypeName.parse d
  match t.kind with
  | .interval => interval d g inner
  | .custom => refuse
  | .builtin => return plain (t.text ++ " " ++ literal (← literalText d))

-- Items in brackets whose opening one was read.
def array (name : String) : Parser Expression := do
  let items ← commaSeparatedBefore "]" g.expr
  symbol "]"
  return plain (name ++ "[" ++ commaJoined items ++ "]")

end Literals

section Forms

-- What follows `CASE`.
def caseOf : Parser Expression := do
  let operand ← if (← peekKey) = "WHEN" then pure "" else g.expr
  let branches ← many do
    if ← keyword? "WHEN" then
      let condition ← g.expr
      keyword "THEN"
      return some ("WHEN " ++ condition ++ " THEN " ++ (← g.expr))
    else return none
  require !branches.isEmpty
  let otherwise ← if ← keyword? "ELSE" then pure ("ELSE " ++ (← g.expr)) else pure ""
  keyword "END"
  return plain (joinNonempty (["CASE", operand] ++ branches ++ [otherwise, "END"]))

def cast (name : String) : Parser Expression := do
  symbol "("
  let value ← g.expr
  keyword "AS"
  let type ← TypeName.parse d
  symbol ")"
  return plain (name ++ "(" ++ value ++ " AS " ++ type.text ++ ")")

def convert : Parser Expression := do
  symbol "("
  let value ← g.expr
  let target ← if ← keyword? "USING" then pure (" USING " ++ ObjectName.render (← objectName))
    else do
      symbol ","
      let type := (← TypeName.parse d).text
      if ← keywords? ["CHARACTER", "SET"] then
        pure (", " ++ type ++ " CHARACTER SET " ++ ObjectName.render (← objectName))
      else pure (", " ++ type)
  symbol ")"
  return plain ("CONVERT(" ++ value ++ target ++ ")")

def existsQuery (negation : String) : Parser Expression := do
  return plain (negation ++ "EXISTS (" ++ (← parenthesized g.query) ++ ")")

def extract : Parser Expression := do
  symbol "("
  let field ← dateTimeField d
  keyword "FROM"
  let value ← g.expr
  symbol ")"
  return plain ("EXTRACT(" ++ field ++ " FROM " ++ value ++ ")")

def roundingScale : Parser String := do
  if ← keyword? "TO" then return " TO " ++ (← dateTimeField d)
  else if ← symbol? "," then
    match ← next with
    | .number digits long => return ", " ++ Token.renderNumber digits long
    | _ => refuse
  else return ""

def rounding (name : String) : Parser Expression := do
  symbol "("
  let value ← g.expr
  let scale ← roundingScale d
  symbol ")"
  return plain (name ++ "(" ++ value ++ scale ++ ")")

def position : Parser Expression := do
  symbol "("
  let part ← g.text (Level.between.strength d)
  keyword "IN"
  let whole ← g.expr
  symbol ")"
  return plain ("POSITION(" ++ part ++ " IN " ++ whole ++ ")")

-- The word or the comma before an argument; commas before both make the short form.
def substring : Parser Expression := do
  symbol "("
  let value ← g.expr
  let short ← symbol? ","
  let start ← if short then pure (", " ++ (← g.expr)) else g.exprAfter "FROM"
  let size ← if ← (keyword? "FOR" <||> symbol? ",") then
      pure ((if short then ", " else " FOR ") ++ (← g.expr))
    else pure ""
  symbol ")"
  return plain ("SUBSTRING(" ++ value ++ start ++ size ++ ")")

def overlay : Parser Expression := do
  symbol "("
  let value ← g.expr
  keyword "PLACING"
  let part ← g.expr
  keyword "FROM"
  let start ← g.expr
  let size ← g.exprAfter "FOR"
  symbol ")"
  return plain ("OVERLAY(" ++ value ++ " PLACING " ++ part ++ " FROM " ++ start ++ size ++ ")")

def trim : Parser Expression := do
  symbol "("
  let side ← oneOf? ["BOTH", "LEADING", "TRAILING"]
  let what ← g.expr
  let source ← g.exprAfter "FROM"
  symbol ")"
  return plain ("TRIM(" ++ (side.map (· ++ " ")).getD "" ++ what ++ source ++ ")")

def matchModifier : Parser String := do
  if ← keywords? ["IN", "NATURAL", "LANGUAGE", "MODE"] then
    if ← keywords? ["WITH", "QUERY", "EXPANSION"] then
      return " IN NATURAL LANGUAGE MODE WITH QUERY EXPANSION"
    else return " IN NATURAL LANGUAGE MODE"
  else if ← keywords? ["IN", "BOOLEAN", "MODE"] then return " IN BOOLEAN MODE"
  else if ← keywords? ["WITH", "QUERY", "EXPANSION"] then return " WITH QUERY EXPANSION"
  else return ""

def matchAgainst : Parser Expression := do
  let columns ← columnList
  keyword "AGAINST"
  symbol "("
  let words ← value d
  let modifier ← matchModifier
  symbol ")"
  return plain ("MATCH (" ++ renderIdents columns ++ ") AGAINST (" ++ words.text ++ modifier ++ ")")

def arrayQuery : Parser Expression := do
  return plain ("ARRAY(" ++ (← parenthesized g.query) ++ ")")

def negation : Parser Expression := do
  if ← keyword? "EXISTS" then existsQuery g "NOT "
  else return plain ("NOT " ++ (← g.text (Level.not.strength d)))

-- The time now, with or without a precision.
def clock (name : String) : Parser Expression := do
  if ← symbol? "(" then return plain (name ++ (← Call.arguments d g)) else return plain name

end Forms

section Words

-- Words that make a form of their own, with what follows them.
def form? (inner : Parser Expression) (i : Ident) (key : String) : Parser (Option Expression) := do
  match key with
  | "TRUE" => return plain "true"
  | "FALSE" => return plain "false"
  | "NULL" => return plain "NULL"
  | "CURRENT_CATALOG" | "CURRENT_USER" | "SESSION_USER" | "USER" =>
    if d = .postgresql then return plain i.render else return none
  | "CURRENT_TIMESTAMP" | "CURRENT_TIME" | "CURRENT_DATE" | "LOCALTIME" | "LOCALTIMESTAMP" =>
    clock d g i.render
  | "CASE" => caseOf g
  | "CONVERT" => convert d g
  | "CAST" | "TRY_CAST" | "SAFE_CAST" => cast d g key
  | "EXISTS" => existsQuery g ""
  | "EXTRACT" => extract d g
  | "CEIL" | "FLOOR" => rounding d g key
  | "POSITION" =>
    if ← peekSymbol "(" then orElse (position d g) (Call.parse d g i.render) else return none
  | "SUBSTRING" => substring g
  | "OVERLAY" => overlay g
  | "TRIM" => trim g
  | "INTERVAL" => interval d g inner
  | "ARRAY" =>
    if ← symbol? "[" then array g "ARRAY"
    else if ← peekSymbol "(" then arrayQuery g
    else return none
  | "NOT" => negation d g
  | "MATCH" => if d = .mysql then matchAgainst d else return none
  | _ => return none

-- Names between points; in PostgreSQL a star may end them.
def qualified (i : Ident) : Parser Expression := do
  let parts ← many do
    if !(← symbol? ".") then return none
    match ← next with
    | .word i _ => return some i.render
    | .string .single s => return some (literal s)
    | .symbol "*" => require (d = .postgresql); return some "*"
    | _ => refuse
  let name := ".".intercalate (i.render :: parts)
  if parts.contains "*" then
    require (parts.getLast? = some "*")
    return plain name
  else if ← peekSymbol "(" then Call.parse d g name
  else return plain name

-- A word that is a name, a function, or the character set of the string after it.
def named (i : Ident) : Parser Expression := do
  match ← peek? with
  | some (.symbol s) => if s = "(" || s = "." then qualified d g i else return plain i.render
  | some (.string kind s) =>
    if i.value.startsWith "_" && [.single, .double, .hexadecimal].contains kind then
      skip
      return plain (i.value ++ " " ++ kind.render s)
    else return plain i.render
  | _ => return plain i.render

-- Words that are no names even where their form does not follow.
def isNoName (key : String) : Bool :=
  ["EXISTS", "INTERVAL", "STRUCT"].contains key

-- A word is a name where it makes no form, and mostly also where its form cannot be read.
def word (inner : Parser Expression) (i : Ident) (key : String) : Parser Expression := fun ts =>
  match form? d g inner i key ts with
  | .ok (some e, rest) => .ok (e, rest)
  | .ok (none, _) => named d g i ts
  | .error r =>
    match isNoName key, named d g i ts with
    | false, .ok result => .ok result
    | _, _ => .error r

end Words

-- What an opening parenthesis begins: a query, one expression or several.
def enclosed : Parser Expression := do
  let isSubquery ← Grammar.startsQuery
  let inner ← if isSubquery then g.query else g.exprList
  symbol ")"
  let text := "(" ++ inner ++ ")"
  if ← symbol? "." then
    match ← next with
    | .word i _ => return plain (text ++ "." ++ i.render)
    | _ => refuse
  else return ⟨text, isSubquery⟩

-- Signs before an operand that only PostgreSQL has.
def isOwnSign (s : String) : Bool :=
  ["!!", "|/", "||/", "@", "~"].contains s

def sign? (s : String) : Option (Parser Expression) :=
  if s = "-" || s = "+" then some (return plain (s ++ (← g.text (Level.product.strength d))))
  else if d = .postgresql && isOwnSign s then
    some (return plain (s ++ (← g.text (Level.sum.strength d))))
  else none

def untyped (inner : Parser Expression) : Parser Expression := do
  match ← peek? with
  | some (.word i key) => skip; word d g inner i key
  | some (.symbol "(") => skip; enclosed g
  | some (.symbol "[") => skip; array g ""
  | some (.symbol s) =>
    match sign? d g s with
    | some p => skip; p
    | none => value d
  | _ => value d

def collation : Parser String := do
  if ← keyword? "COLLATE" then return " COLLATE " ++ ObjectName.render (← objectName)
  else return ""

-- One operand; only intervals hold another one directly.
def parseWithin : (fuel : Nat) → Parser Expression
  | 0 => refuse
  | fuel + 1 => do
    let inner := parseWithin fuel
    match ← attempt? (typed d g inner) with
    | some e => return e
    | none =>
      let e ← untyped d g inner
      match ← collation with
      | "" => return e
      | suffix => return plain (e.text ++ suffix)

def parse : Parser Expression := do
  parseWithin d g (← get).length

end TypedRows.Sql.Operand
