import TypedRows.Sql.ColumnDefinition

namespace TypedRows.Sql

open TypedRows.Sql.Parser

variable (d : Dialect) (g : Grammar)

namespace Routine

-- A type that nobody knows is the name of the argument, and its type follows.
def argument : Parser Unit := do
  discard (oneOf? ["IN", "OUT", "INOUT"])
  if (← TypeName.parse d).kind = .custom then discard (TypeName.parse d)
  if ← (keyword? "DEFAULT" <||> symbol? "=") then discard g.expr

-- What a function says about itself, each at most once.
inductive Property
  | body
  | language
  | volatility
  | nullInput
  | parallelism
  deriving DecidableEq, Repr

def body : Parser Unit := do
  match ← peek? with
  | some (.string (.dollar _) _) => skip
  | _ => discard (literalText d)

def volatility : Parser Bool :=
  return (← oneOf? ["IMMUTABLE", "STABLE", "VOLATILE"]).isSome

def nullInput : Parser Bool :=
  keywords? ["CALLED", "ON", "NULL", "INPUT"] <||>
    keywords? ["RETURNS", "NULL", "ON", "NULL", "INPUT"] <||> keyword? "STRICT"

def property? : Parser (Option Property) := do
  if ← keyword? "AS" then
    body d
    return some .body
  else if ← keyword? "LANGUAGE" then
    discard ident
    return some .language
  else if ← volatility then return some .volatility
  else if ← nullInput then return some .nullInput
  else if ← keyword? "PARALLEL" then
    discard (oneOf ["UNSAFE", "RESTRICTED", "SAFE"])
    return some .parallelism
  else if ← keyword? "RETURN" then
    discard g.expr
    return some .body
  else return none

-- What follows `CREATE FUNCTION`, which only PostgreSQL has.
def function : Parser Unit := do
  require (d = .postgresql)
  discard objectName
  symbol "("
  if !(← peekSymbol ")") then discard (commaSeparated (argument d g))
  symbol ")"
  if ← keyword? "RETURNS" then discard (TypeName.parse d)
  let properties ← many (property? d g)
  require (decide properties.Nodup)

-- A function that exists, told by its name and perhaps its arguments.
def description : Parser Unit := do
  discard objectName
  if ← symbol? "(" then
    if !(← symbol? ")") then
      discard (commaSeparated (argument d g))
      symbol ")"

def parameter : Parser Unit := do
  discard ident
  discard (TypeName.parse d)

-- Parameters up to the closing parenthesis, which may follow a comma.
def parametersWithin : (fuel : Nat) → Parser Unit
  | 0 => refuse
  | fuel + 1 => do
    if (← peekKey) ≠ "" then parameter d
    let comma ← symbol? ","
    if !(← symbol? ")") then
      require comma
      parametersWithin fuel

def parameters : Parser Unit := do
  if ← symbol? "(" then
    if !(← symbol? ")") then parametersWithin d (← get).length

-- What follows `CREATE PROCEDURE`; `statements` reads all up to the end.
def procedure (statements : Parser Unit) : Parser Unit := do
  discard objectName
  parameters d
  keywords ["AS", "BEGIN"]
  statements
  keyword "END"

end Routine

namespace Trigger

def event : Parser Unit := do
  if (← oneOf ["INSERT", "UPDATE", "DELETE", "TRUNCATE"]) = "UPDATE" then
    if ← keyword? "OF" then discard (commaSeparated ident)

def events : Parser Unit := do
  event
  discard <| many do
    if ← keyword? "OR" then
      event
      return some ()
    else return none

-- A name for the rows before or after the change.
def transition? : Parser (Option Unit) := do
  if (← oneOf? ["OLD", "NEW"]).isNone then return none
  if !(← keyword? "TABLE") then return none
  discard (keyword? "AS")
  discard objectName
  return some ()

def action : Parser Unit := do
  keyword "EXECUTE"
  discard (oneOf ["FUNCTION", "PROCEDURE"])
  Routine.description d g

-- What follows `CREATE TRIGGER`.
def create : Parser Unit := do
  require (d ≠ .sqlite)
  discard objectName
  if (← oneOf ["BEFORE", "AFTER", "INSTEAD"]) = "INSTEAD" then keyword "OF"
  events
  keyword "ON"
  discard objectName
  if ← keyword? "FROM" then discard objectName
  ColumnDefinition.characteristics
  if ← keyword? "REFERENCING" then discard (many transition?)
  keyword "FOR"
  discard (keyword? "EACH")
  discard (oneOf ["ROW", "STATEMENT"])
  discard (g.exprAfter "WHEN")
  action d g

-- What follows `DROP TRIGGER`, which only PostgreSQL has.
def drop : Parser Unit := do
  require (d = .postgresql)
  discard (keywords? ["IF", "EXISTS"])
  discard objectName
  keyword "ON"
  discard objectName
  discard (oneOf? ["CASCADE", "RESTRICT"])

end Trigger
end TypedRows.Sql
