import TypedRows.Sql.Alteration
import TypedRows.Sql.Change
import TypedRows.Sql.Cursor
import TypedRows.Sql.Listing
import TypedRows.Sql.Session
import TypedRows.Sql.Token.Lexer
import TypedRows.Sql.Transfer

namespace TypedRows.Sql

open TypedRows.Sql.Parser

-- Expressions and queries that nest at most `depth` deep.
def grammar (d : Dialect) : (depth : Nat) → Grammar
  | 0 => ⟨fun _ => throw .tooDeep, throw .tooDeep⟩
  | depth + 1 =>
    let g := grammar d depth
    ⟨Expression.parse d g, Query.parse d g (Change.parse d g)⟩

namespace Statement

-- How deep statements, expressions and queries may nest in all.
def maxDepth : Nat := 50

section Kinds

variable (d : Dialect) (g : Grammar)

def query : Parser Statement := do
  return .other (← g.query)

def explains : Statement → Bool
  | .other text => ["EXPLAIN", "DESCRIBE", "DESC"].contains text
  | .createTable _ => false

-- A name with a value or without one, as PostgreSQL gives them in parentheses.
def explanationOption : Parser Unit := do
  discard ident
  if !((← peekSymbol ",") || (← peekSymbol ")")) then discard g.expr

-- How an explanation is to look.
def explanationStyle (key : String) : Parser Unit := do
  if d = .postgresql && key = "EXPLAIN" && (← peekSymbol "(") then
    discard (parenthesized (commaSeparated (explanationOption g)))
  else if !(← (keywords? ["QUERY", "PLAN"] <||> keyword? "ESTIMATE")) then
    discard (keyword? "ANALYZE")
    discard (keyword? "VERBOSE")
    if ← keyword? "FORMAT" then discard (oneOf ["TEXT", "GRAPHVIZ", "JSON"])

-- What follows a word that asks how another statement works, or what a table is.
def explanation (inner : Parser Statement) (key : String) : Parser Unit := do
  explanationStyle d g key
  match ← attempt? inner with
  | some s => require !explains s
  | none =>
    discard (oneOf? ["EXTENDED", "FORMATTED"])
    discard objectName

def replacement : Parser Statement := do
  match d with
  | .mysql => Change.insert d g; return .other "REPLACE"
  | .sqlite => Change.insert d g; return .other "INSERT"
  | .postgresql => refuse

-- Statements with semicolons between them. The word `END` after a statement ends them.
def allWithin (inner : Parser Statement) : (fuel : Nat) → Parser (List Statement)
  | 0 => refuse
  | fuel + 1 => do
    discard (many do if ← symbol? ";" then return some () else return none)
    if ← atEnd then return []
    else
      let first ← inner
      if ← atEnd then return [first]
      else if (← peekKey) = "END" then return [first]
      else
        require (← peekSymbol ";")
        return first :: (← allWithin inner fuel)

def allOf (inner : Parser Statement) : Parser (List Statement) := do
  allWithin inner ((← get).length + 1)

-- Statements whose normal spelling keeps their first word.
def ofSameKey (inner : Parser Statement) (key : String) : Parser Unit :=
  match key with
  | "ALTER" => Alteration.parse d g
  | "DROP" => Alteration.drop d g
  | "INSERT" => Change.insert d g
  | "UPDATE" => Change.update d g
  | "DELETE" => Change.delete d g
  | "MERGE" => Change.merge d g
  | "TRUNCATE" => Storage.truncate d g
  | "ANALYZE" => Storage.analyze g
  | "CACHE" => Storage.cache g
  | "UNCACHE" => Storage.uncache
  | "MSCK" => Storage.check
  | "GRANT" => Privilege.grant
  | "REVOKE" => Privilege.revoke
  | "SHOW" => Listing.parse d g
  | "COPY" => Transfer.copy d g
  | "DECLARE" => Cursor.declare g
  | "FETCH" => Cursor.fetch d
  | "CLOSE" => Cursor.close
  | "PREPARE" => Prepared.prepare d inner
  | "EXECUTE" => Prepared.execute g
  | "DEALLOCATE" => Prepared.deallocate
  | "EXPLAIN" | "DESCRIBE" | "DESC" => explanation d g inner key
  | key => Session.ofKey d g key

-- `inner` reads a statement inside this one.
def ofKey (inner : Parser Statement) (key : String) : Parser Statement := do
  match key with
  | "CREATE" => Creation.parse d g (discard (allOf inner))
  | "REPLACE" => replacement d g
  | "UNLOAD" => return .other (← Transfer.unload g)
  | "END" => ofSameKey d g inner key; return .other "COMMIT"
  | "EXEC" => Prepared.execute g; return .other "EXECUTE"
  | key => ofSameKey d g inner key; return .other key

end Kinds

def parse (d : Dialect) : (depth : Nat) → Parser Statement
  | 0 => throw .tooDeep
  | depth + 1 => do
    let g := grammar d depth
    let key ← peekKey
    if (← peekSymbol "(") || ["SELECT", "WITH", "VALUES"].contains key then query g
    else
      skip
      ofKey d g (parse d depth) key

-- The statements of a text, if the whole text can be read. A text without tokens is refused too.
def ofChars (d : Dialect) (cs : List Char) : Except String (List Statement) :=
  match tokens? d cs with
  | none => .error Refusal.unexpected.message
  | some tokens =>
    match allOf (parse d maxDepth) tokens with
    | .ok (statements, _) => .ok statements
    | .error refusal => .error refusal.message

end Statement
end TypedRows.Sql
