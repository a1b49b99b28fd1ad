import TypedRows.Failure
import TypedRows.Text.Blank
import TypedRows.Text.LetterCase

namespace TypedRows

inductive Dialect
  | mysql
  | postgresql
  | sqlite
  deriving DecidableEq, Repr

namespace Dialect

def all : List Dialect :=
  [mysql, postgresql, sqlite]

def id : Dialect → String
  | mysql => "mysql"
  | postgresql => "postgresql"
  | sqlite => "sqlite"

-- Every name that a request can call the dialect by.
def aliases : Dialect → List String
  | mysql => ["mysql"]
  | postgresql => ["postgresql", "postgres", "pg"]
  | sqlite => ["sqlite", "sqlite3", "sqlite>=3.35.0"]

def quoteChar : Dialect → Char
  | mysql => '\x60'
  | postgresql | sqlite => '\x22'

def doubled (quote : Char) (cs : List Char) : List Char :=
  cs.flatMap fun c => if c = quote then [quote, quote] else [c]

def quoteIdentifier (d : Dialect) (name : String) : String :=
  String.ofList (d.quoteChar :: doubled d.quoteChar name.toList ++ [d.quoteChar])

-- The placeholder of the `n`-th bind variable, counted from 1.
def bindVariable (d : Dialect) (n : Nat) : String :=
  match d with
  | postgresql => "$" ++ toString n
  | mysql | sqlite => "?"

def ofName (name : String) : Except Failure Dialect :=
  let key := Text.lower (Text.trim name)
  match all.find? (·.aliases.contains key) with
  | some d => .ok d
  | none => .error (.unsupportedTarget ("Unsupported RDBMS: " ++ name))

end Dialect
end TypedRows
