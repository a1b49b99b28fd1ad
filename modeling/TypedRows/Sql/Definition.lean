import TypedRows.Sql.Token

namespace TypedRows.Sql

inductive ColumnOption
  | notNull
  | null
  -- The expression in its normal spelling.
  | default (expression : String)
  | primaryKey
  -- An identity has no expression.
  | generated (expression : Option String)
  -- Words that only some dialects have.
  | ofDialect (tokens : List Token)
  -- An option that tells nothing about the type or the key.
  | other
  deriving DecidableEq, Repr

structure ColumnDefinition where
  name : Ident
  type : String
  options : List ColumnOption := []
  deriving DecidableEq, Repr

structure TableDefinition where
  name : ObjectName
  columns : List ColumnDefinition := []
  -- The columns of each primary key that is no option of a column.
  keys : List (List Ident) := []
  -- Whether there are a table to be like, a table to be cloned and a query for the rows.
  isLike : Bool := false
  isClone : Bool := false
  hasQuery : Bool := false
  deriving DecidableEq, Repr

-- What defines no table is kept in its normal spelling, or just the first word of it.
inductive Statement
  | createTable (table : TableDefinition)
  | other (text : String)
  deriving DecidableEq, Repr

end TypedRows.Sql
