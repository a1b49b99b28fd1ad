import TypedRows.Dialect
import TypedRows.Schema.Table

namespace TypedRows

structure Statements where
  selectAll : String
  insert : String
  selectByKey : Option String := none
  updateByKey : Option String := none
  deleteByKey : Option String := none
  deriving DecidableEq, Repr

namespace Statements

-- Every statement there is, under its name.
def named (s : Statements) : List (String × String) :=
  [("select_all", s.selectAll), ("insert", s.insert)] ++
    (s.selectByKey.map fun sql => ("select_by_key", sql)).toList ++
    (s.updateByKey.map fun sql => ("update_by_key", sql)).toList ++
    (s.deleteByKey.map fun sql => ("delete_by_key", sql)).toList

variable (d : Dialect)

def columnList (columns : List Column) : String :=
  ", ".intercalate (columns.map fun c => d.quoteIdentifier c.name)

-- `"a" = $3` for each column, the first bound to the variable `first`.
def equations (first : Nat) (columns : List Column) : List String :=
  columns.mapIdx fun i c => d.quoteIdentifier c.name ++ " = " ++ d.bindVariable (first + i)

def keyFilter (first : Nat) (keys : List Column) : String :=
  " AND ".intercalate (equations d first keys)

def selectAllOf (t : Table) : String :=
  "SELECT " ++ columnList d t.columns ++ " FROM " ++ d.quoteIdentifier t.name

-- Columns that the database numbers are left to it.
def insertOf (t : Table) : String :=
  let table := d.quoteIdentifier t.name
  match t.columns.filter (!·.autoIncrement) with
  | [] =>
    match d with
    | .mysql => "INSERT INTO " ++ table ++ " () VALUES ()"
    | .postgresql | .sqlite => "INSERT INTO " ++ table ++ " DEFAULT VALUES"
  | columns =>
    "INSERT INTO " ++ table ++ " (" ++ columnList d columns ++ ") VALUES (" ++
      ", ".intercalate (columns.mapIdx fun i _ => d.bindVariable (i + 1)) ++ ")"

def updateOf (t : Table) : Option String :=
  match t.columns.filter (!·.primaryKey) with
  | [] => none
  | columns => some ("UPDATE " ++ d.quoteIdentifier t.name ++ " SET " ++
      ", ".intercalate (equations d 1 columns) ++ " WHERE " ++
      keyFilter d (columns.length + 1) t.primaryKey)

def ofTable (t : Table) : Statements :=
  let selectAll := selectAllOf d t
  match t.primaryKey with
  | [] => { selectAll := selectAll, insert := insertOf d t }
  | keys =>
    { selectAll := selectAll
      insert := insertOf d t
      selectByKey := some (selectAll ++ " WHERE " ++ keyFilter d 1 keys)
      updateByKey := updateOf d t
      deleteByKey := some
        ("DELETE FROM " ++ d.quoteIdentifier t.name ++ " WHERE " ++ keyFilter d 1 keys) }

end Statements
end TypedRows
