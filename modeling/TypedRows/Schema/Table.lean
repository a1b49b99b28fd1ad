import TypedRows.Schema.CanonicalType
import TypedRows.Text.LetterCase

namespace TypedRows

structure Column where
  name : String
  -- The type as the input spells it.
  sourceType : String := ""
  -- Set once the type is resolved.
  canonical : Option CanonicalType := none
  nullable : Bool := true
  primaryKey : Bool := false
  autoIncrement : Bool := false
  default : Option String := none
  deriving DecidableEq, Repr

def sameAsciiCase (a b : String) : Bool :=
  a.toList.map Char.toLower = b.toList.map Char.toLower

theorem sameAsciiCase_iff {a b : String} :
    sameAsciiCase a b ↔ a.toList.map Char.toLower = b.toList.map Char.toLower :=
  decide_eq_true_iff

namespace Column

def isNamed (name : String) (c : Column) : Bool :=
  sameAsciiCase c.name name

-- A key column is never nullable.
def markKey (c : Column) : Column :=
  { c with primaryKey := true, nullable := false }

end Column

structure Table where
  name : String
  columns : List Column := []
  -- The line on which the definition starts.
  line : Option Nat := none
  deriving DecidableEq, Repr

namespace Table

-- Tables with equal keys are the same table to a schema.
def key (t : Table) : String :=
  Text.lower t.name

def column? (t : Table) (name : String) : Option Column :=
  t.columns.find? (·.isNamed name)

def addColumn (t : Table) (c : Column) : Table :=
  { t with columns := t.columns ++ [c] }

-- The columns of the primary key, in the order of their declaration.
def primaryKey (t : Table) : List Column :=
  t.columns.filter (·.primaryKey)

def hasPrimaryKey (t : Table) : Bool :=
  t.columns.any (·.primaryKey)

theorem hasPrimaryKey_iff {t : Table} : t.hasPrimaryKey ↔ t.primaryKey ≠ [] := by
  simp [hasPrimaryKey, primaryKey]

def markFirst (name : String) : List Column → List Column
  | [] => []
  | c :: cs => if c.isNamed name then c.markKey :: cs else c :: markFirst name cs

-- Makes the named column part of the primary key, if there is one.
def markKey (t : Table) (name : String) : Table :=
  { t with columns := markFirst name t.columns }

def mapColumns (t : Table) (f : Column → Column) : Table :=
  { t with columns := t.columns.map f }

@[simp] theorem key_markKey (t : Table) (name : String) : (t.markKey name).key = t.key := rfl

@[simp] theorem key_mapColumns (t : Table) (f : Column → Column) :
    (t.mapColumns f).key = t.key := rfl

end Table
end TypedRows
