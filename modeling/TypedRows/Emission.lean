import TypedRows.Layout.Go
import TypedRows.Layout.Php
import TypedRows.Layout.Python
import TypedRows.Layout.Rust
import TypedRows.Layout.TypeScript
import TypedRows.Schema

namespace TypedRows

structure SourceUnit where
  fileName : String
  content : String
  deriving DecidableEq, Repr

namespace Layout

def unitLines : Language → TableModel → Lines
  | .go => Go.unit
  | .rust => Rust.unit
  | .typescript => TypeScript.unit
  | .python => Python.unit
  | .php => Php.unit

def indexLines : Language → List Entry → Lines
  | .go => Go.index
  | .rust => Rust.index
  | .typescript => TypeScript.index
  | .python => Python.index
  | .php => Php.index

def unit (l : Language) (m : TableModel) : SourceUnit :=
  ⟨m.fileName, (unitLines l m).text⟩

def index (l : Language) (s : Schema) : SourceUnit :=
  ⟨l.indexFileName, (indexLines l (s.tables.map (Entry.ofTable l))).text⟩

end Layout

structure Emitter where
  language : Language
  dialect : Dialect
  withIndex : Bool := false
  deriving DecidableEq, Repr

namespace Emitter

variable (e : Emitter)

def unitOf (t : Table) : Except Diagnostics SourceUnit :=
  (TableModel.ofTable e.language e.dialect t).map (Layout.unit e.language)

-- What a unit declares beside its type in a scope that all units share.
def declaredSuffixes (t : Table) : List String :=
  match e.language with
  | .go => ["Table", "PrimaryKey"] ++
      (Statements.ofTable e.dialect t).named.map fun (name, _) => Casing.pascal.apply name
  | .typescript => ["Table", "PrimaryKey", "Sql"]
  | .rust | .python | .php => []

def declaredNames (t : Table) : List String :=
  let typeName := e.language.typeName t
  typeName :: (e.declaredSuffixes t).map (typeName ++ ·)

def fileNames (s : Schema) : List String :=
  s.tables.map e.language.fileName ++ (if e.withIndex then [e.language.indexFileName] else [])

def sharedDeclaration (s : Schema) : Diagnostics :=
  match Naming.conflict? id (s.tables.flatMap e.declaredNames) with
  | none => []
  | some (_, name) => [.error .parse
      ("More than one table declares the " ++ e.language.id ++ " name '" ++ name ++ "'") .nowhere]

-- File names that differ in case alone are shared, since some file systems take them as one.
def sharedFileName (s : Schema) : Diagnostics :=
  match Naming.conflict? Text.lower (e.fileNames s) with
  | none => []
  | some (_, name) => [.error .parse
      ("More than one generated file would be named '" ++ name ++ "'") .nowhere]

def sharedNames (s : Schema) : Diagnostics :=
  e.sharedDeclaration s ++ e.sharedFileName s

def indexUnit (s : Schema) : List SourceUnit :=
  if e.withIndex then [Layout.index e.language s] else []

-- Joins the results of single tables, given in the order of the schema.
def collect (s : Schema) (results : List (Except Diagnostics SourceUnit)) :
    Except Diagnostics (List SourceUnit) :=
  let errors := results.flatMap fun r => match r with
    | .error ds => ds
    | .ok _ => []
  let units := results.filterMap fun r => match r with
    | .error _ => none
    | .ok u => some u
  match errors ++ e.sharedNames s with
  | [] => .ok (units ++ e.indexUnit s)
  | errors => .error errors

def emit (s : Schema) : Except Diagnostics (List SourceUnit) :=
  e.collect s (s.tables.map e.unitOf)

end Emitter
end TypedRows
