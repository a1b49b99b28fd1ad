import TypedRows.Diagnostic
import TypedRows.Language.TypeTokens
import TypedRows.Model.Annotation
import TypedRows.Model.Names
import TypedRows.Model.Statements
import TypedRows.Naming.Conflict

namespace TypedRows

structure FieldModel where
  name : String
  column : String
  typeToken : String
  nullable : Bool
  annotation : ColumnAnnotation
  deriving DecidableEq, Repr

structure TableModel where
  table : String
  typeName : String
  fileName : String
  fields : List FieldModel
  -- Names of the key columns, in the order of their declaration.
  primaryKey : List String
  statements : Statements
  deriving DecidableEq, Repr

namespace TableModel

variable (l : Language) (d : Dialect)

def location (t : Table) (c : Column) : Location :=
  .ofColumn t.name c.name t.line

def field (t : Table) (c : Column) : Except Diagnostic FieldModel :=
  match c.canonical with
  | none => .error (.error .emissionInvariant
      ("Column '" ++ c.name ++ "' reached emission without a resolved type") (location t c))
  | some canonical =>
    match l.tokens canonical with
    | .error f => .error (.ofFailure f (location t c))
    | .ok tokens => .ok
        { name := l.fieldName c
          column := c.name
          typeToken := tokens.select c.nullable
          nullable := c.nullable
          annotation := .ofColumn c canonical }

def fieldErrors (t : Table) : Diagnostics :=
  t.columns.filterMap fun c => match field l t c with
    | .error e => some e
    | .ok _ => none

def fieldModels (t : Table) : List FieldModel :=
  t.columns.filterMap fun c => match field l t c with
    | .error _ => none
    | .ok f => some f

-- Names all columns whose fields would have the first name that two fields share.
def sharedNameError (t : Table) (fields : List FieldModel) : Diagnostics :=
  match Naming.conflict? id (fields.map (·.name)) with
  | none => []
  | some (first, second) =>
    let columns := (fields.filter (·.name = first)).map fun f => "'" ++ f.column ++ "'"
    [.error .parse
      ("Columns " ++ " and ".intercalate columns ++ " of table '" ++ t.name ++
        "' map to the same " ++ l.id ++ " field name '" ++ second ++ "'")
      (.ofTable t.name t.line)]

def ofTable (t : Table) : Except Diagnostics TableModel :=
  let fields := fieldModels l t
  match fieldErrors l t ++ sharedNameError l t fields with
  | [] => .ok
      { table := t.name
        typeName := l.typeName t
        fileName := l.fileName t
        fields := fields
        primaryKey := t.primaryKey.map (·.name)
        statements := .ofTable d t }
  | errors => .error errors

end TableModel
end TypedRows
