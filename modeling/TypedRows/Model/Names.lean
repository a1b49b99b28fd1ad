import TypedRows.Language
import TypedRows.Naming.Identifier
import TypedRows.Schema.Table

namespace TypedRows

namespace Casing

-- No target language lets a name start with a digit.
def guardDigit (casing : Casing) (name : String) : String :=
  match name.toList with
  | [] => name
  | c :: _ =>
    if !c.isDigit then name
    else match casing with
      | pascal => "N" ++ name
      | camel => "n" ++ name
      | kebab => "n-" ++ name
      | snake | screamingSnake => "n_" ++ name

end Casing

namespace Language

variable (l : Language)

def identifier (casing : Casing) (raw : String) : String :=
  let name := casing.apply (Identifier.sanitize raw)
  let name := if name = "" then casing.apply "field" else name
  l.escapeKeyword (casing.guardDigit name)

def typeName (t : Table) : String :=
  l.identifier l.typeCasing t.name

def fieldName (c : Column) : String :=
  l.identifier l.fieldCasing c.name

-- A Python module is imported by the name of its file, which is thus kept from reserved words.
def fileStem (t : Table) : String :=
  let stem := l.fileCasing.apply (Identifier.sanitize t.name)
  let stem := l.fileCasing.guardDigit (if stem = "" then "table" else stem)
  if l = python then l.escapeKeyword stem else stem

def fileName (t : Table) : String :=
  l.fileStem t ++ "." ++ l.extension

end Language
end TypedRows
