import TypedRows.Language
import TypedRows.Schema.CanonicalType

namespace TypedRows

structure TypeTokens where
  plain : String
  nullable : String
  deriving DecidableEq, Repr

namespace TypeTokens

def select (t : TypeTokens) (nullable : Bool) : String :=
  if nullable then t.nullable else t.plain

def go : TypeKind → TypeTokens
  | .int8 => ⟨"int8", "sql.NullInt16"⟩
  | .int16 => ⟨"int16", "sql.NullInt16"⟩
  | .int32 => ⟨"int32", "sql.NullInt32"⟩
  | .int64 => ⟨"int64", "sql.NullInt64"⟩
  | .float32 => ⟨"float32", "sql.NullFloat64"⟩
  | .float64 => ⟨"float64", "sql.NullFloat64"⟩
  | .decimal => ⟨"string", "sql.NullString"⟩
  | .text => ⟨"string", "sql.NullString"⟩
  | .boolean => ⟨"bool", "sql.NullBool"⟩
  | .date => ⟨"time.Time", "sql.NullTime"⟩
  | .datetime => ⟨"time.Time", "sql.NullTime"⟩
  | .binary => ⟨"[]byte", "[]byte"⟩

def rustName : TypeKind → String
  | .int8 => "i8"
  | .int16 => "i16"
  | .int32 => "i32"
  | .int64 => "i64"
  | .float32 => "f32"
  | .float64 => "f64"
  | .decimal => "String"
  | .text => "String"
  | .boolean => "bool"
  | .date => "chrono::NaiveDate"
  | .datetime => "chrono::NaiveDateTime"
  | .binary => "Vec<u8>"

def typescriptName : TypeKind → String
  | .int64 => "bigint"
  | .int8 | .int16 | .int32 | .float32 | .float64 => "number"
  | .decimal | .text => "string"
  | .boolean => "boolean"
  | .date | .datetime => "Date"
  | .binary => "Uint8Array"

def pythonName : TypeKind → String
  | .int8 | .int16 | .int32 | .int64 => "int"
  | .float32 | .float64 => "float"
  | .decimal => "Decimal"
  | .text => "str"
  | .boolean => "bool"
  | .date => "date"
  | .datetime => "datetime"
  | .binary => "bytes"

def phpName : TypeKind → String
  | .int8 | .int16 | .int32 | .int64 => "int"
  | .float32 | .float64 => "float"
  | .decimal | .text | .binary => "string"
  | .boolean => "bool"
  | .date | .datetime => "\\DateTimeImmutable"

def ofKind : Language → TypeKind → TypeTokens
  | .go, k => go k
  | .rust, k => ⟨rustName k, "Option<" ++ rustName k ++ ">"⟩
  | .typescript, k => ⟨typescriptName k, typescriptName k ++ " | null"⟩
  | .python, k => ⟨pythonName k, "Optional[" ++ pythonName k ++ "]"⟩
  | .php, k => ⟨phpName k, "?" ++ phpName k⟩

end TypeTokens

namespace Language

-- Only an unknown type cannot be written.
def tokens (l : Language) (t : CanonicalType) : Except Failure TypeTokens :=
  match t.kind? with
  | some k => .ok (.ofKind l k)
  | none => .error (.emissionInvariant ("Type '" ++ t.render ++ "' cannot be emitted"))

end Language
end TypedRows
