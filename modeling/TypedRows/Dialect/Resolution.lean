import TypedRows.Dialect.TypeRule
import TypedRows.Diagnostic
import TypedRows.Schema

namespace TypedRows

structure Resolution where
  canonical : CanonicalType
  note : Option String := none
  deriving DecidableEq, Repr

namespace Resolution

def unknown : Resolution :=
  ⟨.unknown, none⟩

def occursIn (part : List Char) : List Char → Bool
  | [] => part.isEmpty
  | c :: cs => part.isPrefixOf (c :: cs) || occursIn part cs

def hasPart (base part : String) : Bool :=
  occursIn part.toList base.toList

-- The affinity of a type name without an entry, except the numeric one that every name would have.
def affinity? (t : TypeToken) : Option CanonicalType :=
  if t.hasWordArguments then none
  else if hasPart t.base "INT" then some (.integer 64)
  else if hasPart t.base "CHAR" || hasPart t.base "CLOB" || hasPart t.base "TEXT" then
    some (.text ((t.number? 0).map Nat.toUInt64))
  else if hasPart t.base "BLOB" then some (.binary none)
  else if hasPart t.base "REAL" || hasPart t.base "FLOA" || hasPart t.base "DOUB" then
    some (.float 64)
  else none

def ofRule (r : TypeRule) (t : TypeToken) : Resolution :=
  ⟨r.type t, if r.isLossy then some (t.base ++ " is represented as text") else none⟩

def ofAffinity (t : TypeToken) : Resolution :=
  match affinity? t with
  | none => unknown
  | some c => ⟨c, some (t.base ++ " resolved by SQLite type affinity as " ++ c.render)⟩

def hasWideArgument (t : TypeToken) : Bool :=
  [0, 1].any fun i => (t.number? i).any (· > 65535)

def isDecimal : CanonicalType → Bool
  | .decimal _ _ => true
  | _ => false

-- Says that the numbers of a decimal were cut to what it can hold.
def noteClamped (r : Resolution) (t : TypeToken) : Resolution :=
  if isDecimal r.canonical && hasWideArgument t && r.note.isNone then
    let note := t.base ++ " arguments are out of range and clamped to " ++ r.canonical.render
    { r with note := some note }
  else r

-- What no entry of SQLite names is resolved by the parts of its name.
def ofToken (d : Dialect) (t : TypeToken) : Resolution :=
  if t.base = "" then unknown
  else match d.typeRule? t.base with
    | some r => (ofRule r t).noteClamped t
    | none => if d = .sqlite then ofAffinity t else unknown

end Resolution

namespace Dialect

def resolve (d : Dialect) (sourceType : String) : Resolution :=
  Resolution.ofToken d (TypeToken.ofSource sourceType)

def unsupportedText (d : Dialect) (table : Table) (c : Column) : String :=
  "Unsupported " ++ d.id ++ " type '" ++ c.sourceType ++ "' for column '" ++ c.name ++
    "' in table '" ++ table.name ++ "'"

-- A column that has a canonical type keeps it.
def resolveColumn (d : Dialect) (table : Table) (c : Column) : Column × Diagnostics :=
  if c.canonical.isSome then (c, [])
  else
    let r := d.resolve c.sourceType
    let location := Location.ofColumn table.name c.name table.line
    if r.canonical.isUnknown then
      (c, [.error .typeResolution (d.unsupportedText table c) location])
    else
      ({ c with canonical := some r.canonical },
        (r.note.map fun note => Diagnostic.warning .typeResolution note location).toList)

def resolveTable (d : Dialect) (t : Table) : Table :=
  t.mapColumns fun c => (d.resolveColumn t c).1

-- Resolves every column and tells the problems in the order of tables and columns.
def resolveSchema (d : Dialect) (s : Schema) : Schema × Diagnostics :=
  (s.mapTables d.resolveTable (fun _ => rfl),
    s.tables.flatMap fun t => t.columns.flatMap fun c => (d.resolveColumn t c).2)

-- Resolves a schema after other problems were found.
def resolveAfter (d : Dialect) (found : Diagnostics) (s : Schema) : Schema × Diagnostics :=
  let (s, unresolved) := d.resolveSchema s
  (s, found ++ unresolved)

end Dialect
end TypedRows
