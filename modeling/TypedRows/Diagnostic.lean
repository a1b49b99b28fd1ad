import TypedRows.Failure

namespace TypedRows

inductive Severity
  | error
  | warning
  deriving DecidableEq, Repr

structure Location where
  table : Option String := none
  column : Option String := none
  line : Option Nat := none
  deriving DecidableEq, Repr

namespace Location

def nowhere : Location := {}

def atLine (line : Nat) : Location :=
  { line := some line }

def ofTable (table : String) (line : Option Nat) : Location :=
  { table := some table, line := line }

def ofColumn (table column : String) (line : Option Nat) : Location :=
  { table := some table, column := some column, line := line }

def isEmpty (l : Location) : Bool :=
  l.table.isNone && l.column.isNone && l.line.isNone

variable (table column : String) (line : Option Nat) (n : Nat)

@[simp] theorem atLine_table : (atLine n).table = none := rfl
@[simp] theorem atLine_column : (atLine n).column = none := rfl
@[simp] theorem atLine_line : (atLine n).line = some n := rfl

@[simp] theorem ofTable_table : (ofTable table line).table = some table := rfl
@[simp] theorem ofTable_column : (ofTable table line).column = none := rfl
@[simp] theorem ofTable_line : (ofTable table line).line = line := rfl

@[simp] theorem ofColumn_table : (ofColumn table column line).table = some table := rfl
@[simp] theorem ofColumn_column : (ofColumn table column line).column = some column := rfl
@[simp] theorem ofColumn_line : (ofColumn table column line).line = line := rfl

-- `users.id`, or the one of the two that is there.
def place (l : Location) : List String :=
  match l.table, l.column with
  | some t, some c => [t ++ "." ++ c]
  | some t, none => [t]
  | none, some c => [c]
  | none, none => []

def text (l : Location) : String :=
  ", ".intercalate ((l.line.map fun n => "line " ++ toString n).toList ++ l.place)

end Location

namespace Diagnostic

inductive Kind
  | parse
  | typeResolution
  | unsupportedTarget
  | emissionInvariant
  | limitExceeded
  deriving DecidableEq, Repr

end Diagnostic

structure Diagnostic where
  severity : Severity
  kind : Diagnostic.Kind
  message : String
  location : Location
  deriving DecidableEq, Repr

namespace Diagnostic

def error (kind : Kind) (message : String) (location : Location) : Diagnostic :=
  ⟨.error, kind, message, location⟩

def warning (kind : Kind) (message : String) (location : Location) : Diagnostic :=
  ⟨.warning, kind, message, location⟩

def isError (d : Diagnostic) : Bool :=
  d.severity = .error

def internalErrorText : String :=
  "Internal error while generating source code"

-- The detail of a broken invariant stays inside.
def userMessage (d : Diagnostic) : String :=
  if d.kind = .emissionInvariant then internalErrorText
  else if d.location.isEmpty then d.message
  else d.location.text ++ ": " ++ d.message

-- A failure that no caller can mend counts as a broken invariant and keeps its heading.
def ofFailure (f : Failure) (location : Location) : Diagnostic :=
  match f with
  | .parse m => error .parse m location
  | .typeResolution m => error .typeResolution m location
  | .unsupportedTarget m => error .unsupportedTarget m location
  | .limitExceeded m => error .limitExceeded m location
  | f => error .emissionInvariant f.message location

end Diagnostic

-- Problems in the order in which they were found.
abbrev Diagnostics := List Diagnostic

namespace Diagnostics

def errors (ds : Diagnostics) : Diagnostics :=
  ds.filter (·.isError)

def warnings (ds : Diagnostics) : Diagnostics :=
  ds.filter (!·.isError)

def hasErrors (ds : Diagnostics) : Bool :=
  ds.any (·.isError)

def userMessages (ds : Diagnostics) : List String :=
  ds.map (·.userMessage)

-- The status code that answers a request with these errors.
def status (ds : Diagnostics) : Nat :=
  if ds.any (·.kind = .emissionInvariant) then 500
  else if ds.any (·.kind = .limitExceeded) then 413
  else 400

end Diagnostics
end TypedRows
