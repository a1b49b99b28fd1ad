import TypedRows.Artifact
import TypedRows.Dialect.Resolution
import TypedRows.Emission.Workers
import TypedRows.Input
import TypedRows.Settings

namespace TypedRows

structure Request where
  input : List UInt8
  kind : InputKind
  -- The name of the file that the input comes from.
  source : String
  -- Any name of a language.
  language : String
  -- Any name of a dialect.
  dialect : String
  deriving DecidableEq, Repr

structure Generator where
  settings : Settings
  settings_ok : settings.fault? = none
  -- Reads the statements of scripts.
  parse : Dialect → Ddl.StatementParser := Sql.Statement.ofChars

namespace Generator

-- A generator for settings with which it can work.
def ofSettings (s : Settings) : Except Failure Generator :=
  match h : s.fault? with
  | some fault => .error (.configuration fault)
  | none => .ok { settings := s, settings_ok := h }

variable (g : Generator)

def sizeFailure (size limit : Nat) : Failure :=
  .limitExceeded
    ("Input is " ++ toString size ++ " bytes; the limit is " ++ toString limit ++ " bytes")

def checkSize (input : List UInt8) : Except Failure Unit :=
  if g.settings.maxInputBytes < input.length then
    .error (sizeFailure input.length g.settings.maxInputBytes)
  else .ok ()

def targets (r : Request) : Except Failure (Language × Dialect) := do
  let l ← Language.ofName r.language
  let d ← Dialect.ofName r.dialect
  return (l, d)

-- The targets of a request that is small enough.
def accept (r : Request) : Except Failure (Language × Dialect) := do
  g.checkSize r.input
  targets r

-- The resolved schema of an input, with every problem in it.
def schemaOf (d : Dialect) (r : Request) : Schema × Diagnostics :=
  let (s, found) :=
    Schema.ofBytesWith (g.parse d) r.kind d g.settings.csvOptions r.source r.input
  d.resolveAfter found s

def emitter (l : Language) (d : Dialect) : Emitter :=
  { language := l, dialect := d, withIndex := g.settings.withIndex }

def emitSchema (l : Language) (d : Dialect) (r : Request) : Except Diagnostics (List SourceUnit) :=
  let (s, problems) := g.schemaOf d r
  if problems.hasErrors then .error problems.errors
  else if g.settings.inParallel then (g.emitter l d).emitParallel s
  else (g.emitter l d).emit s

-- The units that a request asks for.
def emit (r : Request) : Except Diagnostics (List SourceUnit) :=
  match g.accept r with
  | .error f => .error [.ofFailure f .nowhere]
  | .ok (l, d) => g.emitSchema l d r

-- A failure for which the request is not to blame.
def internal (f : Failure) : Diagnostic :=
  .error .emissionInvariant f.message .nowhere

def generate (stamp : Stamp) (r : Request) : Except Diagnostics Artifact :=
  match g.emit r with
  | .error errors => .error errors
  | .ok units =>
    match Artifact.ofUnits g.settings.archiveName stamp units with
    | .error f => .error [internal f]
    | .ok a => .ok a

end Generator
end TypedRows
