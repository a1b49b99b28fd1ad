import TypedRows.Emission

namespace TypedRows

-- What a worker brings, and the place of its table in the schema.
structure FinishedWork where
  place : Nat
  result : Except Diagnostics SourceUnit

namespace FinishedWork

def at? (finished : List FinishedWork) (place : Nat) : Option (Except Diagnostics SourceUnit) :=
  (finished.find? (·.place = place)).map (·.result)

-- The results of the first `count` places in their order.
def inPlace (count : Nat) (finished : List FinishedWork) : List (Except Diagnostics SourceUnit) :=
  (List.range count).filterMap (at? finished)

end FinishedWork

namespace Emitter

variable (e : Emitter)

def collectFinished (s : Schema) (finished : List FinishedWork) :
    Except Diagnostics (List SourceUnit) :=
  e.collect s (FinishedWork.inPlace s.tables.length finished)

def startWorkers (s : Schema) : List (Task FinishedWork) :=
  s.tables.mapIdx fun i t => Task.spawn fun _ => ⟨i, e.unitOf t⟩

def emitParallel (s : Schema) : Except Diagnostics (List SourceUnit) :=
  e.collectFinished s ((e.startWorkers s).map Task.get)

end Emitter
end TypedRows
