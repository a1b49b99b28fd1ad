import TypedRows.Generator
import TypedRows.Store
import TypedRows.Text.Json

namespace TypedRows

open Text

-- Where a request arrives.
inductive Endpoint
  | generate
  | csv
  deriving DecidableEq, Repr

namespace Endpoint

def path : Endpoint → String
  | generate => "/generate"
  | csv => "/csv"

def kind : Endpoint → InputKind
  | generate => .ddl
  | csv => .csv

def ofKind : InputKind → Endpoint
  | .ddl => generate
  | .csv => csv

@[simp] theorem kind_ofKind (k : InputKind) : (ofKind k).kind = k := by
  cases k <;> rfl

-- The member of a body that holds the path of an artifact.
def member : Endpoint → String
  | generate => "zip"
  | csv => "path"

end Endpoint

inductive Response
  | stored (endpoint : Endpoint) (path : String)
  | failed (status : Nat) (messages : List String)
  deriving DecidableEq, Repr

namespace Response

def status : Response → Nat
  | stored _ _ => 200
  | failed status _ => status

def isSuccess (r : Response) : Bool :=
  200 ≤ r.status && r.status < 300

def body : Response → String
  | stored endpoint path => Json.object [(endpoint.member, Json.string path)]
  | failed _ messages => Json.object [("errors", Json.array (messages.map Json.string))]

-- Only what a caller may know is told.
def ofErrors (errors : Diagnostics) : Response :=
  failed errors.status errors.userMessages

-- The answer when a store fails, whatever the reason.
def notStored : Response :=
  failed 500 [Diagnostic.internalErrorText]

end Response

-- Generates what a request asks for, stores it, and says where it is.
def Generator.respond {m : Type → Type} [Monad m] (g : Generator) (store : Store m)
    (endpoint : Endpoint) (stamp : Stamp) (r : Request) : m Response := do
  match g.generate stamp r with
  | .error errors => return .ofErrors errors
  | .ok artifact =>
    match ← store.put stamp artifact with
    | .ok path => return .stored endpoint path
    | .error _ => return .notStored

end TypedRows
