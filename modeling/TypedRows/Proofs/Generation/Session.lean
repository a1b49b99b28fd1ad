import Mathlib.Data.List.Forall2
import TypedRows.Response

namespace TypedRows

-- A request where it arrives, and what it is stamped with.
structure Call where
  endpoint : Endpoint
  stamp : Stamp
  request : Request
  deriving DecidableEq, Repr

-- A store that fails with everything that it is asked to keep, whatever else it does.
def Store.Fails {σ : Type} (store : Store (StateM σ)) : Prop :=
  ∀ stamp a w, ∃ fault, ((store.put stamp a).run w).1 = .error fault

-- Responses that differ at most in the stamp inside the name of an archive.
inductive Response.SameButStamp (archiveName : String) (s s' : Stamp) : Response → Response → Prop
  | same (r : Response) : SameButStamp archiveName s s' r r
  | stamped (endpoint : Endpoint) :
    SameButStamp archiveName s s' (.stored endpoint (s.stem archiveName ++ ".zip"))
      (.stored endpoint (s'.stem archiveName ++ ".zip"))

-- The answer to a request whose artifact is kept under its own name.
def Response.ofResult (endpoint : Endpoint) : Except Diagnostics Artifact → Response
  | .error errors => .ofErrors errors
  | .ok a => .stored endpoint a.fileName

theorem Response.ofErrors_status (errors : Diagnostics) : (ofErrors errors).status ≠ 200 := by
  rw [ofErrors, status, Diagnostics.status]
  split
  · decide
  · split <;> decide

-- A stamp is seen in the names of archives only.
theorem Artifact.ofUnits_stamps (archiveName : String) (s s' : Stamp) (units : List SourceUnit) :
    ofUnits archiveName s units = ofUnits archiveName s' units ∨
      ∃ z, ofUnits archiveName s units = .ok (.archive (s.stem archiveName ++ ".zip") z) ∧
        ofUnits archiveName s' units = .ok (.archive (s'.stem archiveName ++ ".zip") z) := by
  unfold ofUnits
  split
  case h_1 => exact .inl rfl
  case h_2 => exact .inl rfl
  case h_3 =>
    cases Archive.ofUnits units
    case error => left; rw [Except.map, Except.map]
    case ok z => exact .inr ⟨z, rfl, rfl⟩

namespace Generator

section Stores

variable {m : Type → Type} [Monad m] (g : Generator) (store : Store m)

def answer (c : Call) : m Response :=
  g.respond store c.endpoint c.stamp c.request

def serve (calls : List Call) : m (List Response) :=
  calls.mapM (g.answer store)

end Stores

section Runs

variable {g : Generator} {σ : Type} {store : Store (StateM σ)} {c : Call} {a : Artifact}
  {errors : Diagnostics} {w w' : σ}

theorem answer_refused (h : g.generate c.stamp c.request = .error errors) :
    (g.answer store c).run w = (.ofErrors errors, w) := by
  rw [answer, respond, h]
  rfl

theorem answer_stored (h : g.generate c.stamp c.request = .ok a) {path : String}
    (hp : (store.put c.stamp a).run w = (.ok path, w')) :
    (g.answer store c).run w = (.stored c.endpoint path, w') := by
  rw [answer, respond, h]
  dsimp only
  rw [StateT.run_bind, hp]
  rfl

theorem answer_notStored (h : g.generate c.stamp c.request = .ok a) {fault : FileFault}
    (hp : (store.put c.stamp a).run w = (.error fault, w')) :
    (g.answer store c).run w = (.notStored, w') := by
  rw [answer, respond, h]
  dsimp only
  rw [StateT.run_bind, hp]
  rfl

theorem serve_cons (calls : List Call) : (g.serve store (c :: calls)).run w =
    (((g.answer store c).run w).1 :: ((g.serve store calls).run ((g.answer store c).run w).2).1,
      ((g.serve store calls).run ((g.answer store c).run w).2).2) := by
  rw [serve, List.mapM_cons]
  rfl

end Runs

section Ledger

variable (g : Generator) (c : Call)

-- What is answered to a call that comes first.
def firstAnswer : Response :=
  ((g.answer .inMemory c).run []).1

-- What a call leaves in a store.
def deposits : List StoredArtifact :=
  match g.generate c.stamp c.request with
  | .error _ => []
  | .ok a => [⟨a.fileName, a⟩]

-- A call with its answer, and what is kept of it.
structure Accounts (answered : Call × Response) (kept : StoredArtifact) : Prop where
  artifact : g.generate answered.1.stamp answered.1.request = .ok kept.artifact
  path : answered.2 = .stored answered.1.endpoint kept.path

variable {g c}

theorem firstAnswer_eq : g.firstAnswer c = .ofResult c.endpoint (g.generate c.stamp c.request) := by
  cases h : g.generate c.stamp c.request
  case error => rw [firstAnswer, answer_refused h]; rfl
  case ok => rw [firstAnswer, answer_stored h rfl]; rfl

theorem firstAnswer_cases :
    ((g.firstAnswer c).status ≠ 200 ∧ g.deposits c = [] ∧
      ∃ errors, g.generate c.stamp c.request = .error errors ∧ g.firstAnswer c = .ofErrors errors) ∨
    ((g.firstAnswer c).status = 200 ∧ ∃ a, g.generate c.stamp c.request = .ok a ∧
      g.firstAnswer c = .stored c.endpoint a.fileName ∧ g.deposits c = [⟨a.fileName, a⟩]) := by
  rw [firstAnswer_eq, deposits]
  cases g.generate c.stamp c.request
  case error errors => exact .inl ⟨Response.ofErrors_status errors, rfl, errors, rfl, rfl⟩
  case ok a => exact .inr ⟨rfl, a, rfl, rfl, rfl⟩

theorem answer_inMemory (kept : List StoredArtifact) :
    (g.answer .inMemory c).run kept = (g.firstAnswer c, kept ++ g.deposits c) := by
  rcases firstAnswer_cases with ⟨_, hd, errors, he, ha⟩ | ⟨_, a, hg, ha, hd⟩
  case inl => rw [answer_refused he, ha, hd, List.append_nil]
  case inr => rw [answer_stored hg rfl, ha, hd]

theorem serve_inMemory (calls : List Call) (kept : List StoredArtifact) :
    (g.serve .inMemory calls).run kept =
      (calls.map g.firstAnswer, kept ++ calls.flatMap g.deposits) := by
  induction calls generalizing kept
  case nil => rw [List.flatMap_nil, List.append_nil]; rfl
  case cons c calls hi =>
    rw [serve_cons, answer_inMemory, hi, List.append_assoc, List.map_cons, List.flatMap_cons]

theorem deposits_account (calls : List Call) :
    List.Forall₂ g.Accounts
      ((calls.zip (calls.map g.firstAnswer)).filter (·.2.status = 200))
      (calls.flatMap g.deposits) := by
  induction calls
  case nil => exact .nil
  case cons c calls hi =>
    rw [List.map_cons, List.zip_cons_cons, List.flatMap_cons]
    rcases firstAnswer_cases with ⟨hs, hd, _⟩ | ⟨hs, a, hg, ha, hd⟩
    case inl => rwa [List.filter_cons_of_neg (by simpa using hs), hd]
    case inr =>
      rw [List.filter_cons_of_pos (by simpa using hs), hd]
      exact .cons ⟨hg, ha⟩ hi

theorem firstAnswer_sameButStamp {c' : Call} (he : c.endpoint = c'.endpoint)
    (hr : c.request = c'.request) :
    (g.firstAnswer c).SameButStamp g.settings.archiveName c.stamp c'.stamp (g.firstAnswer c') := by
  rw [firstAnswer_eq, firstAnswer_eq, he, hr, generate, generate]
  cases g.emit c'.request
  case error => exact .same _
  case ok units =>
    dsimp only
    rcases Artifact.ofUnits_stamps g.settings.archiveName c.stamp c'.stamp units with h | ⟨z, h, h'⟩
    case inl => rw [h]; exact .same _
    case inr =>
      rw [h, h']
      dsimp only [Response.ofResult, Artifact.fileName]
      exact .stamped c'.endpoint

-- A store that fails is told of by the answers that would be successes, and by no other ones.
theorem answer_fails {σ : Type} {store : Store (StateM σ)} (h : store.Fails) (w : σ) :
    ((g.answer store c).run w).1 =
      if (g.firstAnswer c).status = 200 then .notStored else g.firstAnswer c := by
  rcases firstAnswer_cases with ⟨hs, _, errors, he, ha⟩ | ⟨hs, a, hg, _, _⟩
  case inl => rw [if_neg hs, answer_refused he, ha]
  case inr =>
    obtain ⟨fault, hf⟩ := h c.stamp a w
    rw [if_pos hs, answer_notStored hg (Prod.ext hf rfl)]

theorem serve_fails {σ : Type} {store : Store (StateM σ)} (h : store.Fails) (calls : List Call)
    (w : σ) : ((g.serve store calls).run w).1 = (calls.map g.firstAnswer).map fun r =>
      if r.status = 200 then .notStored else r := by
  induction calls generalizing w
  case nil => rfl
  case cons c calls hi => rw [serve_cons, answer_fails h, hi, List.map_cons, List.map_cons]

-- After each step a store in memory holds the artifacts of the successes so far under the paths
-- that were told. Each answer is the one that its call gets when it comes first, and shows its
-- stamp at most in the name of an archive. A store that fails turns successes into internal errors.
theorem serve_accounts (g : Generator) (calls : List Call) :
    (∀ n, List.Forall₂ g.Accounts
      (((calls.zip ((g.serve .inMemory calls).run []).1).take n).filter (·.2.status = 200))
      ((g.serve .inMemory (calls.take n)).run []).2) ∧
    (∀ c kept, ((g.answer .inMemory c).run kept).1.status ≠ 200 →
      ((g.answer .inMemory c).run kept).2 = kept) ∧
    ((g.serve .inMemory calls).run []).1 = calls.map g.firstAnswer ∧
    (∀ c c' : Call, c.endpoint = c'.endpoint → c.request = c'.request →
      (g.firstAnswer c).SameButStamp g.settings.archiveName c.stamp c'.stamp (g.firstAnswer c')) ∧
    ∀ (σ : Type) (store : Store (StateM σ)), store.Fails → ∀ w,
      ((g.serve store calls).run w).1 = ((g.serve .inMemory calls).run []).1.map fun r =>
        if r.status = 200 then .failed 500 [Diagnostic.internalErrorText] else r := by
  refine ⟨?_, ?_, ?_, fun _ _ => firstAnswer_sameButStamp, ?_⟩
  case refine_1 =>
    intro n
    have ht : (calls.zip (calls.map g.firstAnswer)).take n =
        (calls.take n).zip ((calls.take n).map g.firstAnswer) := by
      rw [← List.map_prod_left_eq_zip, ← List.map_take, List.map_prod_left_eq_zip]
    rw [serve_inMemory, serve_inMemory, List.nil_append, ht]
    exact deposits_account (calls.take n)
  case refine_2 =>
    intro c kept hs
    rw [answer_inMemory] at hs ⊢
    rcases firstAnswer_cases with ⟨_, hd, _⟩ | ⟨ha, _⟩
    case inl => rw [hd, List.append_nil]
    case inr => exact absurd ha hs
  case refine_3 => rw [serve_inMemory]
  case refine_4 =>
    intro σ store h w
    rw [serve_inMemory]
    exact serve_fails h calls w

-- A success and a request that is refused, with a store in memory and with a broken one.
theorem serve_accounts_mixed :
    let g : Generator := { settings := {}, settings_ok := by decide }
    let request (text : String) : Request :=
      { input := text.toList.map (·.toNat.toUInt8), kind := .csv, source := "a.csv"
        language := "go", dialect := "sqlite" }
    let calls : List Call :=
      [⟨.csv, ⟨0, "a"⟩, request "x\n1"⟩, ⟨.csv, ⟨0, "b"⟩, request "x,x\n1,2"⟩]
    let store : Store (StateM Unit) := .broken .notDirectory
    (((g.serve .inMemory calls).run []).1.map (·.status)) = [200, 400] ∧
    List.Forall₂ g.Accounts
      (((calls.zip ((g.serve .inMemory calls).run []).1).take 2).filter (·.2.status = 200))
      ((g.serve .inMemory (calls.take 2)).run []).2 ∧
    ((g.serve store calls).run ()).1 = ((g.serve .inMemory calls).run []).1.map fun r =>
      if r.status = 200 then .failed 500 [Diagnostic.internalErrorText] else r := by
  intro g request calls store
  have hs : (((g.serve .inMemory calls).run []).1.map (·.status)) = [200, 400] := by
    decide +kernel
  obtain ⟨hk, _, _, _, hf⟩ := serve_accounts g calls
  have hb : store.Fails := fun _ _ _ => ⟨.notDirectory, rfl⟩
  exact ⟨hs, hk 2, hf Unit store hb ()⟩

end Ledger

end Generator
end TypedRows
