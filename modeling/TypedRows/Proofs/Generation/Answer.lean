import TypedRows.Proofs.Generation.Emission
import TypedRows.Response

namespace TypedRows

open Diagnostics

theorem Language.ofName_error {name : String} {f : Failure} (h : ofName name = .error f) :
    ∃ m, f = .unsupportedTarget m := by
  unfold ofName at h
  dsimp only at h
  split at h
  case h_1 => cases h
  case h_2 => cases h; exact ⟨_, rfl⟩

theorem Dialect.ofName_error {name : String} {f : Failure} (h : ofName name = .error f) :
    ∃ m, f = .unsupportedTarget m := by
  unfold ofName at h
  dsimp only at h
  split at h
  case h_1 => cases h
  case h_2 => cases h; exact ⟨_, rfl⟩

-- An archive has room for all units whose names differ.
theorem Artifact.ofUnits_ok (archiveName : String) (stamp : Stamp) {units : List SourceUnit}
    (hn : units ≠ []) (hd : (units.map SourceUnit.fileName).Nodup) :
    ∃ a, ofUnits archiveName stamp units = .ok a := by
  unfold ofUnits
  split
  case h_1 => contradiction
  case h_2 u => exact ⟨.file u, rfl⟩
  case h_3 =>
    rw [Archive.ofUnits, dif_pos hd]
    exact ⟨_, rfl⟩

namespace Generator

variable {g : Generator} {r : Request} {errors : Diagnostics}

-- Errors that blame a request.
def Blaming (errors : Diagnostics) : Prop :=
  errors ≠ [] ∧ ∀ x ∈ errors,
    x.kind ∈ [.parse, .typeResolution, .unsupportedTarget, .limitExceeded]

theorem Blaming.single {x : Diagnostic}
    (h : x.kind ∈ [.parse, .typeResolution, .unsupportedTarget, .limitExceeded]) : Blaming [x] :=
  ⟨List.cons_ne_nil x [], by simpa using h⟩

theorem Blaming.of_ne (hn : errors ≠ []) (h : ∀ x ∈ errors, x.kind ≠ .emissionInvariant) :
    Blaming errors := by
  refine ⟨hn, ?_⟩
  intro x hx
  have hk := h x hx
  cases he : x.kind <;> simp_all

theorem accept_error {f : Failure} (h : g.accept r = .error f) :
    (∃ m, f = .limitExceeded m) ∨ ∃ m, f = .unsupportedTarget m := by
  unfold accept checkSize targets at h
  split at h
  case isTrue => cases h; exact .inl ⟨_, rfl⟩
  case isFalse =>
    right
    cases hl : Language.ofName r.language
    case error => rw [hl] at h; cases h; exact Language.ofName_error hl
    case ok l =>
      cases hd : Dialect.ofName r.dialect
      case error => rw [hl, hd] at h; cases h; exact Dialect.ofName_error hd
      case ok => rw [hl, hd] at h; cases h

theorem blaming_ofFailure {f : Failure} (h : g.accept r = .error f) :
    Blaming [.ofFailure f .nowhere] := by
  rcases accept_error h with ⟨m, rfl⟩ | ⟨m, rfl⟩
  case inl => exact .single (by simp [Diagnostic.ofFailure, Diagnostic.error])
  case inr => exact .single (by simp [Diagnostic.ofFailure, Diagnostic.error])

-- What was read of the input, before its types are resolved.
def input (g : Generator) (d : Dialect) (r : Request) : Schema × Diagnostics :=
  Schema.ofBytesWith (g.parse d) r.kind d g.settings.csvOptions r.source r.input

theorem schemaOf_eq (g : Generator) (d : Dialect) (r : Request) :
    g.schemaOf d r = ((d.resolveSchema (g.input d r).1).1,
      (g.input d r).2 ++ (d.resolveSchema (g.input d r).1).2) := rfl

theorem input_wellRead (g : Generator) (d : Dialect) (r : Request) :
    (g.input d r).1.WellRead (g.input d r).2 :=
  Schema.ofBytesWith_wellRead ..

theorem schemaOf_kind {d : Dialect} {x : Diagnostic} (h : x ∈ (g.schemaOf d r).2) :
    x.kind = .parse ∨ x.kind = .typeResolution := by
  rw [schemaOf_eq] at h
  rcases List.mem_append.mp h with h | h
  · exact .inl ((g.input_wellRead d r).ofKind x h)
  · exact .inr (d.resolveSchema_ofKind _ x h)

theorem schemaOf_resolved {d : Dialect} (h : (g.schemaOf d r).2.hasErrors = false) :
    (g.schemaOf d r).1.Resolved ∧ (g.schemaOf d r).1.isEmpty = false := by
  have hw : (g.input d r).1.WellRead (g.input d r).2 := g.input_wellRead d r
  rw [schemaOf_eq] at h ⊢
  have ⟨hf, hu⟩ : (g.input d r).2.hasErrors = false ∧
      (d.resolveSchema (g.input d r).1).2.hasErrors = false := by
    simpa [hasErrors] using h
  refine ⟨d.resolveSchema_resolved hw.neverUnknown hu, ?_⟩
  rw [d.resolveSchema_isEmpty]
  cases he : (g.input d r).1.isEmpty
  case false => rfl
  case true => exact hf ▸ (hw.hasErrors_of_isEmpty he).symm

theorem emitSchema_eq (g : Generator) (l : Language) (d : Dialect) (r : Request) :
    g.emitSchema l d r =
      if (g.schemaOf d r).2.hasErrors then .error (g.schemaOf d r).2.errors
      else (g.emitter l d).emit (g.schemaOf d r).1 := by
  unfold emitSchema
  dsimp only
  rw [Emitter.emitParallel_eq_emit]
  simp only [ite_self]

theorem blaming_emitSchema {l : Language} {d : Dialect} (h : g.emitSchema l d r = .error errors) :
    Blaming errors := by
  rw [emitSchema_eq] at h
  cases he : (g.schemaOf d r).2.hasErrors
  case true =>
    rw [he, if_pos rfl] at h
    cases h
    refine Blaming.of_ne (Diagnostics.errors_ne_nil he) ?_
    intro x hx
    rcases schemaOf_kind (List.mem_filter.mp hx).1 with hk | hk <;> simp [hk]
  case false =>
    rw [he, if_neg (by simp)] at h
    have ⟨hn, hk⟩ := Emitter.emit_error (schemaOf_resolved he).1 h
    exact .of_ne hn fun x hx => by simp [hk x hx]

theorem blaming_emit (h : g.emit r = .error errors) : Blaming errors := by
  unfold emit at h
  split at h
  case h_1 f hf => cases h; exact blaming_ofFailure hf
  case h_2 => exact blaming_emitSchema h

theorem accept_ok {l : Language} {d : Dialect} (h : g.accept r = .ok (l, d)) :
    Language.ofName r.language = .ok l ∧ Dialect.ofName r.dialect = .ok d := by
  unfold accept checkSize targets at h
  split at h
  case isTrue => cases h
  case isFalse =>
    cases hl : Language.ofName r.language
    case error => rw [hl] at h; cases h
    case ok l =>
      cases hd : Dialect.ofName r.dialect
      case error => rw [hl, hd] at h; cases h
      case ok => rw [hl, hd] at h; cases h; exact ⟨rfl, rfl⟩

theorem emit_eq_ok {units : List SourceUnit} (h : g.emit r = .ok units) :
    ∃ l d, g.accept r = .ok (l, d) ∧ (g.schemaOf d r).2.hasErrors = false ∧
      (g.emitter l d).emit (g.schemaOf d r).1 = .ok units := by
  unfold emit at h
  split at h
  case h_1 => cases h
  case h_2 l d hacc =>
    rw [emitSchema_eq] at h
    cases he : (g.schemaOf d r).2.hasErrors
    case true => rw [he, if_pos rfl] at h; cases h
    case false =>
      rw [he, if_neg (by simp)] at h
      exact ⟨l, d, hacc, he, h⟩

theorem emit_ok {units : List SourceUnit} (h : g.emit r = .ok units) :
    units ≠ [] ∧ (units.map SourceUnit.fileName).Nodup := by
  obtain ⟨l, d, _, he, hu⟩ := emit_eq_ok h
  exact ⟨Emitter.emit_ne_nil (schemaOf_resolved he).2 hu, Emitter.emit_fileNames_nodup hu⟩

theorem blaming_generate {stamp : Stamp} (h : g.generate stamp r = .error errors) :
    Blaming errors := by
  unfold generate at h
  split at h
  case h_1 he => cases h; exact blaming_emit he
  case h_2 units hu =>
    have ⟨hn, hd⟩ := emit_ok hu
    obtain ⟨a, ha⟩ := Artifact.ofUnits_ok g.settings.archiveName stamp hn hd
    rw [ha] at h
    cases h

theorem Blaming.status (h : Blaming errors) : errors.status = 400 ∨ errors.status = 413 := by
  have hi : errors.any (·.kind = .emissionInvariant) = false := by
    apply List.any_eq_false.mpr
    intro x hx hk
    have he : x.kind = .emissionInvariant := by simpa using hk
    have hm := h.2 x hx
    simp [he] at hm
  rw [Diagnostics.status, hi]
  cases errors.any (·.kind = .limitExceeded)
  case true => exact .inr rfl
  case false => exact .inl rfl

end Generator

-- What a store says of an artifact, as a response.
def Response.ofStored (endpoint : Endpoint) : Except FileFault String → Response
  | .ok path => .stored endpoint path
  | .error _ => .notStored

theorem Response.ofStored_status (endpoint : Endpoint) (answer : Except FileFault String) :
    (ofStored endpoint answer).status = 500 ↔ ∃ fault, answer = .error fault := by
  cases answer <;> simp [ofStored, status, notStored]

-- A request is answered with what is wrong with it, or with what the store says of its artifact.
-- Only a store that fails is the reason of an internal error.
theorem Generator.respond_status {m : Type → Type} [Monad m] (g : Generator) (store : Store m)
    (endpoint : Endpoint) (stamp : Stamp) (r : Request) :
    (∃ errors, g.generate stamp r = .error errors ∧ errors ≠ [] ∧
      (∀ x ∈ errors, x.kind ∈ [.parse, .typeResolution, .unsupportedTarget, .limitExceeded]) ∧
      (errors.status = 400 ∨ errors.status = 413) ∧
      g.respond store endpoint stamp r = pure (.failed errors.status errors.userMessages)) ∨
    (∃ artifact, g.generate stamp r = .ok artifact ∧
      (g.respond store endpoint stamp r = do
        let answer ← store.put stamp artifact
        return .ofStored endpoint answer) ∧
      ∀ answer, (Response.ofStored endpoint answer).status = 500 ↔
        ∃ fault, answer = .error fault) := by
  unfold respond
  cases hg : g.generate stamp r
  case error errors =>
    have hb : Blaming errors := blaming_generate hg
    exact .inl ⟨errors, rfl, hb.1, hb.2, hb.status, rfl⟩
  case ok artifact =>
    have hr : (fun answer : Except FileFault String => (match answer with
        | .ok path => return .stored endpoint path
        | .error _ => return .notStored : m Response)) =
        fun answer => return .ofStored endpoint answer := by
      funext answer
      cases answer <;> rfl
    exact .inr ⟨artifact, rfl, congrArg (store.put stamp artifact >>= ·) hr,
      Response.ofStored_status endpoint⟩

end TypedRows
