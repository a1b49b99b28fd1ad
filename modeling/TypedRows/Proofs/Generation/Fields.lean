import Mathlib.Data.List.Forall2
import TypedRows.Proofs.Generation.Emission

namespace TypedRows

open List (Forall₂)

def Column.isTyped (c : Column) : Bool :=
  c.canonical.any (· ≠ .unknown)

-- What a language shows of a column.
structure FieldModel.Shows (l : Language) (c : Column) (f : FieldModel) : Prop where
  name : f.name = l.fieldName c
  column : f.column = c.name
  nullable : f.nullable = c.nullable
  typed : ∃ k tokens, c.canonical = some k ∧ l.tokens k = .ok tokens ∧
    f.typeToken = (if c.nullable then tokens.nullable else tokens.plain) ∧
    f.annotation = .ofColumn c k

namespace Diagnostic

-- An error that says that a column has no type.
structure BlamesColumn (t : Table) (c : Column) (e : Diagnostic) : Prop where
  severity : e.severity = .error
  kind : e.kind = .emissionInvariant
  location : e.location = { table := some t.name, column := some c.name, line := t.line }

-- An error that says that fields share a name.
structure BlamesNames (t : Table) (e : Diagnostic) : Prop where
  severity : e.severity = .error
  kind : e.kind = .parse
  location : e.location = { table := some t.name, line := t.line }

end Diagnostic

namespace TableModel

open Diagnostic (BlamesColumn BlamesNames)
open FieldModel (Shows)

variable {l : Language} {d : Dialect} {t : Table} {m : TableModel} {c : Column}
variable {fields : List FieldModel} {errors : Diagnostics}

section Partition

-- A function that is defined on a part of a list keeps its order.
theorem forall₂_filterMap {α β : Type} {p : α → Bool} {g : α → Option β} {r : α → β → Prop}
    {as : List α} (hs : ∀ a ∈ as, p a → ∃ b, g a = some b ∧ r a b)
    (hn : ∀ a ∈ as, p a = false → g a = none) : Forall₂ r (as.filter p) (as.filterMap g) := by
  induction as
  case nil => exact .nil
  case cons a as hi =>
    have ⟨hs, hss⟩ := List.forall_mem_cons.mp hs
    have ⟨hn, hns⟩ := List.forall_mem_cons.mp hn
    cases hp : p a
    case false => simpa [hp, hn hp] using hi hss hns
    case true =>
      have ⟨b, hg, hr⟩ := hs hp
      simpa [hp, hg] using ⟨hr, hi hss hns⟩

theorem field_typed (h : c.isTyped) : ∃ f, field l t c = .ok f ∧ Shows l c f := by
  have hk : ∃ k, c.canonical = some k ∧ k ≠ .unknown := by
    simpa [Column.isTyped, Option.any_eq_true] using h
  have ⟨f, hf⟩ := field_ok l t hk
  have ⟨k, tokens, hc, ht, he⟩ := field_eq hf
  subst he
  exact ⟨_, hf, rfl, rfl, rfl, k, tokens, hc, ht, rfl, rfl⟩

theorem field_untyped (h : c.isTyped = false) :
    ∃ e, field l t c = .error e ∧ BlamesColumn t c e := by
  cases hk : c.canonical
  case none => exact ⟨_, by simp [field, hk]; rfl, rfl, rfl, rfl⟩
  case some k =>
    have hu : k = .unknown := by simpa [Column.isTyped, hk] using h
    subst hu
    exact ⟨_, by simp [field, hk, Language.tokens, CanonicalType.kind?]; rfl, rfl, rfl, rfl⟩

theorem forall₂_fieldModels (l : Language) (t : Table) :
    Forall₂ (Shows l) (t.columns.filter (·.isTyped)) (fieldModels l t) := by
  refine forall₂_filterMap (fun c _ h => ?_) fun c _ h => ?_
  case refine_1 =>
    have ⟨f, hf, hs⟩ := field_typed (l := l) (t := t) (c := c) h
    exact ⟨f, by simp [hf], hs⟩
  case refine_2 =>
    have ⟨e, he, _⟩ := field_untyped (l := l) (t := t) (c := c) (by simpa using h)
    simp [he]

theorem forall₂_fieldErrors (l : Language) (t : Table) :
    Forall₂ (BlamesColumn t) (t.columns.filter (!·.isTyped)) (fieldErrors l t) := by
  refine forall₂_filterMap (fun c _ h => ?_) fun c _ h => ?_
  case refine_1 =>
    have ⟨e, he, hb⟩ := field_untyped (l := l) (t := t) (c := c) (by simpa using h)
    exact ⟨e, by simp [he], hb⟩
  case refine_2 =>
    have ⟨f, hf, _⟩ := field_typed (l := l) (t := t) (c := c) (by simpa using h)
    simp [hf]

end Partition

section Names

theorem map_name_of_forall₂ {cs : List Column} (h : Forall₂ (Shows l) cs fields) :
    fields.map (·.name) = cs.map l.fieldName := by
  induction h
  case nil => rfl
  case cons hs _ hi => simp [hs.name, hi]

theorem map_column_of_forall₂ {cs : List Column} (h : Forall₂ (Shows l) cs fields) :
    (fields.filter fun f => f.annotation.primaryKey).map (·.column) =
      (cs.filter (·.primaryKey)).map (·.name) := by
  induction h
  case nil => rfl
  case cons c f _ _ hs _ hi =>
    have ⟨k, _, _, _, _, ha⟩ := hs.typed
    have hp : f.annotation.primaryKey = c.primaryKey := ha ▸ rfl
    cases hc : c.primaryKey <;> simp [hp, hc, hs.column, hi]

theorem sharedNameError_blames (l : Language) (t : Table) (fields : List FieldModel) :
    (sharedNameError l t fields).length ≤ 1 ∧
      (∀ e ∈ sharedNameError l t fields, BlamesNames t e) ∧
      (sharedNameError l t fields = [] ↔ (fields.map (·.name)).Nodup) := by
  have hn : Naming.conflict? id (fields.map (·.name)) = none ↔ (fields.map (·.name)).Nodup := by
    rw [Naming.conflict?_eq_none_iff, List.map_id]
  unfold sharedNameError
  split
  case h_1 hc => simp [← hn, hc]
  case h_2 hc =>
    refine ⟨by simp, fun e he => ?_, by simp [← hn, hc]⟩
    rw [List.mem_singleton.mp he]
    exact ⟨rfl, rfl, rfl⟩

end Names

theorem ofTable_isOk_iff : (∃ m, ofTable l d t = .ok m) ↔
    fieldErrors l t = [] ∧ sharedNameError l t (fieldModels l t) = [] := by
  rw [← List.append_eq_nil_iff]
  constructor
  case mp =>
    intro ⟨m, h⟩
    by_contra hn
    unfold ofTable at h
    dsimp only at h
    split at h <;> simp_all
  case mpr =>
    intro hn
    cases hm : ofTable l d t
    case ok m => exact ⟨m, rfl⟩
    case error errors =>
      have ⟨he, ha⟩ := ofTable_error hm
      exact absurd (ha.trans hn) he

-- One field for each column, or one error for each column that has no type and one for shared names.
-- A column without a type is left out before the names of the fields are compared.
theorem ofTable_fields (l : Language) (d : Dialect) (t : Table) :
    ((∃ m, ofTable l d t = .ok m) ↔
      (∀ c ∈ t.columns, c.isTyped) ∧ (t.columns.map l.fieldName).Nodup) ∧
    (∀ m, ofTable l d t = .ok m → Forall₂ (Shows l) t.columns m.fields ∧
      m.primaryKey = (m.fields.filter fun f => f.annotation.primaryKey).map (·.column)) ∧
    (∀ errors, ofTable l d t = .error errors → ∃ untyped shared, errors = untyped ++ shared ∧
      Forall₂ (BlamesColumn t) (t.columns.filter (!·.isTyped)) untyped ∧
      shared.length ≤ 1 ∧ (∀ e ∈ shared, BlamesNames t e) ∧
      (shared ≠ [] ↔ ¬((t.columns.filter (·.isTyped)).map l.fieldName).Nodup)) := by
  have hf := forall₂_fieldModels l t
  have he := forall₂_fieldErrors l t
  have ⟨h1, hb, hn⟩ := sharedNameError_blames l t (fieldModels l t)
  rw [map_name_of_forall₂ hf] at hn
  have ht : fieldErrors l t = [] ↔ ∀ c ∈ t.columns, c.isTyped := by
    rw [← List.length_eq_zero_iff, ← he.length_eq, List.length_eq_zero_iff, List.filter_eq_nil_iff]
    simp
  refine ⟨?_, fun m h => ?_, fun errors h => ?_⟩
  case refine_1 =>
    rw [ofTable_isOk_iff, ht, hn]
    refine and_congr_right fun hc => ?_
    rw [List.filter_eq_self.mpr hc]
  case refine_2 =>
    have ⟨hn, hm⟩ := ofTable_ok h
    rw [List.filter_eq_self.mpr (ht.mp hn)] at hf
    subst hm
    exact ⟨hf, (map_column_of_forall₂ hf).symm⟩
  case refine_3 => exact ⟨_, _, (ofTable_error h).2, he, h1, hb, not_congr hn⟩

end TableModel
end TypedRows
