import Mathlib.Data.List.Nodup
import TypedRows.Emission.Workers
import TypedRows.Proofs.Generation.Resolution
import TypedRows.Proofs.Naming.Conflict

namespace TypedRows

open Diagnostics

-- Every language writes every type but the unknown one.
theorem Language.tokens_ok (l : Language) {k : CanonicalType} (h : k ≠ .unknown) :
    ∃ tokens, l.tokens k = .ok tokens := by
  unfold tokens
  cases k
  case unknown => contradiction
  all_goals exact ⟨_, rfl⟩

namespace TableModel

variable {l : Language} {d : Dialect} {t : Table} {m : TableModel} {f : FieldModel}
variable {errors : Diagnostics}

theorem field_ok (l : Language) (t : Table) {c : Column}
    (h : ∃ k, c.canonical = some k ∧ k ≠ .unknown) : ∃ f, field l t c = .ok f := by
  obtain ⟨k, hc, hk⟩ := h
  obtain ⟨tokens, ht⟩ := l.tokens_ok hk
  unfold field
  rw [hc]
  dsimp only
  rw [ht]
  exact ⟨_, rfl⟩

theorem fieldErrors_resolved (l : Language) (h : t.Resolved) : fieldErrors l t = [] := by
  apply List.filterMap_eq_nil_iff.mpr
  intro c hc
  obtain ⟨f, hf⟩ := field_ok l t (h c hc)
  rw [hf]

theorem field_eq {c : Column} (h : field l t c = .ok f) :
    ∃ k tokens, c.canonical = some k ∧ l.tokens k = .ok tokens ∧ f =
      ⟨l.fieldName c, c.name, tokens.select c.nullable, c.nullable, .ofColumn c k⟩ := by
  unfold field at h
  split at h
  case h_1 => contradiction
  case h_2 k hk =>
    split at h
    case h_1 => contradiction
    case h_2 tokens ht => cases h; exact ⟨k, tokens, hk, ht, rfl⟩

theorem map_fieldModels {β : Type} {g : FieldModel → β} {p : Column → Option β}
    (h : fieldErrors l t = []) (hg : ∀ c f, field l t c = .ok f → p c = some (g f)) :
    (fieldModels l t).map g = t.columns.filterMap p := by
  rw [fieldModels, List.map_filterMap]
  apply List.filterMap_congr
  intro c hc
  have he := List.filterMap_eq_nil_iff.mp h c hc
  cases hf : field l t c
  case error => rw [hf] at he; contradiction
  case ok f => exact (hg c f hf).symm

theorem map_fieldModels_total {β : Type} {g : FieldModel → β} {p : Column → β}
    (h : fieldErrors l t = []) (hg : ∀ c f, field l t c = .ok f → p c = g f) :
    (fieldModels l t).map g = t.columns.map p := by
  rw [map_fieldModels (p := fun c => some (p c)) h fun c f hf => congrArg some (hg c f hf),
    List.filterMap_eq_map']

theorem mem_fieldModels (h : f ∈ fieldModels l t) : ∃ c ∈ t.columns, field l t c = .ok f := by
  obtain ⟨c, hc, hf⟩ := List.mem_filterMap.mp h
  cases hx : field l t c
  case error => rw [hx] at hf; contradiction
  case ok => rw [hx] at hf; cases hf; exact ⟨c, hc, hx⟩

theorem sharedNameError_ofKind (l : Language) (t : Table) (fields : List FieldModel) :
    OfKind .parse (sharedNameError l t fields) := by
  unfold sharedNameError
  split
  case h_1 => exact .nil
  case h_2 => exact .single rfl

theorem ofTable_error (h : ofTable l d t = .error errors) :
    errors ≠ [] ∧ errors = fieldErrors l t ++ sharedNameError l t (fieldModels l t) := by
  unfold ofTable at h
  dsimp only at h
  split at h
  case h_1 => contradiction
  case h_2 hn => cases h; exact ⟨hn, rfl⟩

theorem ofTable_error_ofKind (ht : t.Resolved) (h : ofTable l d t = .error errors) :
    OfKind .parse errors := by
  rw [(ofTable_error h).2, fieldErrors_resolved l ht, List.nil_append]
  exact sharedNameError_ofKind l t _

theorem ofTable_ok (h : ofTable l d t = .ok m) :
    fieldErrors l t = [] ∧ m = ⟨t.name, l.typeName t, l.fileName t, fieldModels l t,
      t.primaryKey.map Column.name, .ofTable d t⟩ := by
  unfold ofTable at h
  dsimp only at h
  split at h
  case h_1 hn => cases h; exact ⟨(List.append_eq_nil_iff.mp hn).1, rfl⟩
  case h_2 => contradiction

theorem ofTable_fileName (h : ofTable l d t = .ok m) : m.fileName = l.fileName t := by
  obtain ⟨_, rfl⟩ := ofTable_ok h
  rfl

end TableModel

namespace Emitter

variable {e : Emitter} {s : Schema} {t : Table} {errors : Diagnostics} {units : List SourceUnit}

theorem unitOf_error (h : e.unitOf t = .error errors) :
    TableModel.ofTable e.language e.dialect t = .error errors := by
  unfold unitOf at h
  cases hm : TableModel.ofTable e.language e.dialect t
  case error => rw [hm] at h; cases h; rfl
  case ok => rw [hm] at h; contradiction

theorem unitOf_ok {u : SourceUnit} (h : e.unitOf t = .ok u) :
    ∃ m, TableModel.ofTable e.language e.dialect t = .ok m ∧ u = Layout.unit e.language m := by
  unfold unitOf at h
  cases hm : TableModel.ofTable e.language e.dialect t
  case error => rw [hm] at h; contradiction
  case ok m => rw [hm] at h; cases h; exact ⟨m, rfl, rfl⟩

theorem unitOf_fileName {u : SourceUnit} (h : e.unitOf t = .ok u) :
    u.fileName = e.language.fileName t := by
  obtain ⟨m, hm, rfl⟩ := unitOf_ok h
  exact TableModel.ofTable_fileName hm

theorem sharedNames_ofKind (e : Emitter) (s : Schema) : OfKind .parse (e.sharedNames s) := by
  apply OfKind.append
  case ha =>
    unfold sharedDeclaration
    split
    case h_1 => exact .nil
    case h_2 => exact .single rfl
  case hb =>
    unfold sharedFileName
    split
    case h_1 => exact .nil
    case h_2 => exact .single rfl

-- Results without errors are units.
theorem results_ok {results : List (Except Diagnostics SourceUnit)}
    (h : ∀ r ∈ results, ∀ errors, r = .error errors → errors = [] → False)
    (hn : (results.flatMap fun r => match r with
      | .error ds => ds
      | .ok _ => []) = []) :
    results = (results.filterMap fun r => match r with
      | .error _ => none
      | .ok u => some u).map .ok := by
  induction results
  case nil => rfl
  case cons r results hi =>
    obtain ⟨hr, hrs⟩ := List.forall_mem_cons.mp h
    obtain ⟨he, hes⟩ := List.append_eq_nil_iff.mp hn
    cases r with
    | error errors => exact (hr errors rfl he).elim
    | ok u => exact congrArg (.ok u :: ·) (hi hrs hes)

-- Emission succeeds with the units of all tables, or tells what is wrong with some of them.
theorem emit_ok (h : e.emit s = .ok units) :
    ∃ us, s.tables.map e.unitOf = us.map .ok ∧ units = us ++ e.indexUnit s ∧
      e.sharedNames s = [] := by
  unfold emit collect at h
  dsimp only at h
  split at h
  case h_2 => contradiction
  case h_1 hn =>
    cases h
    have ⟨hr, hn⟩ := List.append_eq_nil_iff.mp hn
    refine ⟨_, results_ok ?_ hr, rfl, hn⟩
    intro r hr errors he hn
    obtain ⟨t, _, rfl⟩ := List.mem_map.mp hr
    exact (TableModel.ofTable_error (unitOf_error he)).1 hn

theorem emit_error (hs : s.Resolved) (h : e.emit s = .error errors) :
    errors ≠ [] ∧ OfKind .parse errors := by
  unfold emit collect at h
  dsimp only at h
  split at h
  case h_1 => contradiction
  case h_2 hn =>
    cases h
    refine ⟨hn, .append ?_ (sharedNames_ofKind e s)⟩
    intro x hx
    obtain ⟨r, hr, hx⟩ := List.mem_flatMap.mp hx
    obtain ⟨t, ht, rfl⟩ := List.mem_map.mp hr
    cases hu : e.unitOf t
    case error =>
      rw [hu] at hx
      exact TableModel.ofTable_error_ofKind (hs t ht) (unitOf_error hu) x hx
    case ok => simp [hu] at hx

theorem unitOf_fileNames {ts : List Table} {us : List SourceUnit}
    (h : ts.map e.unitOf = us.map .ok) :
    us.map SourceUnit.fileName = ts.map e.language.fileName := by
  induction ts generalizing us
  case nil =>
    have hu : us = [] := List.map_eq_nil_iff.mp h.symm
    rw [hu]
    rfl
  case cons t ts hi =>
    obtain ⟨u, us, rfl, hu, hus⟩ := List.map_eq_cons_iff.mp h.symm
    rw [List.map_cons, List.map_cons, hi hus.symm, unitOf_fileName hu.symm]

theorem emit_fileNames (h : e.emit s = .ok units) :
    units.map SourceUnit.fileName = e.fileNames s := by
  obtain ⟨us, hus, rfl, _⟩ := emit_ok h
  have hx : (e.indexUnit s).map SourceUnit.fileName =
      if e.withIndex then [e.language.indexFileName] else [] := by
    unfold indexUnit
    split <;> rfl
  rw [List.map_append, unitOf_fileNames hus, hx, fileNames]

theorem emit_lowerFileNames_nodup (h : e.emit s = .ok units) :
    ((units.map SourceUnit.fileName).map Text.lower).Nodup := by
  obtain ⟨_, _, _, hn⟩ := emit_ok h
  have hf : e.sharedFileName s = [] := (List.append_eq_nil_iff.mp hn).2
  have hc : Naming.conflict? Text.lower (e.fileNames s) = none := by
    unfold sharedFileName at hf
    split at hf
    case h_1 hc => exact hc
    case h_2 => contradiction
  rw [emit_fileNames h]
  exact Naming.conflict?_eq_none_iff.mp hc

theorem emit_fileNames_nodup (h : e.emit s = .ok units) :
    (units.map SourceUnit.fileName).Nodup :=
  (emit_lowerFileNames_nodup h).of_map Text.lower

theorem emit_declaredNames_nodup (h : e.emit s = .ok units) :
    (s.tables.flatMap e.declaredNames).Nodup := by
  obtain ⟨_, _, _, hn⟩ := emit_ok h
  have hd : e.sharedDeclaration s = [] := (List.append_eq_nil_iff.mp hn).1
  have hc : Naming.conflict? id (s.tables.flatMap e.declaredNames) = none := by
    unfold sharedDeclaration at hd
    split at hd
    case h_1 hc => exact hc
    case h_2 => contradiction
  simpa using Naming.conflict?_eq_none_iff.mp hc

theorem emit_ne_nil (hs : s.isEmpty = false) (h : e.emit s = .ok units) : units ≠ [] := by
  rintro rfl
  have hf : e.fileNames s = [] := (emit_fileNames h).symm
  have ht : s.tables = [] := List.map_eq_nil_iff.mp (List.append_eq_nil_iff.mp hf).1
  simp [Schema.isEmpty, ht] at hs

end Emitter

namespace FinishedWork

-- Places are counted from `first` here, so that the induction can go on at the next one.
theorem at?_mapIdx (results : List (Except Diagnostics SourceUnit)) (first i : Nat) :
    at? (results.mapIdx fun j r => ⟨first + j, r⟩) (first + i) = results[i]? := by
  induction results generalizing first i
  case nil => rfl
  case cons r results hi =>
    rw [List.mapIdx_cons]
    cases i
    case zero => simp [at?]
    case succ i =>
      have hf : first + (i + 1) = first + 1 + i := by omega
      have hm : (results.mapIdx fun j r => FinishedWork.mk (first + (j + 1)) r) =
          results.mapIdx fun j r => ⟨first + 1 + j, r⟩ := by
        congr 1
        funext j r
        rw [Nat.add_right_comm, Nat.add_assoc]
      rw [at?, List.find?_cons_of_neg (by simp), ← at?, hm, hf, hi]
      rfl

theorem inPlace_mapIdx (results : List (Except Diagnostics SourceUnit)) :
    inPlace results.length (results.mapIdx fun i r => ⟨i, r⟩) = results := by
  have ha : at? (results.mapIdx fun i r => ⟨i, r⟩) = fun i => results[i]? := by
    funext i
    simpa using at?_mapIdx results 0 i
  have ht : ∀ n, (List.range n).filterMap (fun i => results[i]?) = results.take n := by
    intro n
    induction n
    case zero => rfl
    case succ n hi => rw [List.range_succ, List.filterMap_append, hi, List.take_add_one]; rfl
  rw [inPlace, ha, ht, List.take_length]

end FinishedWork

-- Each result comes to the place of its table, whichever worker it is from.
theorem Emitter.emitParallel_eq_emit (e : Emitter) (s : Schema) : e.emitParallel s = e.emit s := by
  have hw : (e.startWorkers s).map Task.get =
      (s.tables.map e.unitOf).mapIdx fun i r => ⟨i, r⟩ := by
    apply List.ext_getElem?
    intro i
    cases ht : s.tables[i]? <;> simp [startWorkers, Task.spawn, ht]
  have hl : s.tables.length = (s.tables.map e.unitOf).length := (List.length_map ..).symm
  rw [emitParallel, collectFinished, hw, hl, FinishedWork.inPlace_mapIdx, emit]

end TypedRows
