import Mathlib.Data.List.Nodup
import Mathlib.Data.List.Perm.Basic
import Mathlib.Logic.Relation
import TypedRows.Proofs.Generation.Emission

namespace TypedRows

namespace FinishedWork

variable {finished results : List FinishedWork}

-- A result is found by its place wherever it stands, if no other one has that place.
theorem at?_eq_some_iff (hn : (finished.map place).Nodup) {i : Nat}
    {r : Except Diagnostics SourceUnit} : at? finished i = some r ↔ ⟨i, r⟩ ∈ finished := by
  induction finished
  case nil => simp [at?]
  case cons w ws hi =>
    obtain ⟨hw, hws⟩ := List.nodup_cons.mp hn
    by_cases hp : w.place = i
    case pos =>
      have hm : ⟨i, r⟩ ∉ ws := fun hm => hw (List.mem_map.mpr ⟨_, hm, hp.symm⟩)
      have he : w.result = r ↔ ⟨i, r⟩ = w := by
        cases w
        simp_all [eq_comm]
      simp [at?, hp, hm, he]
    case neg =>
      have he : ⟨i, r⟩ ≠ w := fun he => hp (he ▸ rfl)
      rw [at?, List.find?_cons_of_neg (by simpa using hp), ← at?, hi hws]
      simp [he]

theorem inPlace_perm (h : finished.Perm results) (hn : (results.map place).Nodup) (count : Nat) :
    inPlace count finished = inPlace count results := by
  have ha : at? finished = at? results := by
    funext i
    ext r
    rw [at?_eq_some_iff hn, at?_eq_some_iff ((h.map place).nodup_iff.mpr hn), h.mem_iff]
  rw [inPlace, inPlace, ha]

theorem places_nodup (results : List (Except Diagnostics SourceUnit)) :
    ((results.mapIdx FinishedWork.mk).map place).Nodup := by
  have hr : (results.mapIdx FinishedWork.mk).map place = List.range results.length := by
    apply List.ext_getElem
    · simp
    · simp
  rw [hr]
  exact List.nodup_range

end FinishedWork

-- Workers that still run, each with a table and its place, and what the other ones brought, the
-- latest result last.
structure Workers where
  running : List (Nat × Table)
  finished : List FinishedWork := []

namespace Workers

def start (s : Schema) : Workers where
  running := s.tables.mapIdx Prod.mk

def resultOf (e : Emitter) (worker : Nat × Table) : FinishedWork :=
  ⟨worker.1, e.unitOf worker.2⟩

-- Any worker that runs may be the next one to finish.
inductive Step (e : Emitter) : Workers → Workers → Prop
  | finish (before after : List (Nat × Table)) (worker : Nat × Table)
      (finished : List FinishedWork) :
    Step e ⟨before ++ worker :: after, finished⟩ ⟨before ++ after, finished ++ [resultOf e worker]⟩

-- What is there in the end, if the workers at work bring what they are at.
def awaited (e : Emitter) (w : Workers) : List FinishedWork :=
  w.finished ++ w.running.map (resultOf e)

variable {e : Emitter} {s : Schema} {w w' : Workers}

theorem Step.awaited_perm (h : Step e w w') : (w'.awaited e).Perm (w.awaited e) := by
  cases h with
  | finish before after worker finished =>
    have hp : (before ++ worker :: after).Perm (worker :: (before ++ after)) := List.perm_middle
    rw [awaited, List.append_assoc, List.singleton_append, ← List.map_cons]
    exact (hp.map (resultOf e)).symm.append_left finished

theorem awaited_perm (h : Relation.ReflTransGen (Step e) w w') :
    (w'.awaited e).Perm (w.awaited e) := by
  induction h with
  | refl => exact .refl _
  | tail _ hs hi => exact hs.awaited_perm.trans hi

theorem awaited_start (e : Emitter) (s : Schema) :
    (start s).awaited e = (s.tables.map e.unitOf).mapIdx FinishedWork.mk := by
  apply List.ext_getElem?
  intro i
  cases ht : s.tables[i]? <;> simp [awaited, start, resultOf, ht]

-- When no worker runs any more, its results stand in the order in which they came.
theorem collectFinished_eq_emit (h : Relation.ReflTransGen (Step e) (start s) w)
    (hw : w.running = []) : e.collectFinished s w.finished = e.emit s := by
  have hp : w.finished.Perm ((s.tables.map e.unitOf).mapIdx FinishedWork.mk) := by
    have ha := awaited_perm h
    rw [awaited_start, awaited, hw] at ha
    simpa using ha
  have hl : s.tables.length = (s.tables.map e.unitOf).length := (List.length_map ..).symm
  rw [Emitter.collectFinished, FinishedWork.inPlace_perm hp (FinishedWork.places_nodup _), hl,
    FinishedWork.inPlace_mapIdx, Emitter.emit]

end Workers

namespace Emitter

variable {e : Emitter} {s : Schema} {units : List SourceUnit} {problems : Diagnostics}

def problemsIn : Except Diagnostics SourceUnit → Diagnostics
  | .error problems => problems
  | .ok _ => []

theorem collect_eq_error_iff {results : List (Except Diagnostics SourceUnit)} :
    e.collect s results = .error problems ↔
      problems ≠ [] ∧ problems = results.flatMap problemsIn ++ e.sharedNames s := by
  unfold collect
  dsimp only
  split
  case h_1 h =>
    have hn : results.flatMap problemsIn ++ e.sharedNames s = [] := h
    simp [hn]
  case h_2 h =>
    have hn : results.flatMap problemsIn ++ e.sharedNames s ≠ [] := h
    constructor
    case mp =>
      intro he
      cases he
      exact ⟨hn, rfl⟩
    case mpr =>
      rintro ⟨_, rfl⟩
      rfl

theorem collect_ok (hn : e.sharedNames s = []) (us : List SourceUnit) :
    e.collect s (us.map .ok) = .ok (us ++ e.indexUnit s) := by
  have hp : (us.map .ok).flatMap problemsIn = [] := by simp [problemsIn]
  unfold collect
  dsimp only
  split
  case h_1 =>
    rw [List.filterMap_map]
    exact congrArg (fun us => Except.ok (us ++ e.indexUnit s)) List.filterMap_some
  case h_2 h => exact absurd (List.append_eq_nil_iff.mpr ⟨hp, hn⟩) h

-- What is wrong with a table.
def problemsOf (e : Emitter) (t : Table) : Diagnostics :=
  match TableModel.ofTable e.language e.dialect t with
  | .error problems => problems
  | .ok _ => []

theorem emit_eq_error_iff : e.emit s = .error problems ↔
    problems ≠ [] ∧ problems = s.tables.flatMap e.problemsOf ++ e.sharedNames s := by
  have hp : problemsIn ∘ e.unitOf = e.problemsOf := by
    funext t
    rw [problemsOf, Function.comp_apply, unitOf]
    cases TableModel.ofTable e.language e.dialect t <;> rfl
  rw [emit, collect_eq_error_iff, List.flatMap_map]
  exact Iff.of_eq (congrArg (fun f => problems ≠ [] ∧ problems = s.tables.flatMap f ++ _) hp)

theorem unitsOf_models {ts : List Table} {us : List SourceUnit} :
    ts.map e.unitOf = us.map .ok ↔ ∃ models : List TableModel,
      ts.map (TableModel.ofTable e.language e.dialect) = models.map .ok ∧
        us = models.map (Layout.unit e.language) := by
  induction ts generalizing us
  case nil => simp [eq_comm]
  case cons t ts hi =>
    constructor
    case mp =>
      intro h
      obtain ⟨u, us, rfl, hu, hus⟩ := List.map_eq_cons_iff.mp h.symm
      obtain ⟨m, hm, rfl⟩ := unitOf_ok hu.symm
      obtain ⟨models, hms, rfl⟩ := hi.mp hus.symm
      exact ⟨m :: models, by rw [List.map_cons, List.map_cons, hm, hms], rfl⟩
    case mpr =>
      rintro ⟨models, hms, rfl⟩
      obtain ⟨m, models, rfl, hm, hms⟩ := List.map_eq_cons_iff.mp hms.symm
      rw [List.map_cons, List.map_cons, List.map_cons, hi.mpr ⟨models, hms.symm, rfl⟩, unitOf, ← hm]
      rfl

theorem emit_eq_ok_iff : e.emit s = .ok units ↔
    ∃ models : List TableModel,
      s.tables.map (TableModel.ofTable e.language e.dialect) = models.map .ok ∧
      e.sharedNames s = [] ∧ units = models.map (Layout.unit e.language) ++ e.indexUnit s := by
  constructor
  case mp =>
    intro h
    obtain ⟨us, hus, rfl, hn⟩ := emit_ok h
    obtain ⟨models, hm, rfl⟩ := unitsOf_models.mp hus
    exact ⟨models, hm, hn, rfl⟩
  case mpr =>
    rintro ⟨models, hm, hn, rfl⟩
    rw [emit, unitsOf_models.mpr ⟨models, hm, rfl⟩, collect_ok hn]

-- There are units for all tables, or else everything that is wrong: with the tables one after the
-- other, and then with the names of their units. Workers make the same of it, whoever is ready
-- first.
theorem emit_all_or_nothing (e : Emitter) (s : Schema) :
    (∀ units, e.emit s = .ok units ↔ ∃ models : List TableModel,
      s.tables.map (TableModel.ofTable e.language e.dialect) = models.map .ok ∧
        e.sharedNames s = [] ∧ units = models.map (Layout.unit e.language) ++ e.indexUnit s) ∧
    (∀ problems, e.emit s = .error problems ↔
      problems ≠ [] ∧ problems = s.tables.flatMap e.problemsOf ++ e.sharedNames s) ∧
    e.emitParallel s = e.emit s ∧
    ∀ w, Relation.ReflTransGen (Workers.Step e) (.start s) w → w.running = [] →
      e.collectFinished s w.finished = e.emit s :=
  ⟨fun _ => emit_eq_ok_iff, fun _ => emit_eq_error_iff, e.emitParallel_eq_emit s,
    fun _ => Workers.collectFinished_eq_emit⟩

-- The worker of the second table is the first one to finish.
theorem emit_all_or_nothing_overtaken :
    let e : Emitter := ⟨.php, .mysql, true⟩
    let a : Table := { name := "a", columns := [{ name := "x", canonical := some .date }] }
    let b : Table := { name := "b", columns := [{ name := "y", canonical := none }] }
    let s : Schema := { tables := [a, b], keys_nodup := by decide +kernel }
    Relation.ReflTransGen (Workers.Step e) (.start s) ⟨[], [⟨1, e.unitOf b⟩, ⟨0, e.unitOf a⟩]⟩ ∧
    e.collectFinished s [⟨1, e.unitOf b⟩, ⟨0, e.unitOf a⟩] = e.emit s := by
  intro e a b s
  have hb : Workers.Step e ⟨[(0, a), (1, b)], []⟩ ⟨[(0, a)], [⟨1, e.unitOf b⟩]⟩ :=
    .finish [(0, a)] [] (1, b) []
  have ha : Workers.Step e ⟨[(0, a)], [⟨1, e.unitOf b⟩]⟩ ⟨[], [⟨1, e.unitOf b⟩, ⟨0, e.unitOf a⟩]⟩ :=
    .finish [] [] (0, a) [⟨1, e.unitOf b⟩]
  have hr := Relation.ReflTransGen.tail (.single hb) ha
  exact ⟨hr, (emit_all_or_nothing e s).2.2.2 _ hr rfl⟩

end Emitter
end TypedRows
