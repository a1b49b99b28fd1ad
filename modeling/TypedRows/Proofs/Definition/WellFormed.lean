import Mathlib.Data.List.Pairwise
import TypedRows.Proofs.Generation.Reading

namespace TypedRows.Ddl.TableReading

open Diagnostics

def SameName (a b : String) : Prop :=
  sameAsciiCase a b

-- What a definition has to say, and must not say twice:
-- 1. the table and its columns have names that are not blank, and there is a column
-- 2. no two columns have names that agree but for the case of ASCII letters
-- 3. a key is made of columns that are there
structure WellFormed (x : Sql.TableDefinition) : Prop where
  named : isBlankName (nameOf x) = false
  columns_ne_nil : x.columns ≠ []
  columns_named : ∀ c ∈ x.columns, isBlankName c.name.value = false
  columns_distinct : x.columns.Pairwise fun a b => ¬SameName a.name.value b.name.value
  keys_known : ∀ key ∈ keyNames x, ∃ c ∈ x.columns, SameName c.name.value key

variable {x : Sql.TableDefinition} {line : Nat} {t : Table} {c : Column} {cs : List Column}

theorem ofDefinition_column_name (definition : Sql.ColumnDefinition) :
    (ColumnReading.ofDefinition definition).name = definition.name.value :=
  congrArg (·.1) (ColumnReading.origin_ofDefinition definition)

theorem column?_eq_none_iff (t : Table) (name : String) :
    t.column? name = none ↔ ∀ c ∈ t.columns, ¬SameName c.name name := by
  simp [Table.column?, List.find?_eq_none, Column.isNamed, SameName]

theorem addColumns_eq_nil_iff :
    (addColumns t cs).2 = [] ↔ (∀ c ∈ cs, isBlankName c.name = false) ∧
      (cs.Pairwise fun a b => ¬SameName a.name b.name) ∧
      ∀ a ∈ t.columns, ∀ c ∈ cs, ¬SameName a.name c.name := by
  induction cs generalizing t
  case nil => simp [addColumns]
  case cons c cs hi =>
    unfold addColumns
    cases hb : isBlankName c.name
    case true => simp [hb]
    case false =>
      cases hc : (t.column? c.name).isSome
      case true =>
        have hn : ¬∀ a ∈ t.columns, ¬SameName a.name c.name := by
          rw [← column?_eq_none_iff]
          intro h
          simp [h] at hc
        simp only [Bool.false_eq_true, if_false, if_true, reduceCtorEq, false_iff]
        exact fun h => hn fun a ha => h.2.2 a ha c List.mem_cons_self
      case false =>
        have hn : ∀ a ∈ t.columns, ¬SameName a.name c.name :=
          (column?_eq_none_iff t c.name).mp (by simpa using hc)
        simp only [Bool.false_eq_true, if_false, hi, Table.addColumn, List.forall_mem_append,
          List.forall_mem_cons, List.pairwise_cons, hb]
        constructor
        case mp =>
          rintro ⟨hbs, hp, ht, hcs, _⟩
          exact ⟨⟨trivial, hbs⟩, ⟨hcs, hp⟩, fun a ha => ⟨hn a ha, ht a ha⟩⟩
        case mpr =>
          rintro ⟨⟨_, hbs⟩, ⟨hcs, hp⟩, ht⟩
          exact ⟨hbs, hp, fun a ha => (ht a ha).2, hcs, by simp⟩

theorem addColumns_of_eq_nil (h : (addColumns t cs).2 = []) :
    (addColumns t cs).1 = { t with columns := t.columns ++ cs } := by
  induction cs generalizing t
  case nil => simp [addColumns]
  case cons c cs hi =>
    unfold addColumns at h ⊢
    split_ifs at h ⊢
    simpa [Table.addColumn] using hi h

theorem markKeys_eq_nil_iff (t : Table) (names : List String) :
    (markKeys t names).2 = [] ↔ ∀ name ∈ names, ∃ c ∈ t.columns, SameName c.name name := by
  simp [markKeys, column?_eq_none_iff]

-- The table that a definition describes, but for its keys, and the problems with its columns.
def withColumns (x : Sql.TableDefinition) (line : Nat) : Table × Diagnostics :=
  addColumns { name := nameOf x, line := some line } (x.columns.map ColumnReading.ofDefinition)

theorem ofDefinition_eq (x : Sql.TableDefinition) (line : Nat)
    (hn : isBlankName (nameOf x) = false) (hc : x.columns ≠ []) :
    ofDefinition x line =
      match (withColumns x line).2 ++ (markKeys (withColumns x line).1 (keyNames x)).2 with
      | [] => .ok (markKeys (withColumns x line).1 (keyNames x)).1
      | errors => .error errors := by
  have he : x.columns.isEmpty = false := by simpa using hc
  rw [ofDefinition, hn, he]
  rfl

theorem problems_eq_nil_iff (x : Sql.TableDefinition) (line : Nat) :
    (withColumns x line).2 ++ (markKeys (withColumns x line).1 (keyNames x)).2 = [] ↔
      (∀ c ∈ x.columns, isBlankName c.name.value = false) ∧
      (x.columns.Pairwise fun a b => ¬SameName a.name.value b.name.value) ∧
      ∀ key ∈ keyNames x, ∃ c ∈ x.columns, SameName c.name.value key := by
  have hw : (withColumns x line).2 = [] → (withColumns x line).1.columns =
      x.columns.map ColumnReading.ofDefinition := by
    intro h
    rw [withColumns, addColumns_of_eq_nil h]
    rfl
  have hc : (withColumns x line).2 = [] ↔
      (∀ c ∈ x.columns, isBlankName c.name.value = false) ∧
      x.columns.Pairwise fun a b => ¬SameName a.name.value b.name.value := by
    simp [withColumns, addColumns_eq_nil_iff, List.pairwise_map, ofDefinition_column_name]
  rw [List.append_eq_nil_iff, ← and_assoc, ← hc, and_congr_right_iff]
  intro h
  simp [markKeys_eq_nil_iff, hw h, ofDefinition_column_name]

theorem ofDefinition_eq_ok_iff (x : Sql.TableDefinition) (line : Nat) :
    (∃ t, ofDefinition x line = .ok t) ↔ WellFormed x := by
  cases hn : isBlankName (nameOf x)
  case true =>
    have hw : ¬WellFormed x := fun h => by simp [h.named] at hn
    simp [ofDefinition, hn, hw]
  case false =>
    by_cases hc : x.columns = []
    case pos =>
      have hw : ¬WellFormed x := fun h => h.columns_ne_nil hc
      simp [ofDefinition, hn, hc, hw]
    case neg =>
      have hp := problems_eq_nil_iff x line
      rw [ofDefinition_eq x line hn hc]
      constructor
      case mp =>
        intro ⟨t, h⟩
        split at h
        case h_1 he =>
          obtain ⟨hb, hd, hk⟩ := hp.mp he
          exact ⟨hn, hc, hb, hd, hk⟩
        case h_2 => contradiction
      case mpr =>
        intro h
        rw [hp.mpr ⟨h.columns_named, h.columns_distinct, h.keys_known⟩]
        exact ⟨_, rfl⟩

-- All columns are there before those of the keys are marked.
theorem ofDefinition_eq_markKey (h : ofDefinition x line = .ok t) :
    t = (keyNames x).foldl Table.markKey
      { name := nameOf x
        columns := x.columns.map ColumnReading.ofDefinition
        line := some line } := by
  have hw : WellFormed x := (ofDefinition_eq_ok_iff x line).mp ⟨t, h⟩
  have hp := (problems_eq_nil_iff x line).mpr ⟨hw.columns_named, hw.columns_distinct, hw.keys_known⟩
  rw [ofDefinition_eq x line hw.named hw.columns_ne_nil, hp] at h
  rw [← Except.ok.inj h, markKeys, withColumns,
    addColumns_of_eq_nil (List.append_eq_nil_iff.mp hp).1, List.nil_append]

theorem ofDefinition_line (h : ofDefinition x line = .ok t) : t.line = some line := by
  have hk : ∀ (names : List String) (t : Table), (names.foldl Table.markKey t).line = t.line := by
    intro names
    induction names
    case nil => exact fun _ => rfl
    case cons name names hi => exact fun t => hi (t.markKey name)
  rw [ofDefinition_eq_markKey h, hk]

end TypedRows.Ddl.TableReading
