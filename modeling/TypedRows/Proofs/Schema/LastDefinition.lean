import Mathlib.Data.List.Dedup
import Mathlib.Data.List.Perm.Basic
import TypedRows.Schema

namespace TypedRows

namespace Table

-- The tables whose key no later table has.
def lastOfEach : List Table → List Table
  | [] => []
  | t :: ts => if t.key ∈ ts.map key then lastOfEach ts else t :: lastOfEach ts

-- The tables whose key a later table has, each with the first table that replaces it.
def replacements : List Table → List (Table × Table)
  | [] => []
  | t :: ts => (ts.find? (·.key = t.key)).toList.map (t, ·) ++ replacements ts

variable {t : Table} {ts : List Table}

theorem map_key_lastOfEach (ts : List Table) : (lastOfEach ts).map key = (ts.map key).dedup := by
  induction ts
  case nil => rfl
  case cons t ts hi =>
    rw [lastOfEach, List.map_cons]
    split
    case isTrue h => rw [hi, List.dedup_cons_of_mem h]
    case isFalse h => rw [List.map_cons, hi, List.dedup_cons_of_notMem h]

theorem key_mem_lastOfEach {k : String} :
    k ∈ (lastOfEach ts).map key ↔ k ∈ ts.map key := by
  rw [map_key_lastOfEach, List.mem_dedup]

theorem lastOfEach_concat (ts : List Table) (t : Table) :
    lastOfEach (ts ++ [t]) = (lastOfEach ts).filter (·.key ≠ t.key) ++ [t] := by
  induction ts
  case nil => simp [lastOfEach]
  case cons u us hi =>
    rw [List.cons_append, lastOfEach, lastOfEach, hi]
    by_cases hu : u.key ∈ us.map key
    case pos => rw [if_pos hu, if_pos (by simpa using .inl (List.mem_map.mp hu))]
    case neg =>
      rw [if_neg hu]
      by_cases ht : u.key = t.key
      case pos => rw [if_pos (by simp [ht]), List.filter_cons_of_neg (by simpa using ht)]
      case neg =>
        have hn : u.key ∉ (us ++ [t]).map key := by
          rw [List.map_append, List.mem_append, not_or]
          exact ⟨hu, by simpa using ht⟩
        rw [if_neg hn, List.filter_cons_of_pos (by simpa using ht), List.cons_append]

-- The first table of its key that follows is the one that replaces, so only the latest of them is
-- replaced by a table at the end.
theorem replacements_concat (ts : List Table) (t : Table) :
    ((replacements (ts ++ [t])).map (·.2)).Perm
      ((replacements ts).map (·.2) ++ if t.key ∈ ts.map key then [t] else []) := by
  induction ts
  case nil => simp [replacements]
  case cons u us hi =>
    rw [List.cons_append, replacements, replacements, List.find?_append]
    cases hf : us.find? (·.key = u.key)
    case some v =>
      have hv : v ∈ us ∧ v.key = u.key :=
        ⟨List.mem_of_find?_eq_some hf, by simpa using List.find?_some hf⟩
      have hm : t.key ∈ (u :: us).map key ↔ t.key ∈ us.map key := by
        rw [List.map_cons, List.mem_cons, or_iff_right_of_imp]
        intro h
        exact List.mem_map.mpr ⟨v, hv.1, hv.2.trans h.symm⟩
      simp only [hm]
      simpa using hi
    case none =>
      have hn : u.key ∉ us.map key := by
        intro h
        obtain ⟨v, hv, hk⟩ := List.mem_map.mp h
        simpa [hk] using List.find?_eq_none.mp hf v hv
      by_cases ht : t.key = u.key
      case pos =>
        have hr : t.key ∉ us.map key := ht ▸ hn
        rw [if_neg hr, List.append_nil] at hi
        rw [if_pos (by simp [ht])]
        have hp : (t :: (replacements (us ++ [t])).map (·.2)).Perm
            ((replacements us).map (·.2) ++ [t]) :=
          (hi.cons t).trans (List.perm_append_singleton t _).symm
        simpa [ht] using hp
      case neg =>
        have hm : t.key ∈ (u :: us).map key ↔ t.key ∈ us.map key := by simp [ht]
        simp only [hm]
        simpa [ht] using hi

end Table

namespace Schema

variable {s : Schema} {ts : List Table}

theorem isSome_table? (s : Schema) (t : Table) :
    (s.table? t.name).isSome ↔ t.key ∈ s.tables.map Table.key := by
  rw [table?, List.find?_isSome, List.mem_map]
  exact exists_congr fun u => and_congr_right fun _ => decide_eq_true_iff

theorem add_lastOfEach {t : Table} (h : s.tables = Table.lastOfEach ts) :
    (s.add t).tables = Table.lastOfEach (ts ++ [t]) := by
  rw [Table.lastOfEach_concat, ← h]
  rfl

end Schema
end TypedRows
