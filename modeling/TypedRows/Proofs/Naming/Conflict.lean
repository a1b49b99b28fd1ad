import Mathlib.Data.List.Nodup
import TypedRows.Naming.Conflict

namespace TypedRows.Naming

-- `j` is the first place whose key stands at an earlier one, and `i` is that place.
structure FirstRepeat (keys : List String) (i j : Nat) : Prop where
  earlier : i < j
  inside : j < keys.length
  alike : keys[i]? = keys[j]?
  least : ∀ m < j, ∀ k < m, keys[k]? ≠ keys[m]?
  unique : ∀ k < j, keys[k]? = keys[j]? → k = i

namespace FirstRepeat

variable {keys before after : List String} {k : String} {i j i' j' : Nat}

theorem not_nodup (h : FirstRepeat keys i j) : ¬keys.Nodup :=
  fun hn => List.nodup_iff_getElem?_ne_getElem?.mp hn i j h.earlier h.inside h.alike

theorem eq (h : FirstRepeat keys i j) (h' : FirstRepeat keys i' j') : i = i' ∧ j = j' := by
  rcases Nat.lt_trichotomy j j' with hj | rfl | hj
  case inl => exact (h'.least j hj i h.earlier h.alike).elim
  case inr.inl => exact ⟨h'.unique i h.earlier h.alike, rfl⟩
  case inr.inr => exact (h.least j' hj i' h'.earlier h'.alike).elim

-- A key that is met again behind distinct ones.
theorem of_nodup (hb : before.Nodup) (hi : before[i]? = some k) :
    FirstRepeat (before ++ k :: after) i before.length := by
  have hl : i < before.length := (List.getElem?_eq_some_iff.mp hi).1
  have hj : (before ++ k :: after)[before.length]? = some k := by simp
  refine ⟨hl, by simp, ?_, ?_, ?_⟩
  case refine_1 => rw [List.getElem?_append_left hl, hi, hj]
  case refine_2 =>
    intro m hm k hk
    rw [List.getElem?_append_left hm, List.getElem?_append_left (Nat.lt_trans hk hm)]
    exact List.nodup_iff_getElem?_ne_getElem?.mp hb k m hk hm
  case refine_3 =>
    intro m hm he
    rw [List.getElem?_append_left hm, hj, ← hi] at he
    exact (List.getElem?_inj hm hb).mp he

end FirstRepeat

variable {key : String → String} {before names : List String} {a b : String}

-- Each of the names that were passed under its key, the latest one first.
def passed (key : String → String) (before : List String) : List (String × String) :=
  (before.map fun n => (key n, n)).reverse

theorem lookup_passed_eq_none {k : String} :
    (passed key before).lookup k = none ↔ k ∉ before.map key := by
  have hk : ∀ n, k ≠ key n ↔ key n ≠ k := fun _ => ne_comm
  rw [List.lookup_eq_none_iff]
  simp [passed, hk]

theorem lookup_passed_eq_some {k : String} (h : (passed key before).lookup k = some a) :
    a ∈ before ∧ key a = k := by
  obtain ⟨l, r, he, _⟩ := List.lookup_eq_some_iff.mp h
  have hm : (k, a) ∈ passed key before := he ▸ List.mem_append_right l List.mem_cons_self
  obtain ⟨n, hn, hp⟩ := List.mem_map.mp (List.mem_reverse.mp hm)
  obtain ⟨rfl, rfl⟩ := Prod.mk.inj hp
  exact ⟨hn, rfl⟩

-- The answers to a search for a conflict.
inductive Finds (key : String → String) (names : List String) : Option (String × String) → Prop
  | distinct (h : (names.map key).Nodup) : Finds key names none
  | repeated {i j : Nat} {a b : String} (h : FirstRepeat (names.map key) i j)
    (ha : names[i]? = some a) (hb : names[j]? = some b) : Finds key names (some (a, b))

-- One name is either in conflict with a passed one, or it is passed itself.
theorem conflictAfter_finds (hb : (before.map key).Nodup) :
    Finds key (before ++ names) (conflictAfter key (passed key before) names) := by
  induction names generalizing before
  case nil => exact .distinct ((List.append_nil before).symm ▸ hb)
  case cons name names hi =>
    rw [conflictAfter]
    cases h : (passed key before).lookup (key name)
    case none =>
      have hn : key name ∉ before.map key := lookup_passed_eq_none.mp h
      have hb : ((before ++ [name]).map key).Nodup := by
        rw [List.map_append, List.map_singleton, ← List.concat_eq_append]
        exact hb.concat hn
      have hp : passed key (before ++ [name]) = (key name, name) :: passed key before := by
        simp [passed]
      rw [List.append_cons, ← hp]
      exact hi hb
    case some earlier =>
      obtain ⟨hm, hk⟩ := lookup_passed_eq_some h
      obtain ⟨i, he⟩ := List.mem_iff_getElem?.mp hm
      have hl : i < before.length := (List.getElem?_eq_some_iff.mp he).1
      have hf : FirstRepeat ((before ++ name :: names).map key) i before.length := by
        have hi : (before.map key)[i]? = some (key name) := by
          rw [List.getElem?_map, he, Option.map_some, hk]
        simpa using FirstRepeat.of_nodup hb hi
      exact .repeated hf (by rw [List.getElem?_append_left hl, he]) (by simp)

theorem conflict?_finds (key : String → String) (names : List String) :
    Finds key names (conflict? key names) := by
  have hb : (([] : List String).map key).Nodup := List.nodup_nil
  exact conflictAfter_finds hb

theorem conflict?_eq_none_iff : conflict? key names = none ↔ (names.map key).Nodup := by
  have h := conflict?_finds key names
  constructor
  case mp =>
    intro hn
    rw [hn] at h
    cases h
    case distinct h => exact h
  case mpr =>
    intro hn
    cases hc : conflict? key names
    case none => rfl
    case some pair =>
      rw [hc] at h
      cases h
      case repeated h _ _ => exact (h.not_nodup hn).elim

-- A conflict is between the first name whose key was met before and the one that it was met with,
-- both as they are spelled.
theorem conflict?_first_repeat (key : String → String) (names : List String) :
    (conflict? key names = none ↔ (names.map key).Nodup) ∧
    ∀ a b, conflict? key names = some (a, b) ↔
      ∃ i j, FirstRepeat (names.map key) i j ∧ names[i]? = some a ∧ names[j]? = some b := by
  refine ⟨conflict?_eq_none_iff, fun a b => ?_⟩
  have hf := conflict?_finds key names
  constructor
  case mp =>
    intro h
    rw [h] at hf
    cases hf
    case repeated i j h ha hb => exact ⟨i, j, h, ha, hb⟩
  case mpr =>
    rintro ⟨i, j, h, ha, hb⟩
    cases hc : conflict? key names
    case none => exact (h.not_nodup (conflict?_eq_none_iff.mp hc)).elim
    case some pair =>
      rw [hc] at hf
      cases hf
      case repeated h' ha' hb' =>
        obtain ⟨rfl, rfl⟩ := h.eq h'
        rw [← Option.some.inj (ha.symm.trans ha'), ← Option.some.inj (hb.symm.trans hb')]

end TypedRows.Naming
