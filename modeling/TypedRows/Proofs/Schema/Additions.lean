import TypedRows.Proofs.Schema.LastDefinition

namespace TypedRows

namespace Table

-- The table that came last under a key.
def lastOf? (k : String) (ts : List Table) : Option Table :=
  ts.reverse.find? (·.key = k)

variable {t : Table} {ts : List Table} {k : String}

theorem lastOf?_cons : lastOf? k (t :: ts) =
    (lastOf? k ts).or (if t.key = k then some t else none) := by
  rw [lastOf?, List.reverse_cons, List.find?_append, lastOf?, List.find?_singleton]
  simp only [decide_eq_true_eq]

theorem lastOf?_eq_none_iff : lastOf? k ts = none ↔ k ∉ ts.map key := by
  simp [lastOf?]

-- The last table of a key is the only one that stays.
theorem find?_lastOfEach (k : String) (ts : List Table) :
    (lastOfEach ts).find? (·.key = k) = lastOf? k ts := by
  induction ts
  case nil => rfl
  case cons t ts hi =>
    rw [lastOf?_cons, lastOfEach]
    split
    case isTrue ht =>
      rw [hi]
      by_cases hk : t.key = k
      case pos =>
        obtain ⟨u, hu⟩ := Option.ne_none_iff_exists'.mp (lastOf?_eq_none_iff.not_left.mpr (hk ▸ ht))
        rw [hu, Option.some_or]
      case neg => rw [if_neg hk, Option.or_none]
    case isFalse ht =>
      by_cases hk : t.key = k
      case pos =>
        have hn : lastOf? k ts = none := lastOf?_eq_none_iff.mpr (hk ▸ ht)
        rw [List.find?_cons_of_pos (by simpa using hk), hn, if_pos hk, Option.none_or]
      case neg => rw [List.find?_cons_of_neg (by simpa using hk), hi, if_neg hk, Option.or_none]

theorem toList_find? (h : (ts.map key).Nodup) (k : String) :
    (ts.find? (·.key = k)).toList = ts.filter (·.key = k) := by
  induction ts
  case nil => rfl
  case cons t ts hi =>
    obtain ⟨ht, h⟩ := List.nodup_cons.mp h
    by_cases hk : t.key = k
    case pos =>
      have hn : ts.filter (·.key = k) = [] := by
        refine List.filter_eq_nil_iff.mpr fun u hu huk => ht ?_
        exact List.mem_map.mpr ⟨u, hu, (of_decide_eq_true huk).trans hk.symm⟩
      rw [List.find?_cons_of_pos (by simpa using hk), List.filter_cons_of_pos (by simpa using hk),
        hn]
      rfl
    case neg =>
      rw [List.find?_cons_of_neg (by simpa using hk), List.filter_cons_of_neg (by simpa using hk),
        hi h]

end Table

namespace Schema

-- Adds tables in turn, and tells which one each of them takes the place of.
def addAll (s : Schema) : List Table → List (Option Table) × Schema
  | [] => ([], s)
  | t :: ts =>
    let (replaced, s) := s.addReplacing t
    let (rest, s) := s.addAll ts
    (replaced :: rest, s)

variable {s : Schema} {before ts : List Table}

theorem table?_eq_lastOf? (h : s.tables = Table.lastOfEach ts) (name : String) :
    s.table? name = Table.lastOf? (Text.lower name) ts := by
  rw [table?, h, Table.find?_lastOfEach]

-- What an addition gives back and what it leaves are what was there and the new table.
theorem addReplacing_perm (s : Schema) (t : Table) :
    ((s.addReplacing t).1.toList ++ (s.addReplacing t).2.tables).Perm (s.tables ++ [t]) := by
  have hf : (s.table? t.name).toList = s.tables.filter (·.key = t.key) :=
    Table.toList_find? s.keys_nodup t.key
  have hp : (s.tables.filter (·.key = t.key) ++ s.tables.filter (·.key ≠ t.key)).Perm s.tables := by
    simpa using List.filter_append_perm (fun u : Table => u.key = t.key) s.tables
  rw [addReplacing, hf, add, ← List.append_assoc]
  exact hp.append_right [t]

theorem addAll_lastOfEach (h : s.tables = Table.lastOfEach before) (ts : List Table) :
    (s.addAll ts).2.tables = Table.lastOfEach (before ++ ts) ∧
      (s.addAll ts).1 = ts.mapIdx fun i t => Table.lastOf? t.key (before ++ ts.take i) := by
  induction ts generalizing s before
  case nil => simpa [addAll] using h
  case cons t ts hi =>
    obtain ⟨ht, hr⟩ := hi (add_lastOfEach h)
    have hn : s.table? t.name = Table.lastOf? t.key before := table?_eq_lastOf? h t.name
    constructor
    case left => simpa [addAll, addReplacing] using ht
    case right => simpa [addAll, addReplacing, List.mapIdx_cons, hn] using hr

theorem addAll_accounts (ts : List Table) :
    let (replaced, s) := empty.addAll ts
    s.tables = Table.lastOfEach ts ∧
    replaced = ts.mapIdx (fun i t => Table.lastOf? t.key (ts.take i)) ∧
    (∀ t, ((s.addReplacing t).1.toList ++ (s.addReplacing t).2.tables).Perm (s.tables ++ [t])) ∧
    (∀ name, s.table? name = Table.lastOf? (Text.lower name) ts) ∧
    s.tables.length = (ts.map Table.key).dedup.length := by
  have he : empty.tables = Table.lastOfEach [] := rfl
  obtain ⟨ht, hr⟩ := addAll_lastOfEach he ts
  rw [List.nil_append] at ht
  refine ⟨ht, by simpa using hr, addReplacing_perm _, table?_eq_lastOf? ht, ?_⟩
  rw [ht, ← Table.map_key_lastOfEach, List.length_map]

end Schema
end TypedRows
