import Mathlib.Data.List.Infix
import TypedRows.Proofs.Files.Path

namespace TypedRows

open Text

theorem nodup_eraseDups {α : Type} [BEq α] [LawfulBEq α] (l : List α) : l.eraseDups.Nodup := by
  match l with
  | [] => exact List.nodup_nil
  | a :: as =>
    rw [List.eraseDups_cons]
    refine List.nodup_cons.mpr ⟨?_, nodup_eraseDups _⟩
    rw [List.mem_eraseDups]
    simp
termination_by l.length
decreasing_by exact Nat.lt_succ_of_le (List.length_filter_le _ as)

namespace Path

-- A part of a path as it stands in a directory.
def IsPart (part : String) : Prop :=
  part.toList ≠ [] ∧ part.toList ≠ ['.'] ∧ '/' ∉ part.toList

instance (part : String) : Decidable (IsPart part) :=
  inferInstanceAs (Decidable (_ ∧ _))

variable {names : List String}

theorem splitAtChar_names (hn : names ≠ []) (h : ∀ n ∈ names, IsPart n) :
    splitAtChar '/' ("/".intercalate names).toList = names.map String.toList := by
  rw [String.toList_intercalate]
  refine splitAtChar_intercalate (by simpa using hn) fun p hp => ?_
  obtain ⟨n, hn, rfl⟩ := List.mem_map.mp hp
  exact (h n hn).2.2

theorem partChars_names (hn : names ≠ []) (h : ∀ n ∈ names, IsPart n) :
    partChars ("/".intercalate names).toList = names.map String.toList := by
  rw [partChars, splitAtChar_names hn h]
  refine List.filter_eq_self.mpr fun p hp => ?_
  obtain ⟨n, hn, rfl⟩ := List.mem_map.mp hp
  simp [(h n hn).1, (h n hn).2.1]

-- No slash stands at either end of names between slashes.
theorem slash_names (hn : names ≠ []) (h : ∀ n ∈ names, IsPart n) :
    ("/".intercalate names).toList ≠ [] ∧
      ("/".intercalate names).toList.head? ≠ some '/' ∧
      ("/".intercalate names).toList.getLast? ≠ some '/' := by
  have hs := splitAtChar_names hn h
  have hm : [] ∉ names.map String.toList := fun hm => by
    obtain ⟨n, hn, he⟩ := List.mem_map.mp hm
    exact (h n hn).1 he
  generalize ("/".intercalate names).toList = cs at hs
  refine ⟨?_, fun hh => ?_, fun hl => ?_⟩
  case refine_1 =>
    rintro rfl
    exact hm (hs ▸ List.mem_singleton_self _)
  case refine_2 =>
    obtain ⟨rest, rfl⟩ := List.head?_eq_some_iff.mp hh
    rw [splitAtChar, if_pos rfl] at hs
    exact hm (hs ▸ List.mem_cons_self)
  case refine_3 =>
    obtain ⟨init, rfl⟩ := List.getLast?_eq_some_iff.mp hl
    rw [splitAtChar_append] at hs
    exact hm (hs ▸ List.mem_append_right _ (List.mem_singleton_self _))

theorem getLast?_join {path : String} (directory : String) (hp : path.toList ≠ []) :
    (join directory path).toList.getLast? = path.toList.getLast? := by
  unfold join
  split_ifs
  case pos => rfl
  case pos => rw [String.toList_append, List.getLast?_append_of_ne_nil _ hp]
  case neg => rw [String.toList_append, List.getLast?_append_of_ne_nil _ hp]

end Path

namespace Machine

variable {m : Machine} {path : String} {place below q : Place}

-- No file and no link is a directory too, and their places have the parts of a path.
structure IsTree (m : Machine) : Prop where
  apart : ∀ place ∈ m.taken, m.isDirectory place = false
  named : ∀ place ∈ m.taken, ∀ part ∈ place, part = root ∨ Path.IsPart part

theorem mem_taken_of_isFile (h : m.isFile place) : place ∈ m.taken := by
  obtain ⟨f, hf, he⟩ := List.lookup_isSome_iff.mp h
  exact List.mem_append_left _ (List.mem_map.mpr ⟨f, hf, (beq_iff_eq.mp he).symm⟩)

theorem isProperPrefix_iff {place other : Place} :
    isProperPrefix place other ↔ place <+: other ∧ place ≠ other := by
  rw [isProperPrefix, Bool.and_eq_true, List.isPrefixOf_iff_prefix, decide_eq_true_eq]
  refine and_congr_right fun hp => ?_
  constructor
  case mp => rintro hl rfl; exact Nat.lt_irrefl _ hl
  case mpr => exact fun hn => Nat.lt_of_le_of_ne hp.length_le fun hl => hn (hp.eq_of_length hl)

section Locating

theorem follow_append (place : Place) (parts rest : List String) :
    m.follow place (parts ++ rest) = (m.follow place parts).bind (m.follow · rest) := by
  induction parts generalizing place
  case nil => rfl
  case cons part parts hi =>
    rw [List.cons_append, follow, follow]
    split_ifs
    case pos => rfl
    case pos => rfl
    case neg => exact hi _

theorem IsTree.follow_below (h : m.IsTree) (hq : q ∈ m.taken) {names : List String}
    (hp : place ++ names <+: q) (hn : ∀ n ∈ names, n ≠ Path.parent) :
    m.follow place names = .ok (place ++ names) := by
  induction names generalizing place
  case nil => rw [List.append_nil]; rfl
  case cons name names hi =>
    obtain ⟨hname, hn⟩ := List.forall_mem_cons.mp hn
    have hd : m.isDirectory place := by
      have hne : place ≠ q := by
        rintro rfl
        have hl := hp.length_le
        rw [List.length_append, List.length_cons] at hl
        omega
      have hp : isProperPrefix place q :=
        isProperPrefix_iff.mpr ⟨(List.prefix_append _ _).trans hp, hne⟩
      rw [isDirectory, Bool.or_eq_true]
      exact .inr (List.any_eq_true.mpr ⟨q, hq, hp⟩)
    have hf : m.isFile place = false := Bool.eq_false_iff.mpr fun hf => by
      simp [h.apart place (mem_taken_of_isFile hf)] at hd
    rw [List.append_cons] at hp ⊢
    rw [follow, hf, hd, enter, if_pos hname]
    exact hi hp hn

theorem locate_eq (path : String) : m.locate path =
    if path = "" then .error .notFound
    else (m.follow (startOf path) (Path.parts path)).bind fun place =>
      if endsInSlash path && m.isFile place then .error .notDirectory else .ok place := by
  unfold locate
  split
  case isTrue => rfl
  case isFalse =>
    refine congrArg (Except.bind _) (funext fun place => ?_)
    split <;> rfl

theorem locate_eq_ok_iff : m.locate path = .ok place ↔
    path ≠ "" ∧ m.follow (startOf path) (Path.parts path) = .ok place ∧
      (endsInSlash path && m.isFile place) = false := by
  rw [locate_eq]
  split
  case isTrue hp => simp [hp]
  case isFalse hp =>
    cases hf : m.follow (startOf path) (Path.parts path)
    case error => simp [Except.bind]
    case ok place' =>
      simp only [Except.bind, Except.ok.injEq, ne_eq, hp, not_false_eq_true, true_and]
      constructor
      case mp =>
        intro h
        split at h
        case isTrue => contradiction
        case isFalse hs => cases h; exact ⟨rfl, Bool.eq_false_iff.mpr hs⟩
      case mpr =>
        rintro ⟨rfl, hs⟩
        rw [hs]
        rfl

end Locating

section Walking

theorem isBelow_iff {other : Place} : isBelow place other ↔
    ∃ names, other = place ++ names ∧ names ≠ [] ∧ ∀ n ∈ names, n ≠ Path.parent ∧ n ≠ root := by
  rw [isBelow, Bool.and_eq_true, isProperPrefix_iff]
  constructor
  case mp =>
    rintro ⟨⟨⟨names, rfl⟩, hn⟩, ha⟩
    rw [List.drop_left] at ha
    exact ⟨names, rfl, by rintro rfl; simp at hn, by simpa using ha⟩
  case mpr =>
    rintro ⟨names, rfl, hn, ha⟩
    exact ⟨⟨List.prefix_append _ _, by simpa using hn⟩, by simpa using ha⟩

theorem mem_around : below ∈ around q ↔ below <+: q := by
  simp only [around, List.mem_map, List.mem_range]
  constructor
  case mp => rintro ⟨n, -, rfl⟩; exact List.take_prefix n q
  case mpr =>
    intro h
    exact ⟨below.length, Nat.lt_succ_of_le h.length_le, (List.prefix_iff_eq_take.mp h).symm⟩

theorem mem_placesBelow : below ∈ m.placesBelow place ↔
    isBelow place below ∧ ∃ q ∈ m.taken, below <+: q := by
  simp only [placesBelow, List.mem_mergeSort, List.mem_eraseDups, List.mem_filter, List.mem_flatMap,
    mem_around]
  rw [and_comm]

theorem placesBelow_ascend (m : Machine) (place : Place) :
    (m.placesBelow place).Pairwise (· < ·) := by
  let le (a b : Place) : Bool := !List.lex b a
  have hle : ∀ a b, le a b ↔ ¬b < a := by
    intro a b
    rw [Bool.not_eq_true', ← Bool.not_eq_true, List.lex_eq_true_iff_lt]
  have hs : (m.placesBelow place).Pairwise fun a b => le a b :=
    List.pairwise_mergeSort
      (fun a b c ha hb => (hle a c).mpr (List.le_trans ((hle a b).mp ha) ((hle b c).mp hb)))
      (fun a b => by
        rw [Bool.or_eq_true, hle, hle]
        exact List.le_total a b) _
  have hn : (m.placesBelow place).Nodup :=
    (List.mergeSort_perm _ _).nodup_iff.mpr (nodup_eraseDups _)
  refine (hs.and hn).imp fun ⟨ha, hne⟩ => ?_
  exact (List.le_iff_lt_or_eq.mp ((hle _ _).mp ha)).resolve_right hne

theorem IsTree.exists_names (h : m.IsTree) (hb : below ∈ m.placesBelow place) :
    ∃ names, below = place ++ names ∧ names ≠ [] ∧
      (∀ n ∈ names, Path.IsPart n ∧ n ≠ Path.parent) ∧ ∃ q ∈ m.taken, place ++ names <+: q := by
  obtain ⟨hb, q, hq, hp⟩ := mem_placesBelow.mp hb
  obtain ⟨names, rfl, hne, hn⟩ := isBelow_iff.mp hb
  refine ⟨names, rfl, hne, fun n hm => ⟨?_, (hn n hm).1⟩, q, hq, hp⟩
  exact (h.named q hq n (hp.subset (List.mem_append_right _ hm))).resolve_left (hn n hm).2

theorem parts_pathBelow {names : List String} (hne : names ≠ []) (hn : ∀ n ∈ names, Path.IsPart n)
    (path : String) (place : Place) :
    Path.parts (pathBelow path place (place ++ names)) = Path.parts path ++ names := by
  have ha : Path.isAbsolute ("/".intercalate names) = false :=
    decide_eq_false (Path.slash_names hne hn).2.1
  rw [pathBelow, List.drop_left, Path.parts, Path.partChars_join ha, List.map_append,
    Path.partChars_names hne hn, List.map_map]
  simp [Path.parts, Function.comp_def]

-- A path that a walk tells leads to where the walk was.
theorem IsTree.locate_pathBelow (h : m.IsTree) (hl : m.locate path = .ok place)
    (hb : below ∈ m.placesBelow place) : m.locate (pathBelow path place below) = .ok below := by
  obtain ⟨names, rfl, hne, hn, q, hq, hp⟩ := h.exists_names hb
  obtain ⟨-, hf, -⟩ := locate_eq_ok_iff.mp hl
  obtain ⟨hc, hhead, hlast⟩ := Path.slash_names hne fun n hm => (hn n hm).1
  have ht : (pathBelow path place (place ++ names)).toList.getLast? =
      ("/".intercalate names).toList.getLast? := by
    rw [pathBelow, List.drop_left, Path.getLast?_join path hc]
  have hs : startOf (pathBelow path place (place ++ names)) = startOf path := by
    rw [pathBelow, List.drop_left, startOf, Path.isAbsolute_join (decide_eq_false hhead), startOf]
  refine locate_eq_ok_iff.mpr ⟨fun he => ?_, ?_, ?_⟩
  case refine_1 =>
    rw [he] at ht
    exact hc (List.getLast?_eq_none_iff.mp ht.symm)
  case refine_2 =>
    rw [hs, parts_pathBelow hne fun n hm => (hn n hm).1, follow_append, hf]
    exact h.follow_below hq hp fun n hm => (hn n hm).2
  case refine_3 =>
    rw [endsInSlash, ht, decide_eq_false hlast, Bool.false_and]

theorem IsTree.fileName?_pathBelow (h : m.IsTree) (hb : below ∈ m.placesBelow place)
    (path : String) : Path.fileName? (pathBelow path place below) = below.getLast? := by
  obtain ⟨names, rfl, hne, hn, -⟩ := h.exists_names hb
  obtain ⟨init, last, rfl⟩ := List.eq_nil_or_concat' names |>.resolve_left hne
  have hl := (hn last (List.mem_append_right _ (List.mem_singleton_self _))).2
  rw [Path.fileName?, parts_pathBelow hne fun n hm => (hn n hm).1, ← List.append_assoc,
    ← List.append_assoc, List.getLast?_concat, List.getLast?_concat]
  simp [hl]

theorem IsTree.walk_eq (h : m.IsTree) (hl : m.locate path = .ok place) (hd : m.isDirectory place) :
    m.walk path =
      .ok (⟨path, .directory⟩ :: (m.placesBelow place).map (m.entryBelow path place)) := by
  have hf : m.isFile place = false := Bool.eq_false_iff.mpr fun hf => by
    simp [h.apart place (mem_taken_of_isFile hf)] at hd
  rw [walk, hl]
  simp only [bind, Except.bind, hf, hd, Bool.false_eq_true, if_false, if_true]
  rfl

end Walking

section Writing

variable {content : FileContent}

theorem file?_setFile_of_ne (h : place ≠ q) :
    (m.setFile q content).file? place = m.file? place := by
  have hb : (place == q) = false := beq_eq_false_iff_ne.mpr h
  have hf : (m.files.filter (·.1 ≠ q)).lookup place = m.files.lookup place := by
    induction m.files
    case nil => rfl
    case cons f files hi =>
      obtain ⟨place', content'⟩ := f
      rw [List.filter_cons, List.lookup_cons]
      by_cases hq : place' = q
      case pos =>
        simp only [hq, hb, ne_eq, not_true_eq_false, decide_false, Bool.false_eq_true, if_false, hi]
      case neg =>
        simp only [hq, ne_eq, not_false_eq_true, decide_true, if_true, List.lookup_cons, hi]
  rw [file?, setFile, List.lookup_append, hf, List.lookup_cons, hb, List.lookup_nil,
    Option.or_none, file?]

theorem mem_taken_setFile (h : place ∈ m.taken) : place ∈ (m.setFile q content).taken := by
  rw [taken, List.mem_append] at h ⊢
  refine h.imp_left fun h => ?_
  obtain ⟨f, hf, rfl⟩ := List.mem_map.mp h
  rw [setFile, List.map_append, List.mem_append]
  by_cases hq : f.1 = q
  case pos => exact .inr (by simp [hq])
  case neg => exact .inl (List.mem_map_of_mem (List.mem_filter.mpr ⟨hf, by simpa using hq⟩))

theorem isDirectory_setFile (h : m.isDirectory place) :
    (m.setFile q content).isDirectory place := by
  rw [isDirectory, Bool.or_eq_true] at h ⊢
  refine h.imp_right fun h => ?_
  obtain ⟨q', hq', hp⟩ := List.any_eq_true.mp h
  exact List.any_eq_true.mpr ⟨q', mem_taken_setFile hq', hp⟩

-- What is followed are directories, and no write replaces one.
theorem follow_setFile {parts : List String} (hq : m.isDirectory q = false)
    (h : m.follow place parts = .ok below) :
    (m.setFile q content).follow place parts = .ok below := by
  induction parts generalizing place
  case nil => exact h
  case cons part parts hi =>
    rw [follow] at h ⊢
    split_ifs at h with hf hd
    have hd : m.isDirectory place := by simpa using hd
    have hne : place ≠ q := by
      rintro rfl
      simp [hq] at hd
    have hf' : (m.setFile q content).isFile place = false := by
      rw [isFile, file?_setFile_of_ne hne]
      exact Bool.eq_false_iff.mpr hf
    rw [hf', isDirectory_setFile hd]
    exact hi h

theorem locate_setFile (hq : m.isDirectory q = false) (hne : place ≠ q)
    (h : m.locate path = .ok place) : (m.setFile q content).locate path = .ok place := by
  obtain ⟨hp, hf, hs⟩ := locate_eq_ok_iff.mp h
  refine locate_eq_ok_iff.mpr ⟨hp, follow_setFile hq hf, ?_⟩
  rw [isFile, file?_setFile_of_ne hne]
  exact hs

end Writing

end Machine

end TypedRows
