import TypedRows.Proofs.Text.Lines
import TypedRows.Shell.Machine

namespace TypedRows

open Text

namespace Path

-- A part of a path that names an entry of its directory, on any file system.
structure IsName (part : List Char) : Prop where
  ne_nil : part ≠ []
  ne_current : part ≠ ['.']
  ne_parent : part ≠ ['.', '.']
  no_slash : '/' ∉ part
  no_backslash : '\\' ∉ part

theorem IsName.of_mem {part : List Char} {c : Char} (hc : c ∈ part) (hd : c ≠ '.')
    (hs : '/' ∉ part) (hb : '\\' ∉ part) : IsName part where
  ne_nil := List.ne_nil_of_mem hc
  ne_current := by rintro rfl; simp [hd] at hc
  ne_parent := by rintro rfl; simp [hd] at hc
  no_slash := hs
  no_backslash := hb

theorem partChars_append (a b : List Char) :
    partChars (a ++ '/' :: b) = partChars a ++ partChars b := by
  rw [partChars, splitAtChar_append, List.filter_append]
  rfl

-- A path that does not start at the root of the file system goes on from the directory.
theorem partChars_join {root path : String} (hp : isAbsolute path = false) :
    partChars (join root path).toList = partChars root.toList ++ partChars path.toList := by
  unfold join
  rw [hp, Bool.false_or]
  split
  case isTrue h =>
    have hr : root = "" := by simpa using h
    rw [hr]
    rfl
  case isFalse =>
    split
    case isTrue h =>
      obtain ⟨init, hi⟩ := List.getLast?_eq_some_iff.mp h
      have hn : partChars [] = [] := rfl
      rw [String.toList_append, hi, partChars_append, hn, List.append_assoc, List.singleton_append,
        partChars_append, List.append_nil]
    case isFalse =>
      have hs : (root ++ "/" ++ path).toList = root.toList ++ '/' :: path.toList := by simp
      rw [hs, partChars_append]

theorem isAbsolute_join {root path : String} (hp : isAbsolute path = false) :
    isAbsolute (join root path) = isAbsolute root := by
  unfold join
  rw [hp, Bool.false_or]
  split
  case isTrue h =>
    have hr : root = "" := by simpa using h
    rw [hr, hp]
    rfl
  case isFalse h =>
    have hr : root.toList ≠ [] := by simpa using h
    obtain ⟨c, cs, hc⟩ := List.exists_cons_of_ne_nil hr
    split <;> simp [isAbsolute, hc]

theorem partChars_of_isName {path : List Char} (h : ∀ p ∈ splitAtChar '/' path, IsName p) :
    partChars path = splitAtChar '/' path := by
  apply List.filter_eq_self.mpr
  intro p hp
  simp [(h p hp).ne_nil, (h p hp).ne_current]

theorem isAbsolute_of_isName {path : String} (h : ∀ p ∈ splitAtChar '/' path.toList, IsName p) :
    isAbsolute path = false := by
  apply decide_eq_false
  intro hs
  obtain ⟨rest, hr⟩ := List.head?_eq_some_iff.mp hs
  rw [hr, splitAtChar, if_pos rfl] at h
  exact (h [] List.mem_cons_self).ne_nil rfl

end Path

namespace Machine

-- Where a path leads, seen from the working directory or from the root of the file system.
def placeOf (path : String) : Place :=
  (Path.parts path).foldl enter (startOf path)

theorem foldl_enter {names : List String} (h : Path.parent ∉ names) (place : Place) :
    names.foldl enter place = place ++ names := by
  induction names generalizing place
  case nil => exact (List.append_nil place).symm
  case cons name names hi =>
    rw [List.mem_cons, not_or] at h
    rw [List.foldl_cons, enter, if_pos (Ne.symm h.1), hi h.2, List.append_assoc,
      List.singleton_append]

theorem placeOf_join (root : String) {path : String}
    (h : ∀ p ∈ splitAtChar '/' path.toList, Path.IsName p) :
    placeOf (Path.join root path) =
      placeOf root ++ (splitAtChar '/' path.toList).map String.ofList := by
  have ha : Path.isAbsolute path = false := Path.isAbsolute_of_isName h
  have hn : Path.parent ∉ (splitAtChar '/' path.toList).map String.ofList := by
    intro hm
    obtain ⟨p, hp, he⟩ := List.mem_map.mp hm
    exact (h p hp).ne_parent (by simpa [Path.parent] using congrArg String.toList he)
  rw [placeOf, Path.parts, Path.partChars_join ha, startOf, Path.isAbsolute_join ha, List.map_append,
    List.foldl_append, Path.partChars_of_isName h, foldl_enter hn]
  rfl

theorem write_eq_ok {m m' : Machine} {path : String} {content : FileContent}
    (h : m.write path content = .ok m') :
    m.isDirectory (placeOf path) = false ∧ m' = m.setFile (placeOf path) content := by
  unfold write at h
  dsimp only at h
  split at h
  case isTrue => contradiction
  case isFalse =>
    split at h
    case h_1 => contradiction
    case h_2 =>
      split at h
      case isTrue => contradiction
      case isFalse hd =>
        split at h
        case isTrue => contradiction
        case isFalse =>
          cases h
          exact ⟨(Bool.or_eq_false_iff.mp (Bool.eq_false_iff.mpr hd)).2, rfl⟩

end Machine
end TypedRows
