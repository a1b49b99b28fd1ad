import TypedRows.Proofs.Naming.Identifier
import TypedRows.Proofs.Text.Blank

namespace TypedRows.Identifier

open Text

-- Letters, digits and underscores of ASCII without a digit in front. A clean name may be empty.
structure IsClean (cs : List Char) : Prop where
  isWordChar : ∀ c ∈ cs, isWordChar c
  not_digit : ∀ c ∈ cs.head?, c.isDigit = false

-- A clean name that is more than underscores.
structure IsTableName (cs : List Char) : Prop extends IsClean cs where
  exists_alphanum : ∃ c ∈ cs, c.isAlphanum

variable {cs : List Char} {sep : Char}

section Cleaning

theorem not_digit_guardDigit (cs : List Char) :
    ∀ c ∈ (guardDigit cs).head?, c.isDigit = false := by
  unfold guardDigit
  split
  case h_1 => simp
  case h_2 => split_ifs with h <;> simp [h]

theorem guardDigit_of_head (h : ∀ c ∈ cs.head?, c.isDigit = false) : guardDigit cs = cs := by
  cases cs
  case nil => rfl
  case cons c cs => simp [guardDigit, h c rfl]

theorem isClean_sanitizeChars (cs : List Char) : IsClean (sanitizeChars cs) where
  isWordChar _ := isWordChar_of_mem_sanitizeChars
  not_digit := not_digit_guardDigit _

theorem IsClean.sanitizeChars_eq (h : IsClean cs) : sanitizeChars cs = cs := by
  have hb : ∀ c ∈ cs, isBlank c = false := fun c hc => not_isBlank_of_isWordChar (h.isWordChar c hc)
  have hm : cs.map (fun c => if Identifier.isWordChar c then c else '_') = cs :=
    (List.map_congr_left fun c hc => if_pos (h.isWordChar c hc)).trans (List.map_id' cs)
  rw [sanitizeChars, trimChars_of_unblank hb, hm, guardDigit_of_head h.not_digit]

theorem isClean_sanitize (raw : String) : IsClean (sanitize raw).toList := by
  rw [sanitize, String.toList_ofList]
  exact isClean_sanitizeChars _

theorem sanitize_eq_self_iff {name : String} : sanitize name = name ↔ IsClean name.toList := by
  constructor
  case mp => exact fun h => h ▸ isClean_sanitize name
  case mpr => exact fun h => by rw [sanitize, h.sanitizeChars_eq, String.ofList_toList]

end Cleaning

section Files

-- What stands before a separator has no part in the name of a file.
theorem baseName_below (h : isPathSeparator sep) (dir file : List Char) :
    baseName (dir ++ sep :: file) = baseName file := by
  have hs : (sep :: dir.reverse).takeWhile (!isPathSeparator ·) = [] :=
    List.takeWhile_cons_of_neg (by simp [h])
  rw [baseName, List.reverse_append, List.reverse_cons, List.append_assoc, List.singleton_append,
    List.takeWhile_append, hs, List.append_nil, baseName]
  split_ifs with hl
  case pos => rw [(List.takeWhile_prefix _).eq_of_length hl]
  case neg => rfl

-- Directories and extensions are cut off at characters that no clean name holds.
theorem IsClean.baseName_eq (h : IsClean cs) : baseName cs = cs := by
  have hs : ∀ c ∈ cs.reverse, !isPathSeparator c := by
    intro c hc
    have hw := h.isWordChar c (List.mem_reverse.mp hc)
    by_contra hp
    simp only [isPathSeparator, Bool.not_eq_true', Bool.not_eq_false, Bool.or_eq_true,
      decide_eq_true_eq] at hp
    rcases hp with rfl | rfl <;> contradiction
  rw [baseName, List.takeWhile_eq_self_iff.mpr hs, List.reverse_reverse]

theorem IsClean.dropExtension_eq (h : IsClean cs) : dropExtension cs = cs := by
  have hd : cs.reverse.dropWhile (· ≠ '.') = [] := by
    refine List.dropWhile_eq_nil_iff.mpr fun c hc => decide_eq_true ?_
    rintro rfl
    exact absurd (h.isWordChar '.' (List.mem_reverse.mp hc)) (by decide)
  rw [dropExtension, hd]

theorem isTableName_tableNameChars (file : List Char) : IsTableName (tableNameChars file) := by
  have hc := isClean_sanitizeChars (dropExtension (baseName file))
  unfold tableNameChars
  dsimp only
  split_ifs with hu
  case pos =>
    have hw : ∀ c ∈ "table".toList, Identifier.isWordChar c := List.all_eq_true.mp rfl
    exact ⟨⟨hw, fun c h => Option.some.inj h ▸ rfl⟩, 't', List.mem_cons_self, rfl⟩
  case neg =>
    obtain ⟨c, hm, hn⟩ : ∃ c ∈ sanitizeChars (dropExtension (baseName file)), c ≠ '_' := by
      simpa using hu
    have hw := hc.isWordChar c hm
    exact ⟨hc, c, hm, by simpa [Identifier.isWordChar, hn] using hw⟩

theorem IsTableName.tableNameChars_eq (h : IsTableName cs) : tableNameChars cs = cs := by
  obtain ⟨c, hm, ha⟩ := h.exists_alphanum
  have hu : ¬cs.all (· = '_') := by
    intro hu
    have hc : c = '_' := by simpa using List.all_eq_true.mp hu c hm
    exact absurd (hc ▸ ha) (by decide)
  rw [tableNameChars, h.baseName_eq, h.dropExtension_eq, h.sanitizeChars_eq]
  exact if_neg hu

theorem isTableName_tableName (file : String) : IsTableName (tableName file).toList := by
  rw [tableName, String.toList_ofList]
  exact isTableName_tableNameChars _

theorem tableName_eq_self_iff {name : String} :
    tableName name = name ↔ IsTableName name.toList := by
  constructor
  case mp => exact fun h => h ▸ isTableName_tableName name
  case mpr => exact fun h => by rw [tableName, h.tableNameChars_eq, String.ofList_toList]

theorem tableName_below (h : isPathSeparator sep) (dir file : String) :
    tableName (dir ++ String.singleton sep ++ file) = tableName file := by
  simp only [tableName, tableNameChars, String.toList_append, String.toList_singleton,
    List.append_assoc, List.singleton_append, baseName_below h]

end Files

-- Cleaning a name or naming a table a second time changes nothing, and neither does a directory.
theorem cleaned_names_stable :
    (∀ raw, IsClean (sanitize raw).toList ∧ (sanitize raw = raw ↔ IsClean raw.toList) ∧
      sanitize (sanitize raw) = sanitize raw) ∧
    ∀ file, IsTableName (tableName file).toList ∧
      (tableName file = file ↔ IsTableName file.toList) ∧
      tableName (tableName file) = tableName file ∧
      ∀ dir, tableName (dir ++ "/" ++ file) = tableName file ∧
        tableName (dir ++ "\\" ++ file) = tableName file := by
  constructor
  case left =>
    intro raw
    have hc := isClean_sanitize raw
    exact ⟨hc, sanitize_eq_self_iff, sanitize_eq_self_iff.mpr hc⟩
  case right =>
    intro file
    have hn := isTableName_tableName file
    refine ⟨hn, tableName_eq_self_iff, tableName_eq_self_iff.mpr hn, fun dir => ⟨?_, ?_⟩⟩
    case refine_1 => exact tableName_below (by decide : isPathSeparator '/') dir file
    case refine_2 => exact tableName_below (by decide : isPathSeparator '\\') dir file

end TypedRows.Identifier
