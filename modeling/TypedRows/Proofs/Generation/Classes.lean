import TypedRows.Proofs.Generation.Names
import TypedRows.Proofs.Naming.Letters

namespace TypedRows

open Code Identifier Text

namespace Language

def guardedKey : List Char → List Char
  | [] => []
  | c :: cs => if c.isDigit then 'n' :: c :: cs else c :: cs

-- What names of classes and of files are made of, up to case.
-- A table without letters gets a fallback of its own for each of the two.
def nameKey (fallback : List Char) (name : String) : List Char :=
  guardedKey (if letters name.toList = [] then fallback else letters name.toList)

variable {a b : String} {cs fallback : List Char} {t u : Table}

theorem asciiLower_guardDigit (h : ∀ c ∈ a.toList, isWordChar c) :
    asciiLower (Casing.pascal.guardDigit a) = guardedKey (asciiLower a) := by
  unfold Casing.guardDigit asciiLower
  cases ha : a.toList
  case nil => simp [ha, guardedKey]
  case cons c cs =>
    have hd : ∀ n < 128, (Char.ofNat n).toLower.isDigit = (Char.ofNat n).isDigit := by decide
    have hc : c.toLower.isDigit = c.isDigit :=
      forall_ascii (P := fun c => c.toLower.isDigit = c.isDigit) hd
        (toNat_lt_of_isWordChar (h c (ha ▸ List.mem_cons_self)))
    simp only [List.map_cons, guardedKey, hc]
    cases c.isDigit <;> simp [ha]

theorem asciiLower_guarded (hw : ∀ c ∈ a.toList, isWordChar c) (raw : String) :
    asciiLower (Casing.pascal.guardDigit (if Casing.pascal.apply (sanitize raw) = "" then a
      else Casing.pascal.apply (sanitize raw))) = nameKey (asciiLower a) raw := by
  have hl : asciiLower (Casing.pascal.apply (sanitize raw)) = letters raw.toList :=
    Casing.map_toLower_apply (.inl rfl) raw
  have hn : Casing.pascal.apply (sanitize raw) = "" ↔ letters raw.toList = [] := by
    rw [← hl, asciiLower, List.map_eq_nil_iff, String.toList_eq_nil_iff]
  rw [nameKey]
  split_ifs with he hr hr
  case pos => exact asciiLower_guardDigit hw
  case neg => exact (hr (hn.mp he)).elim
  case pos => exact (he (hn.mpr hr)).elim
  case neg =>
    rw [← hl]
    exact asciiLower_guardDigit (Casing.apply_isWordChar (by decide) (sanitize_isWordChar raw))

theorem asciiLower_fileStem (t : Table) :
    asciiLower (php.fileStem t) = nameKey "table".toList t.name := by
  have hw : ∀ c ∈ "table".toList, isWordChar c := List.all_eq_true.mp rfl
  have hn : php ≠ python := by decide
  simp only [fileStem, fileCasing, if_neg hn]
  exact asciiLower_guarded hw t.name

theorem underscore_not_mem_guardedKey (h : '_' ∉ cs) : '_' ∉ guardedKey cs := by
  unfold guardedKey
  split
  case h_1 => exact h
  case h_2 => split_ifs <;> simp_all

theorem underscore_not_mem_letters (cs : List Char) : '_' ∉ letters cs := by
  have hd : ∀ n < 128, (Char.ofNat n).isAlphanum → (Char.ofNat n).toLower ≠ '_' := by decide
  intro h
  obtain ⟨c, hc, hl⟩ := List.mem_map.mp h
  have ha : c.isAlphanum := (List.mem_filter.mp hc).2
  have hw : isWordChar c := by simp [isWordChar, ha]
  exact forall_ascii (P := fun c => c.isAlphanum → c.toLower ≠ '_') hd
    (toNat_lt_of_isWordChar hw) ha hl

theorem underscore_not_mem_nameKey (h : '_' ∉ fallback) (name : String) :
    '_' ∉ nameKey fallback name := by
  apply underscore_not_mem_guardedKey
  split_ifs
  case pos => exact h
  case neg => exact underscore_not_mem_letters _

theorem asciiLower_escapeKeyword (a : String) :
    asciiLower (php.escapeKeyword a) =
      asciiLower a ++ if php.isKeyword a then ['_'] else [] := by
  unfold escapeKeyword
  split_ifs <;> simp_all [asciiLower]

-- Escaped words keep apart, for no other name ends with an underscore.
theorem asciiLower_escapeKeyword_inj (ha : '_' ∉ asciiLower a) (hb : '_' ∉ asciiLower b) :
    asciiLower (php.escapeKeyword a) = asciiLower (php.escapeKeyword b) ↔
      asciiLower a = asciiLower b := by
  rw [asciiLower_escapeKeyword, asciiLower_escapeKeyword]
  constructor
  case mp =>
    intro h
    split_ifs at h
    case pos => exact List.append_cancel_right h
    case neg =>
      rw [List.append_nil] at h
      exact (hb (h ▸ by simp)).elim
    case pos =>
      rw [List.append_nil] at h
      exact (ha (h.symm ▸ by simp)).elim
    case neg => simpa using h
  case mpr =>
    intro h
    have hk : php.isKeyword a = php.isKeyword b := by simp only [isKeyword, h]
    rw [h, hk]

theorem asciiLower_typeName_inj :
    asciiLower (php.typeName t) = asciiLower (php.typeName u) ↔
      nameKey "field".toList t.name = nameKey "field".toList u.name := by
  have hf : asciiLower (Casing.pascal.apply "field") = "field".toList := by decide +kernel
  have hw : ∀ c ∈ (Casing.pascal.apply "field").toList, isWordChar c :=
    List.all_eq_true.mp (by decide +kernel)
  have hk := hf ▸ asciiLower_guarded hw
  have hu : '_' ∉ "field".toList := by decide
  have hn : ∀ name, '_' ∉ asciiLower (Casing.pascal.guardDigit
      (if Casing.pascal.apply (sanitize name) = "" then Casing.pascal.apply "field"
        else Casing.pascal.apply (sanitize name))) :=
    fun name => hk name ▸ underscore_not_mem_nameKey hu name
  have ht : php.typeCasing = .pascal := rfl
  unfold typeName
  rw [ht]
  unfold identifier
  rw [asciiLower_escapeKeyword_inj (hn t.name) (hn u.name), hk, hk]

theorem lower_fileName (t : Table) :
    lower (php.fileName t) = String.ofList (nameKey "table".toList t.name ++ ".php".toList) := by
  obtain ⟨name, _, hw, he⟩ := php.fileStem_eq t
  have hs : ∀ c ∈ (php.fileStem t).toList, isWordChar c := by
    rw [he, if_neg (by decide)]
    exact (hw (by decide)).isWordChar
  have hx : (".php".toList).map Char.toLower = ".php".toList := by decide
  have he : (".php".toList).all fun c => c.toNat < 128 := rfl
  have ha : ∀ c ∈ (php.fileName t).toList, c.toNat < 128 := by
    rw [fileName, String.append_assoc, String.toList_append]
    exact List.forall_mem_append.mpr ⟨fun c hc => toNat_lt_of_isWordChar (hs c hc),
      fun c hc => of_decide_eq_true (List.all_eq_true.mp he c hc)⟩
  rw [lower, lowerChars_ascii ha, fileName, String.append_assoc, String.toList_append,
    List.map_append, ← asciiLower_fileStem]
  exact congrArg (fun cs => String.ofList (asciiLower (php.fileStem t) ++ cs)) hx

theorem guardedKey_eq_field (h : guardedKey cs = "field".toList) : cs = "field".toList := by
  unfold guardedKey at h
  split at h
  case h_1 => exact h
  case h_2 =>
    split_ifs at h
    case pos => simp at h
    case neg => exact h

end Language

namespace Emitter

variable {e : Emitter} {s : Schema} {units : List SourceUnit}

-- Files and classes have the same letters, so that classes share a name only if a table without
-- letters falls back on that of another one.
theorem emit_classNames_nodup_iff (hl : e.language = .php) (h : e.emit s = .ok units) :
    (s.tables.map fun t => Language.asciiLower (Language.php.typeName t)).Nodup ↔
      ¬((∃ t ∈ s.tables, letters t.name.toList = []) ∧
        ∃ t ∈ s.tables, letters t.name.toList = "field".toList) := by
  have hd : s.tables.Nodup := s.keys_nodup.of_map _
  have hf : ∀ t ∈ s.tables, ∀ u ∈ s.tables,
      Language.nameKey "table".toList t.name = Language.nameKey "table".toList u.name → t = u := by
    have hn : ((s.tables.map Language.php.fileName).map lower).Nodup := by
      have hn := emit_lowerFileNames_nodup h
      rw [emit_fileNames h, fileNames, hl, List.map_append] at hn
      exact hn.of_append_left
    rw [List.map_map, List.nodup_map_iff_inj_on hd] at hn
    intro t ht u hu he
    exact hn t ht u hu (by simp only [Function.comp_apply, Language.lower_fileName, he])
  rw [List.nodup_map_iff_inj_on hd]
  simp only [Language.asciiLower_typeName_inj]
  constructor
  case mp =>
    rintro hn ⟨⟨t, ht, hlt⟩, u, hu, hlu⟩
    have he : t = u := by
      apply hn t ht u hu
      simp [Language.nameKey, hlt, hlu]
    rw [he, hlu] at hlt
    contradiction
  case mpr =>
    intro hn t ht u hu he
    have hm : ∀ {v w : Table}, v ∈ s.tables → w ∈ s.tables → letters v.name.toList = [] →
        letters w.name.toList ≠ [] →
        Language.nameKey "field".toList v.name ≠ Language.nameKey "field".toList w.name := by
      intro v w hv hw hlv hlw he
      simp only [Language.nameKey, hlv, hlw, if_true, if_false] at he
      exact hn ⟨⟨v, hv, hlv⟩, w, hw, Language.guardedKey_eq_field he.symm⟩
    by_cases hlt : letters t.name.toList = [] <;> by_cases hlu : letters u.name.toList = []
    case pos => exact hf t ht u hu (by simp only [Language.nameKey, hlt, hlu])
    case neg => exact (hm ht hu hlt hlu he).elim
    case pos => exact (hm hu ht hlu hlt he.symm).elim
    case neg =>
      apply hf t ht u hu
      simp only [Language.nameKey, hlt, hlu, if_false] at he ⊢
      exact he

theorem flatMap_typeNames (h : e.emit s = .ok units)
    (hk : ∀ t ∈ s.tables, e.language.KeepsComments t.name) :
    units.flatMap (SourceUnit.typeNames e.language) = s.tables.map e.language.typeName := by
  obtain ⟨us, hus, rfl, _⟩ := emit_ok h
  have hx : (e.indexUnit s).flatMap (SourceUnit.typeNames e.language) = [] := by
    have hd := Layout.index_declarations s e.language
    unfold indexUnit
    split_ifs <;> simp [SourceUnit.typeNames, hd]
  have hu : ∀ {ts : List Table} {us : List SourceUnit}, ts.map e.unitOf = us.map .ok →
      (∀ t ∈ ts, e.language.KeepsComments t.name) →
      us.flatMap (SourceUnit.typeNames e.language) = ts.map e.language.typeName := by
    intro ts
    induction ts
    case nil =>
      intro us hus _
      rw [List.map_eq_nil_iff.mp hus.symm]
      rfl
    case cons t ts hi =>
      intro us hus hk
      obtain ⟨u, us, rfl, hu, hus⟩ := List.map_eq_cons_iff.mp hus.symm
      obtain ⟨ht, hts⟩ := List.forall_mem_cons.mp hk
      rw [List.flatMap_cons, unitOf_typeNames hu.symm ht, hi hus.symm hts]
      rfl
  rw [List.flatMap_append, hx, List.append_nil, hu hus hk]

-- The second part tells where the names stand, and the last one that they are all, as far as the
-- comments in front of them are kept.
theorem emit_classes_distinct_iff (hl : e.language = .php) (h : e.emit s = .ok units) :
    ((s.tables.map fun t => Language.asciiLower (Language.php.typeName t)).Nodup ↔
      ¬((∃ t ∈ s.tables, letters t.name.toList = []) ∧
        ∃ t ∈ s.tables, letters t.name.toList = "field".toList)) ∧
    (∀ t ∈ s.tables, ∃ m, e.unitOf t = .ok (Layout.unit .php m) ∧
      "final class " ++ Language.php.typeName t ∈ Layout.unitLines .php m) ∧
    ((∀ t ∈ s.tables, Language.php.KeepsComments t.name) →
      units.flatMap (SourceUnit.typeNames .php) = s.tables.map Language.php.typeName) := by
  refine ⟨emit_classNames_nodup_iff hl h, ?_, ?_⟩
  case refine_1 =>
    intro t ht
    obtain ⟨us, hus, _⟩ := emit_ok h
    obtain ⟨u, _, hu⟩ := List.mem_map.mp (hus ▸ List.mem_map_of_mem ht)
    obtain ⟨m, hm, rfl⟩ := unitOf_ok hu.symm
    rw [hl] at hm hu
    obtain ⟨_, rfl⟩ := TableModel.ofTable_ok hm
    exact ⟨_, hu.symm, by simp [Layout.unitLines, Layout.Php.unit]⟩
  case refine_2 =>
    rw [← hl]
    exact flatMap_typeNames h

end Emitter

theorem Emitter.emit_classes_distinct_reserved :
    let e : Emitter := ⟨.php, .mysql, true⟩
    let s : Schema :=
      { tables := [.keyed "list", .keyed "_", .keyed "lists"], keys_nodup := by decide }
    ∃ units, e.emit s = .ok units ∧
      ((units.flatMap (SourceUnit.typeNames .php)).map Language.asciiLower).Nodup := by
  intro e s
  have hs : (e.emit s).isOk := by decide +kernel
  cases he : e.emit s
  case error => rw [he] at hs; contradiction
  case ok units =>
    have ⟨hn, _, ht⟩ := emit_classes_distinct_iff rfl he
    refine ⟨units, rfl, ?_⟩
    have hk : ∀ t ∈ s.tables, Language.php.KeepsComments t.name := by decide +kernel
    have hd := hn.mpr (by decide +kernel)
    rwa [ht hk, List.map_map, Function.comp_def]

theorem Emitter.emit_classes_repeated :
    ¬∀ (e : Emitter) (s : Schema) (units : List SourceUnit), e.language = .php →
      e.emit s = .ok units →
      (s.tables.map fun t => Language.asciiLower (Language.php.typeName t)).Nodup := by
  intro h
  let s : Schema := { tables := [.keyed "_", .keyed "fiELD"], keys_nodup := by decide }
  have hs : (emit ⟨.php, .mysql, false⟩ s).isOk := by decide +kernel
  cases he : emit ⟨.php, .mysql, false⟩ s
  case error => rw [he] at hs; contradiction
  case ok units => exact absurd (h _ s units rfl he) (by decide +kernel)

end TypedRows
