import TypedRows.Proofs.Generation.Emission
import TypedRows.Proofs.Naming.Identifier

namespace TypedRows

open Identifier

theorem Casing.not_digit_guardDigit (casing : Casing) (name : String) :
    ∀ c ∈ (casing.guardDigit name).toList.head?, c.isDigit = false := by
  unfold guardDigit
  split
  case h_1 hn => simp [hn]
  case h_2 c _ hn =>
    split_ifs with hd
    case pos => simpa [hn] using hd
    case neg => cases casing <;> simp

namespace Language

-- A word that a language neither reads as a number nor reserves.
structure IsPlainName (l : Language) (name : String) : Prop extends IsWord name where
  not_digit : ∀ c ∈ name.toList.head?, c.isDigit = false
  not_reserved : ∀ k ∈ l.keywords, k ≠ name ∧ (l = .php → asciiLower k ≠ asciiLower name)

-- What a language takes for a name, in Rust also the raw form of a reserved word that has one.
def IsName (l : Language) (name : String) : Prop :=
  l.IsPlainName name ∨ l = .rust ∧ ∃ k ∈ l.keywords,
    k ∉ ["self", "Self", "super", "crate"] ∧ name = "r#" ++ k

variable {l : Language} {casing : Casing} {name : String}

theorem isKeyword_iff :
    l.isKeyword name ↔ ∃ k ∈ l.keywords, k = name ∨ l = .php ∧ asciiLower k = asciiLower name := by
  cases l
  case php =>
    have hk : ∀ k, k = name ∨ asciiLower k = asciiLower name ↔ asciiLower k = asciiLower name :=
      fun k => or_iff_right_of_imp (congrArg asciiLower)
    simp [isKeyword, hk]
  all_goals simp [isKeyword]

-- Nothing that is reserved ends with an underscore.
theorem isKeyword_append_underscore (l : Language) (name : String) :
    l.isKeyword (name ++ "_") = false := by
  have hk : ∀ k ∈ l.keywords, (asciiLower k).getLast? ≠ some '_' := by cases l <;> decide +kernel
  have hn : (asciiLower (name ++ "_")).getLast? = some '_' := by simp [asciiLower]
  refine Bool.eq_false_iff.mpr fun h => ?_
  obtain ⟨k, hm, he⟩ := isKeyword_iff.mp h
  have he : asciiLower k = asciiLower (name ++ "_") := he.elim (congrArg asciiLower) And.right
  exact hk k hm (he ▸ hn)

theorem IsPlainName.of_isKeyword (h : IsWord name) (hd : ∀ c ∈ name.toList.head?, c.isDigit = false)
    (hk : l.isKeyword name = false) : l.IsPlainName name := by
  refine ⟨h, hd, fun k hm => ?_⟩
  have hn := fun hx => Bool.eq_false_iff.mp hk (isKeyword_iff.mpr ⟨k, hm, hx⟩)
  exact ⟨fun he => hn (.inl he), fun hl he => hn (.inr ⟨hl, he⟩)⟩

theorem isName_escapeKeyword (h : IsWord name)
    (hd : ∀ c ∈ name.toList.head?, c.isDigit = false) : l.IsName (l.escapeKeyword name) := by
  unfold escapeKeyword
  split_ifs with hk hr
  case pos => exact .inl (.of_isKeyword h hd (by simpa using hk))
  case pos =>
    obtain ⟨rfl, hr⟩ : l = .rust ∧ hasNoRawForm name = false := by simpa using hr
    have hm : name ∈ Language.rust.keywords := by simpa [isKeyword] using hk
    exact .inr ⟨rfl, name, hm, by simpa [hasNoRawForm] using hr, rfl⟩
  case neg =>
    have hn : name.toList ≠ [] := by simpa using h.ne_empty
    refine .inl (.of_isKeyword (h.append_right (List.all_eq_true.mp rfl)) ?_
      (l.isKeyword_append_underscore name))
    rwa [String.toList_append, List.head?_append_of_ne_nil _ hn]

theorem isName_identifier (l : Language) (hk : casing ≠ .kebab) (raw : String) :
    l.IsName (l.identifier casing raw) := by
  obtain ⟨name, hn, he⟩ := l.identifier_eq_guardDigit hk raw
  rw [he]
  exact isName_escapeKeyword (Casing.guardDigit_isWord hk hn) (casing.not_digit_guardDigit name)

end Language

namespace TableModel

theorem map_name_fieldModels {l : Language} {t : Table} (h : fieldErrors l t = []) :
    (fieldModels l t).map FieldModel.name = t.columns.map l.fieldName := by
  apply map_fieldModels_total h
  intro c f hf
  obtain ⟨k, tokens, _, _, rfl⟩ := field_eq hf
  rfl

-- A table and its columns get names of the language, whatever they are called themselves.
theorem ofTable_names (l : Language) (d : Dialect) (t : Table) :
    l.IsName (l.typeName t) ∧ (∀ c, l.IsName (l.fieldName c)) ∧
      ∀ m, ofTable l d t = .ok m →
        m.typeName = l.typeName t ∧ m.fields.map (·.name) = t.columns.map l.fieldName := by
  have ht : l.typeCasing ≠ .kebab := by cases l <;> decide
  have hf : l.fieldCasing ≠ .kebab := by cases l <;> decide
  refine ⟨l.isName_identifier ht t.name, fun c => l.isName_identifier hf c.name, ?_⟩
  intro m h
  obtain ⟨he, rfl⟩ := ofTable_ok h
  exact ⟨rfl, map_name_fieldModels he⟩

theorem ofTable_names_reserved :
    let t : Table := {
      name := "self"
      columns := [
        { name := "1st kind", canonical := some .date },
        { name := "type", canonical := some .boolean },
        { name := "größe", canonical := some (.float 64) }] }
    ∃ m, ofTable .rust .sqlite t = .ok m ∧
      m.typeName = "Self_" ∧ m.fields.map (·.name) = ["n_1st_kind", "r#type", "gr_e"] := by
  intro t
  have h : ofTable .rust .sqlite t = .ok _ := rfl
  obtain ⟨ht, hf⟩ := (ofTable_names .rust .sqlite t).2.2 _ h
  exact ⟨_, h, ht.trans (by decide +kernel), hf.trans (by decide +kernel)⟩

end TableModel
end TypedRows
