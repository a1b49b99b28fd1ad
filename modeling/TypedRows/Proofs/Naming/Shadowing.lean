import TypedRows.Proofs.Code.Imports
import TypedRows.Proofs.Generation.Fields
import TypedRows.Proofs.Naming.Letters

namespace TypedRows

open Code Identifier Text

namespace Casing

theorem not_isLower_joined {cs : List Char} (h : ∀ c ∈ cs, isWordChar c) (last : Char)
    (found : Bool) : ∀ c ∈ (joined true last found cs).head?, c.isLower = false := by
  induction cs
  case nil => simp [joined]
  case cons c cs hi =>
    obtain ⟨hc, hcs⟩ := List.forall_mem_cons.mp h
    have hn : ∀ n < 128, isNumeric (Char.ofNat n) → (Char.ofNat n).isLower = false := by decide
    have hu : ∀ n < 128, (Char.ofNat n).toUpper.isLower = false := by decide
    have ha := toNat_lt_of_isWordChar hc
    unfold joined
    split_ifs with hm hd
    case pos => exact hi hcs
    case pos => simpa using forall_ascii (P := fun c => isNumeric c → c.isLower = false) hn ha hd
    case pos =>
      intro x hx
      cases hx
      exact forall_ascii (P := fun c => c.toUpper.isLower = false) hu ha
    all_goals simp_all

end Casing

namespace Language

variable {l : Language} {name : String}

theorem not_isLower_escapeKeyword (h : ∀ c ∈ name.toList.head?, c.isLower = false) :
    ∀ c ∈ (l.escapeKeyword name).toList.head?, c.isLower = false := by
  unfold escapeKeyword
  split_ifs with hk hr
  case pos => exact h
  case pos =>
    have hd : ∀ k ∈ rust.keywords, hasNoRawForm k = false →
        k.toList.head?.any Char.isLower := by decide
    have ⟨hl, hf⟩ : l = rust ∧ hasNoRawForm name = false := by simpa using hr
    subst hl
    have hi := hd name (by simpa [isKeyword] using hk) hf
    cases hc : name.toList.head? <;> simp_all
  case neg =>
    have hu : '_'.isLower = false := by decide
    rw [String.toList_append]
    cases hn : name.toList
    case nil => simp [hu]
    case cons => simpa [hn] using h

theorem not_isLower_pascal (raw : String) :
    ∀ c ∈ (Casing.pascal.apply (sanitize raw)).toList.head?, c.isLower = false := by
  have hj : ∀ cs, Casing.pascal.applyChars cs =
      Casing.joined true ' ' false (Casing.dropTrailingMarks cs) := fun _ => rfl
  rw [Casing.apply, String.toList_ofList, hj]
  exact Casing.not_isLower_joined (Casing.dropTrailingMarks_isWordChar (sanitize_isWordChar raw)) _ _

theorem not_isLower_guardDigit (h : ∀ c ∈ name.toList.head?, c.isLower = false) :
    ∀ c ∈ (Casing.pascal.guardDigit name).toList.head?, c.isLower = false := by
  have hn : 'N'.isLower = false := by decide
  unfold Casing.guardDigit
  split
  case h_1 => exact h
  case h_2 => split_ifs <;> simp_all

theorem not_isLower_typeName (l : Language) (t : Table) :
    ∀ c ∈ (l.typeName t).toList.head?, c.isLower = false := by
  have hf : ∀ name : String, (∀ c ∈ name.toList.head?, c.isLower = false) →
      ∀ c ∈ (if name = "" then Casing.pascal.apply "field" else name).toList.head?,
        c.isLower = false := by
    intro name hn
    by_cases he : name = ""
    case pos =>
      have hp : Casing.pascal.apply "field" = "Field" := by decide
      simp [he, hp]
    case neg => rwa [if_neg he]
  exact not_isLower_escapeKeyword (not_isLower_guardDigit (hf _ (not_isLower_pascal t.name)))

end Language

namespace Code

def joinsNames (t : Token) : Bool :=
  t = .mark '.' || t = .mark ':'

-- Words that are no part of a path. `joined` holds where one would be.
def unqualifiedAfter (joined : Bool) : List Token → List String
  | [] => []
  | .word w :: ts =>
    (if joined || ts.head?.any joinsNames then [] else [w]) ++ unqualifiedAfter false ts
  | t :: ts => unqualifiedAfter (joinsNames t) ts

def unqualified (ts : List Token) : List String :=
  unqualifiedAfter false ts

end Code

namespace Language

-- Names with a capital that a type is written with and that no path leads to.
def borrowed : Language → TypeKind → Bool → List String
  | rust, k, nullable =>
    (if nullable then ["Option"] else []) ++
      match k with
      | .decimal | .text => ["String"]
      | .binary => ["Vec"]
      | _ => []
  | typescript, k, _ =>
    match k with
    | .date | .datetime => ["Date"]
    | .binary => ["Uint8Array"]
    | _ => []
  | python, k, nullable =>
    (if nullable then ["Optional"] else []) ++ if k = .decimal then ["Decimal"] else []
  | go, _, _ | php, _, _ => []

variable {l : Language}

theorem borrowed_ofKind (hl : l ∈ [rust, typescript, python]) (k : TypeKind) (nullable : Bool) :
    (unqualified (l.lexicon.tokens ((TypeTokens.ofKind l k).select nullable))).filter
      (fun w => !w.toList.head?.any Char.isLower) = l.borrowed k nullable := by
  simp only [List.mem_cons, List.not_mem_nil, or_false] at hl
  cases hl
  case inl hl => subst hl; cases k <;> cases nullable <;> decide +kernel
  case inr hl =>
    cases hl
    case inl hl => subst hl; cases k <;> cases nullable <;> decide +kernel
    case inr hl => subst hl; cases k <;> cases nullable <;> decide +kernel

end Language

def Column.borrowed (l : Language) (c : Column) : List String :=
  match c.canonical.bind (·.kind?) with
  | some k => l.borrowed k c.nullable
  | none => []

namespace TableModel

variable {l : Language} {d : Dialect} {t : Table} {m : TableModel}

theorem mem_borrowed_iff {c : Column} {f : FieldModel} {name : String}
    (hl : l ∈ [.rust, .typescript, .python]) (h : field l t c = .ok f)
    (hn : ∀ c ∈ name.toList.head?, c.isLower = false) :
    name ∈ unqualified (f.typeTokens l) ↔ name ∈ c.borrowed l := by
  have ⟨canonical, tokens, hc, ht, he⟩ := field_eq h
  have hp : (!name.toList.head?.any Char.isLower) = true := by
    cases hh : name.toList.head? <;> simp_all
  unfold Language.tokens at ht
  split at ht
  case h_1 k hk =>
    cases ht
    have hb : c.borrowed l = l.borrowed k c.nullable := by simp [Column.borrowed, hc, hk]
    subst he
    rw [hb, ← Language.borrowed_ofKind hl k c.nullable, List.mem_filter]
    simp only [hp, and_true]
    rfl
  case h_2 => contradiction

-- A field is written with the name of its own unit exactly if a column borrows that name.
theorem ofTable_typeName_unqualified_iff (hl : l ∈ [.rust, .typescript, .python])
    (h : ofTable l d t = .ok m) :
    (∀ f ∈ m.fields, m.typeName ∉ unqualified (f.typeTokens l)) ↔
      ∀ c ∈ t.columns, m.typeName ∉ c.borrowed l := by
  have ⟨he, hm⟩ := ofTable_ok h
  subst hm
  have hn := l.not_isLower_typeName t
  have hf : (fieldModels l t).map (fun f => decide (l.typeName t ∈ unqualified (f.typeTokens l))) =
      t.columns.map fun c => decide (l.typeName t ∈ c.borrowed l) := by
    apply map_fieldModels_total he
    intro c f hf
    simp [mem_borrowed_iff hl hf hn]
  have ha : (∀ b ∈ (fieldModels l t).map fun f =>
      decide (l.typeName t ∈ unqualified (f.typeTokens l)), b = false) ↔
      ∀ b ∈ t.columns.map fun c => decide (l.typeName t ∈ c.borrowed l), b = false := by rw [hf]
  simpa using ha

theorem ofTable_typeName_unqualified_required :
    let t : Table := {
      name := "option"
      columns := [{ name := "id", canonical := some (.integer 64), nullable := false }] }
    ∃ m, ofTable .rust .sqlite t = .ok m ∧ m.typeName = "Option" ∧
      ∀ f ∈ m.fields, m.typeName ∉ unqualified (f.typeTokens .rust) := by
  intro t
  have h : ofTable .rust .sqlite t = .ok _ := rfl
  exact ⟨_, h, by decide +kernel,
    (ofTable_typeName_unqualified_iff (by decide) h).mpr (by decide +kernel)⟩

-- A column that can be empty is written with the type of its own table.
theorem ofTable_typeName_borrowed :
    ¬∀ (e : Emitter) (s : Schema) (units : List SourceUnit),
      e.language ∈ [.rust, .typescript, .python] → s.Resolved → e.emit s = .ok units →
      ∀ t ∈ s.tables, ∀ m, ofTable e.language e.dialect t = .ok m →
        ∀ f ∈ m.fields, m.typeName ∉ unqualified (f.typeTokens e.language) := by
  intro h
  let t : Table := {
    name := "option"
    columns := [{ name := "id", canonical := some (.integer 64) }] }
  let s : Schema := { tables := [t] }
  have hr : s.Resolved := by simp [Schema.Resolved, Table.Resolved, s, t]
  have hs : (Emitter.emit ⟨.rust, .sqlite, false⟩ s).isOk := by decide +kernel
  have hm : ofTable .rust .sqlite t = .ok _ := rfl
  cases he : Emitter.emit ⟨.rust, .sqlite, false⟩ s
  case error => rw [he] at hs; contradiction
  case ok units =>
    have hn := h _ s units (by decide) hr he t (List.mem_singleton.mpr rfl) _ hm
    exact absurd hn (by decide +kernel)

end TableModel
end TypedRows
