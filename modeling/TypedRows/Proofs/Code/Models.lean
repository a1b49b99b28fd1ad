import TypedRows.Proofs.Annotation.Recovery
import TypedRows.Proofs.Code.Units

namespace TypedRows

open Code Layout

theorem TableModel.ofTable_legible {l : Language} {d : Dialect} {t : Table} {m : TableModel}
    (h : ofTable l d t = .ok m) : Legible l m := by
  have hk : l.typeCasing ≠ .kebab := by unfold Language.typeCasing; decide
  obtain ⟨_, rfl⟩ := ofTable_ok h
  constructor
  case typeName => exact l.spells_identifier hk t.name
  case isWord => exact fun hl => Language.isWord_identifier hl hk t.name
  all_goals
    intro f hf
    obtain ⟨c, _, hc⟩ := mem_fieldModels hf
    obtain ⟨k, tokens, _, ht, rfl⟩ := field_eq hc
  case fieldName => exact l.spells_identifier (by cases l <;> decide) c.name
  case typeToken =>
    unfold Language.tokens at ht
    split at ht
    case h_1 kind _ => cases ht; exact .ofKind l kind c.nullable
    case h_2 => contradiction

namespace SourceUnit

variable {l : Language} {lines : Lines} {ds : List Declaration} {s : Scope}

theorem declarations_text (hl : l.lexicon.tagged = false) (h : lines.Declare l {} ds s)
    (fileName : String) : (SourceUnit.mk fileName lines.text).declarations l = ds := by
  obtain ⟨ts, ht, hs⟩ := h
  rw [declarations, tokens_text hl ht]
  exact congrArg Prod.fst hs

theorem declarations_tagged (h : lines.Declare .php {} ds s) (fileName : String) :
    (SourceUnit.mk fileName (Lines.text ("<?php" :: lines))).declarations .php = ds := by
  obtain ⟨ts, ht, hs⟩ := h
  have hn : Scope.step .php {} .lineEnd = ([], {}) := rfl
  rw [declarations, tokens_tagged ht]
  exact congrArg Prod.fst (scan_cons hn hs)

end SourceUnit

namespace Layout

def declared (l : Language) (m : TableModel) : List Declaration :=
  match l with
  | .go => ⟨false, "type", m.typeName⟩ :: ⟨false, "const", m.typeName ++ "Table"⟩ ::
      (Go.constants m).map (fun p => ⟨false, "const", p.1⟩) ++
      [⟨false, "var", m.typeName ++ "PrimaryKey"⟩]
  | .rust => [⟨false, "struct", m.typeName⟩]
  | .typescript => [⟨true, "interface", m.typeName⟩, ⟨true, "const", m.typeName ++ "Table"⟩,
      ⟨true, "const", m.typeName ++ "PrimaryKey"⟩, ⟨true, "const", m.typeName ++ "Sql"⟩]
  | .python | .php => [⟨false, "class", m.typeName⟩]

variable {l : Language} {m : TableModel}

theorem header_declare (hl : l = .typescript ∨ l = .php) (h : l.KeepsComments m.table) :
    Lines.Declare l {} [header m] [] {} := by
  have hk : l.lexicon.Keeps (commentName m) := Language.keeps_comment h
  rcases hl with rfl | rfl
  all_goals
    exact Lines.Declare.lineComment (.fixed rfl) hk
      (fun question => .fixed (by cases question <;> rfl)) rfl

-- A unit declares what its layout means to if the name of its table stays in the comments.
theorem unit_declarations (h : Legible l m) (hk : l.KeepsComments m.table) :
    (unit l m).declarations l = declared l m := by
  cases l
  case go => exact SourceUnit.declarations_text rfl (Go.unit_declare h) _
  case rust => exact SourceUnit.declarations_text rfl (Rust.unit_declare h) _
  case typescript =>
    have hh := header_declare (.inl rfl) hk
    exact SourceUnit.declarations_text rfl (TypeScript.unit_declare h hh) _
  case python => exact SourceUnit.declarations_text rfl (Python.unit_declare h) _
  case php =>
    have hh := header_declare (.inr rfl) hk
    exact SourceUnit.declarations_tagged (Php.unit_declare h hh) _

theorem declared_types (l : Language) (m : TableModel) :
    ((declared l m).filter fun d => l.hasKeyword l.typeKeywords d.keyword).map Declaration.name =
      [m.typeName] := by
  cases l
  case go =>
    have ht : Language.go.hasKeyword Language.go.typeKeywords "type" = true := rfl
    have hc : Language.go.hasKeyword Language.go.typeKeywords "const" = false := rfl
    have hv : Language.go.hasKeyword Language.go.typeKeywords "var" = false := rfl
    simp [declared, List.filter_map, Function.comp_def, ht, hc, hv]
  case php =>
    have hc : Language.php.hasKeyword Language.php.typeKeywords "class" = true := by decide
    simp [declared, hc]
  all_goals rfl

end Layout
end TypedRows
