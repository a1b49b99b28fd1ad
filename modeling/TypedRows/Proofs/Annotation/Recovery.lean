import TypedRows.Proofs.Annotation.Tags
import TypedRows.Proofs.Generation.Emission

namespace TypedRows

open Layout ColumnAnnotation

-- The annotations of the columns, in their order.
def Table.annotations (t : Table) : List ColumnAnnotation :=
  t.columns.filterMap fun c => c.canonical.map (ofColumn c)

-- The annotations that are found in a unit, line by line.
def SourceUnit.annotations (u : SourceUnit) : List ColumnAnnotation :=
  foundIn u.content

section Models

variable {l : Language} {d : Dialect} {t : Table} {m : TableModel} {f : FieldModel}

theorem Language.identifier_quoteless (l : Language) (casing : Casing) (raw : String) :
    Quoteless (l.identifier casing raw) :=
  quoteless_of_isNameChar (l.identifier_isNameChar casing raw)

namespace TypeTokens

theorem go_quoteless (k : TypeKind) (nullable : Bool) : Quoteless ((go k).select nullable) := by
  apply Quoteless.of_check
  cases k <;> cases nullable <;> decide

theorem rustName_quoteless (k : TypeKind) : Quoteless (rustName k) := by
  apply Quoteless.of_check
  cases k <;> decide

theorem typescriptName_quoteless (k : TypeKind) : Quoteless (typescriptName k) := by
  apply Quoteless.of_check
  cases k <;> decide

theorem pythonName_quoteless (k : TypeKind) : Quoteless (pythonName k) := by
  apply Quoteless.of_check
  cases k <;> decide

theorem phpName_quoteless (k : TypeKind) : Quoteless (phpName k) := by
  apply Quoteless.of_check
  cases k <;> decide

theorem ofKind_quoteless (l : Language) (k : TypeKind) (nullable : Bool) :
    Quoteless ((ofKind l k).select nullable) := by
  cases l
  case go => exact go_quoteless k nullable
  all_goals cases nullable
  case rust.false => exact rustName_quoteless k
  case rust.true =>
    exact ((Quoteless.of_check rfl).append (rustName_quoteless k)).append (.of_check rfl)
  case typescript.false => exact typescriptName_quoteless k
  case typescript.true => exact (typescriptName_quoteless k).append (.of_check rfl)
  case python.false => exact pythonName_quoteless k
  case python.true =>
    exact ((Quoteless.of_check rfl).append (pythonName_quoteless k)).append (.of_check rfl)
  case php.false => exact phpName_quoteless k
  case php.true => exact (Quoteless.of_check rfl).append (phpName_quoteless k)

end TypeTokens

namespace TableModel

theorem map_annotation_fieldModels (h : fieldErrors l t = []) :
    (fieldModels l t).map FieldModel.annotation = t.annotations := by
  apply map_fieldModels h
  intro c f hf
  obtain ⟨k, tokens, hk, _, rfl⟩ := field_eq hf
  rw [hk]
  rfl

theorem map_column_fieldModels (h : fieldErrors l t = []) :
    (fieldModels l t).map FieldModel.column = t.columns.map Column.name := by
  apply map_fieldModels_total h
  intro c f hf
  obtain ⟨k, tokens, _, _, rfl⟩ := field_eq hf
  rfl

theorem ofTable_writable (h : ofTable l d t = .ok m) : Writable m := by
  obtain ⟨_, rfl⟩ := ofTable_ok h
  constructor
  case typeName => exact l.identifier_quoteless _ _
  all_goals
    intro f hf
    obtain ⟨c, _, hc⟩ := mem_fieldModels hf
    obtain ⟨k, tokens, _, ht, rfl⟩ := field_eq hc
  case fieldName => exact l.identifier_quoteless _ _
  case typeToken =>
    unfold Language.tokens at ht
    split at ht
    case h_1 kind _ => cases ht; exact TypeTokens.ofKind_quoteless l kind c.nullable
    case h_2 => contradiction
  case column => rfl

end TableModel
end Models

-- Tables whose names are nowhere taken for annotations.
def Table.Recoverable (t : Table) (l : Language) (d : Dialect) : Prop :=
  let keys := t.primaryKey.map Column.name
  match l with
  | .go => NamesPlain keys ∧ ∀ c ∈ t.columns, ¬Go.Misleading c.name
  | .php => ∀ line ∈ Php.constantLines t.name keys (.ofTable d t), found line = []
  | .rust | .typescript | .python => NamesPlain keys

instance (t : Table) (l : Language) (d : Dialect) : Decidable (t.Recoverable l d) :=
  match l with
  | .go => inferInstanceAs (Decidable (_ ∧ _))
  | .php => inferInstanceAs (Decidable (∀ line ∈ _, found line = []))
  | .rust | .typescript | .python => inferInstanceAs (Decidable (NamesPlain _))

theorem TableModel.annotations_unit_iff {l : Language} {d : Dialect} {t : Table} {m : TableModel}
    (h : ofTable l d t = .ok m) :
    (unit l m).annotations = t.annotations ↔ t.Recoverable l d := by
  have hw : Writable m := ofTable_writable h
  have hu : (unit l m).annotations = (unitLines l m).flatMap found := foundIn_text _
  obtain ⟨he, rfl⟩ := ofTable_ok h
  have ha := map_annotation_fieldModels he
  rw [hu, ← ha]
  unfold Table.Recoverable
  cases l
  case rust => exact Rust.unit_found hw
  case typescript => exact TypeScript.unit_found hw
  case python => exact Python.unit_found hw
  case php => exact Php.unit_found hw
  case go =>
    have hf : (∀ f ∈ fieldModels .go t, ¬Go.Misleading f.column) ↔
        ∀ c ∈ t.columns, ¬Go.Misleading c.name := by
      have hc := map_column_fieldModels he
      constructor
      case mp =>
        intro hf c hx
        obtain ⟨f, hm, hn⟩ := List.mem_map.mp (hc ▸ List.mem_map_of_mem hx)
        exact hn ▸ hf f hm
      case mpr =>
        intro hx f hm
        obtain ⟨c, hx', hn⟩ := List.mem_map.mp (hc ▸ List.mem_map_of_mem hm)
        exact hn ▸ hx c hx'
    exact (Go.unit_found hw).trans (and_congr_right' hf)

end TypedRows
