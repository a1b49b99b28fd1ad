import Mathlib.Data.List.Basic
import Mathlib.Tactic.SplitIfs
import TypedRows.Dialect.Resolution

namespace TypedRows

theorem flatMap_ite {α β : Type} (p : α → Bool) (f : α → List β) (as : List α) :
    (as.flatMap fun a => if p a then f a else []) = (as.filter p).flatMap f := by
  induction as
  case nil => rfl
  case cons a as hi =>
    rw [List.flatMap_cons, hi, List.filter_cons]
    split_ifs <;> simp

namespace Dialect

variable {d : Dialect} {token : TypeToken} {base : String} {r : TypeRule}

theorem mem_typeRules (h : d.typeRule? base = some r) :
    ∃ e ∈ d.typeRules, base ∈ e.1 ∧ e.2 = r := by
  obtain ⟨e, he, rfl⟩ := Option.map_eq_some_iff.mp h
  have hb := List.find?_some he
  exact ⟨e, List.mem_of_find?_eq_some he, List.contains_iff_mem.mp hb, rfl⟩

theorem type_ne_unknown (h : d.typeRule? base = some r) (token : TypeToken) :
    r.type token ≠ .unknown := by
  have hn : ∀ e ∈ d.typeRules, e.2 ≠ .exactly .unknown := by cases d <;> decide
  obtain ⟨e, he, -, rfl⟩ := mem_typeRules h
  have hn := hn e he
  cases hr : e.2
  case exactly c => exact fun hu => hn (hr.trans (congrArg TypeRule.exactly hu))
  case tinyInteger =>
    rw [TypeRule.type, TypeRule.widened]
    split_ifs <;> nofun
  case bits =>
    rw [TypeRule.type]
    split <;> nofun
  case float =>
    rw [TypeRule.type]
    split <;> nofun
  case decimal =>
    rw [TypeRule.type, TypeRule.decimalOf]
    split <;> nofun
  all_goals nofun

end Dialect

namespace Resolution

variable {d : Dialect} {t : TypeToken}

-- The type, if it is known.
def known? (r : Resolution) : Option CanonicalType :=
  if r.canonical = .unknown then none else some r.canonical

theorem known?_eq_none_iff {r : Resolution} : r.known? = none ↔ r.canonical = .unknown := by
  rw [known?]
  split_ifs with h <;> simp [h]

theorem canonical_noteClamped (r : Resolution) (t : TypeToken) :
    (r.noteClamped t).canonical = r.canonical := by
  rw [noteClamped]
  split_ifs <;> rfl

theorem affinity?_ne_unknown (t : TypeToken) : affinity? t ≠ some .unknown := by
  rw [affinity?]
  split_ifs <;> nofun

-- An unknown type has nothing to lose.
theorem ofToken_of_unknown (h : (ofToken d t).canonical = .unknown) : ofToken d t = unknown := by
  rw [ofToken] at h ⊢
  by_cases hb : t.base = ""
  case pos => rw [if_pos hb]
  case neg =>
    rw [if_neg hb] at h ⊢
    cases hr : d.typeRule? t.base
    case some r =>
      rw [hr] at h
      exact (d.type_ne_unknown hr t ((canonical_noteClamped _ t).symm.trans h)).elim
    case none =>
      rw [hr] at h
      dsimp only at h ⊢
      split_ifs at h ⊢
      case neg => rfl
      case pos =>
        rw [ofAffinity] at h ⊢
        cases ha : affinity? t
        case none => rfl
        case some c =>
          rw [ha] at h
          exact (affinity?_ne_unknown t (ha.trans (congrArg some h))).elim

end Resolution

namespace Schema

-- The columns without a type, each with its table.
def openColumns (s : Schema) : List (Table × Column) :=
  s.tables.flatMap fun t => (t.columns.filter (·.canonical.isNone)).map (t, ·)

theorem mem_openColumns {s : Schema} {t : Table} {c : Column} :
    (t, c) ∈ s.openColumns ↔ t ∈ s.tables ∧ c ∈ t.columns ∧ c.canonical = none := by
  simp [openColumns]

theorem eq_of_tables {s s' : Schema} (h : s.tables = s'.tables) : s = s' := by
  cases s
  cases s'
  cases h
  rfl

end Schema

namespace Dialect

variable {d : Dialect} {s : Schema} {t : Table} {c : Column}

def place (p : Table × Column) : Location where
  table := some p.1.name
  column := some p.2.name
  line := p.1.line

-- What is told of an open column.
def reports (d : Dialect) (p : Table × Column) : Diagnostics :=
  let r := d.resolve p.2.sourceType
  (if r.canonical = .unknown then
    [.error .typeResolution (d.unsupportedText p.1 p.2) (place p)] else []) ++
  r.note.toList.map (.warning .typeResolution · (place p))

def typed (d : Dialect) (c : Column) : Column :=
  { c with canonical := c.canonical.or (d.resolve c.sourceType).known? }

theorem note_of_unknown {source : String} (h : (d.resolve source).canonical = .unknown) :
    (d.resolve source).note = none := by
  rw [resolve, Resolution.ofToken_of_unknown h]
  rfl

theorem resolveColumn_eq (d : Dialect) (t : Table) (c : Column) :
    d.resolveColumn t c = (d.typed c, if c.canonical.isNone then d.reports (t, c) else []) := by
  have hp : Location.ofColumn t.name c.name t.line = place (t, c) := rfl
  rw [resolveColumn, typed, Resolution.known?]
  cases hc : c.canonical
  case some k =>
    have he : { c with canonical := some k } = c := hc ▸ rfl
    simp [he]
  case none =>
    by_cases hu : (d.resolve c.sourceType).canonical = .unknown
    case pos =>
      have he : { c with canonical := none } = c := hc ▸ rfl
      simp [CanonicalType.isUnknown, reports, hp, hu, note_of_unknown hu, he]
    case neg =>
      cases hn : (d.resolve c.sourceType).note <;>
        simp [CanonicalType.isUnknown, reports, hp, hu, hn]

theorem typed_typed (d : Dialect) (c : Column) : d.typed (d.typed c) = d.typed c := by
  simp only [typed, Option.or_assoc, Option.or_self]

theorem resolveTable_eq (d : Dialect) (t : Table) : d.resolveTable t = t.mapColumns d.typed := by
  rw [resolveTable]
  congr 1
  funext c
  rw [resolveColumn_eq]

theorem resolveSchema_tables (d : Dialect) (s : Schema) :
    (d.resolveSchema s).1.tables = s.tables.map fun t => t.mapColumns d.typed :=
  List.map_congr_left fun t _ => d.resolveTable_eq t

theorem resolveSchema_reports (d : Dialect) (s : Schema) :
    (d.resolveSchema s).2 = s.openColumns.flatMap d.reports := by
  rw [resolveSchema, Schema.openColumns, List.flatMap_assoc]
  refine List.flatMap_congr fun t _ => ?_
  simp only [resolveColumn_eq]
  rw [flatMap_ite, List.flatMap_map]

def isUnresolved (d : Dialect) (c : Column) : Bool :=
  (d.resolve c.sourceType).known?.isNone

-- The open columns whose type stays unknown.
def unresolved (d : Dialect) (s : Schema) : List (Table × Column) :=
  s.openColumns.filter fun p => d.isUnresolved p.2

theorem isNone_typed (d : Dialect) (c : Column) :
    (d.typed c).canonical.isNone = (d.isUnresolved c && c.canonical.isNone) := by
  rw [typed, isUnresolved, Bool.and_comm, Option.isNone_or]

theorem filter_typed (d : Dialect) (cs : List Column) :
    (cs.map d.typed).filter (·.canonical.isNone) =
      (cs.filter (·.canonical.isNone)).filter d.isUnresolved := by
  have ht : ∀ c ∈ cs.filter fun c => d.isUnresolved c && c.canonical.isNone, d.typed c = c := by
    intro c hc
    have hk : d.isUnresolved c := (Bool.and_eq_true_iff.mp (List.mem_filter.mp hc).2).1
    rw [typed, Option.isNone_iff_eq_none.mp hk, Option.or_none]
  rw [List.filter_map, List.filter_filter]
  simp only [Function.comp_def, isNone_typed]
  exact (List.map_congr_left ht).trans (List.map_id' _)

theorem openColumns_resolveSchema (d : Dialect) (s : Schema) :
    (d.resolveSchema s).1.openColumns =
      (d.unresolved s).map fun p => (p.1.mapColumns d.typed, p.2) := by
  rw [Schema.openColumns, resolveSchema_tables, unresolved, Schema.openColumns, List.flatMap_map,
    List.filter_flatMap, List.map_flatMap]
  refine List.flatMap_congr fun t _ => ?_
  have hc : (t.mapColumns d.typed).columns.filter (·.canonical.isNone) =
      (t.columns.filter (·.canonical.isNone)).filter d.isUnresolved := d.filter_typed t.columns
  simp only [hc, List.filter_map, List.map_map, Function.comp_def]

theorem isUnresolved_iff : d.isUnresolved c ↔ (d.resolve c.sourceType).canonical = .unknown := by
  rw [isUnresolved, Option.isNone_iff_eq_none, Resolution.known?_eq_none_iff]

-- Where the type stays unknown, the error is all that is told.
theorem errors_reports (d : Dialect) (p : Table × Column) :
    (d.reports p).errors = if d.isUnresolved p.2 then d.reports p else [] := by
  rw [reports]
  split_ifs with hk hu hu
  case pos =>
    have hn : (d.resolve p.2.sourceType).note = none := note_of_unknown hk
    simp [hn, Diagnostics.errors, Diagnostic.isError, Diagnostic.error]
  case neg => exact (hu (isUnresolved_iff.mpr hk)).elim
  case pos => exact (hk (isUnresolved_iff.mp hu)).elim
  case neg => simp [Diagnostics.errors, Diagnostic.isError, Diagnostic.warning]

theorem errors_resolveSchema (d : Dialect) (s : Schema) :
    (d.resolveSchema s).2.errors = (d.unresolved s).flatMap d.reports := by
  rw [resolveSchema_reports, Diagnostics.errors, List.filter_flatMap, unresolved, ← flatMap_ite]
  exact List.flatMap_congr fun p _ => d.errors_reports p

-- What stays open is what the errors are about.
theorem map_place_openColumns (d : Dialect) (s : Schema) :
    (d.resolveSchema s).1.openColumns.map place = (d.resolveSchema s).2.errors.map (·.location) := by
  rw [openColumns_resolveSchema, errors_resolveSchema, List.map_map, List.map_flatMap,
    List.map_eq_flatMap]
  refine List.flatMap_congr fun p hp => ?_
  have hu := isUnresolved_iff.mp (List.mem_filter.mp hp).2
  have hl : (d.reports p).map (·.location) = [place p] := by
    simp [reports, hu, note_of_unknown hu, Diagnostic.error]
  exact hl.symm

theorem resolveSchema_again (d : Dialect) (s : Schema) :
    d.resolveSchema (d.resolveSchema s).1 =
      ((d.resolveSchema s).1, (d.resolveSchema s).2.errors) := by
  refine Prod.ext (Schema.eq_of_tables ?tables) ?reports
  case tables =>
    rw [resolveSchema_tables, resolveSchema_tables, List.map_map]
    refine List.map_congr_left fun t _ => ?_
    simp [Table.mapColumns, Function.comp_def, typed_typed]
  case reports =>
    rw [resolveSchema_reports, openColumns_resolveSchema, errors_resolveSchema, List.flatMap_map]
    rfl

theorem resolveAfter_accounts (d : Dialect) (found : Diagnostics) (s : Schema) :
    ∃ s' new, d.resolveAfter found s = (s', found ++ new) ∧
      s'.tables = s.tables.map (fun t => { t with columns := t.columns.map fun c =>
        { c with canonical := c.canonical.or (d.resolve c.sourceType).known? } }) ∧
      new = s.openColumns.flatMap d.reports ∧
      s'.openColumns.map place = new.errors.map (·.location) ∧
      ∀ later, d.resolveAfter later s' = (s', later ++ new.errors) := by
  refine ⟨(d.resolveSchema s).1, (d.resolveSchema s).2, rfl, d.resolveSchema_tables s,
    d.resolveSchema_reports s, d.map_place_openColumns s, fun later => ?_⟩
  rw [resolveAfter, resolveSchema_again]

end Dialect
end TypedRows
