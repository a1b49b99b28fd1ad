import Mathlib.Data.List.Forall2
import Mathlib.Data.List.Induction
import TypedRows.Proofs.Definition.WellFormed

namespace TypedRows

namespace Table

variable {t : Table} {cs : List Column}

-- Each name is the one of a single column, which is the first.
theorem markFirst_eq_map (h : cs.Pairwise fun a b => ¬sameAsciiCase a.name b.name)
    (name : String) :
    markFirst name cs = cs.map fun c => if c.isNamed name then c.markKey else c := by
  induction cs
  case nil => rfl
  case cons c cs hi =>
    have ⟨hc, hcs⟩ := List.pairwise_cons.mp h
    rw [markFirst, List.map_cons]
    cases hn : c.isNamed name
    case false => rw [if_neg Bool.false_ne_true, if_neg Bool.false_ne_true, hi hcs]
    case true =>
      have hr : ∀ d ∈ cs, (if d.isNamed name then d.markKey else d) = d := by
        intro d hd
        refine if_neg fun hs => hc d hd ?_
        exact sameAsciiCase_iff.mpr ((sameAsciiCase_iff.mp hn).trans (sameAsciiCase_iff.mp hs).symm)
      rw [if_pos rfl, if_pos rfl, List.map_congr_left hr, List.map_id']

theorem foldl_markKey (h : t.columns.Pairwise fun a b => ¬sameAsciiCase a.name b.name)
    (names : List String) :
    names.foldl Table.markKey t =
      t.mapColumns fun c => if names.any (c.isNamed ·) then c.markKey else c := by
  induction names generalizing t
  case nil => simp [mapColumns]
  case cons name names hi =>
    have hm : t.markKey name = t.mapColumns fun c => if c.isNamed name then c.markKey else c := by
      rw [Table.markKey, markFirst_eq_map h, mapColumns]
    have hd : (t.markKey name).columns.Pairwise fun a b => ¬sameAsciiCase a.name b.name := by
      rw [hm]
      refine List.pairwise_map.mpr (h.imp fun hab => ?_)
      split_ifs <;> exact hab
    rw [List.foldl_cons, hi hd, hm, mapColumns, mapColumns, mapColumns, List.map_map]
    congr 2
    funext c
    cases hn : c.isNamed name
    case false => simp [hn]
    case true =>
      have hk : ∀ name, c.markKey.isNamed name = c.isNamed name := fun _ => rfl
      have hi : c.markKey.markKey = c.markKey := rfl
      simp [hn, hk, hi]

end Table

namespace Ddl

namespace ColumnReading

variable (definition : Sql.ColumnDefinition)

theorem ofDefinition_sourceType : (ofDefinition definition).sourceType = definition.type :=
  congrArg (·.2.1) (origin_ofDefinition definition)

theorem applyOption_primaryKey (c : Column) (o : Sql.ColumnOption) :
    (applyOption c o).primaryKey = (c.primaryKey || .primaryKey == o) := by
  fun_cases applyOption c o <;> simp [Column.markKey]

theorem foldl_applyOption_primaryKey (options : List Sql.ColumnOption) (c : Column) :
    (options.foldl applyOption c).primaryKey = (c.primaryKey || options.contains .primaryKey) := by
  induction options generalizing c
  case nil => simp
  case cons o options hi =>
    rw [List.foldl_cons, hi, applyOption_primaryKey, List.contains_cons, Bool.or_assoc]

theorem ofDefinition_primaryKey :
    (ofDefinition definition).primaryKey = definition.options.contains .primaryKey := by
  have hm : ∀ c : Column, (markSerial c).primaryKey = c.primaryKey := by
    intro c
    unfold markSerial
    split <;> rfl
  unfold ofDefinition
  dsimp only
  split <;> simp [foldl_applyOption_primaryKey, hm]

-- Options that come after the key do not matter.
theorem ofDefinition_nullable (h : (ofDefinition definition).primaryKey) :
    (ofDefinition definition).nullable = false := by
  unfold ofDefinition at h ⊢
  dsimp only at h ⊢
  split
  case isTrue => rfl
  case isFalse hk =>
    rw [if_neg hk] at h
    exact absurd h hk

end ColumnReading

namespace TableReading

def isUnnamed (c : Sql.ColumnDefinition) : Bool :=
  isBlankName c.name.value

-- Whether one of the columns that have a name has this one.
def declares (columns : List Sql.ColumnDefinition) (name : String) : Bool :=
  columns.any fun c => !isUnnamed c && sameAsciiCase c.name.value name

-- Whether a column has the name of one before it.
def isRepeated (before : List Sql.ColumnDefinition) (c : Sql.ColumnDefinition) : Bool :=
  !isUnnamed c && declares before c.name.value

def repetitions (columns : List Sql.ColumnDefinition) : Nat :=
  (columns.mapIdx fun i c => isRepeated (columns.take i) c).count true

def unnamedError (t : Table) : Diagnostic :=
  error ("Table '" ++ t.name ++ "' has a column with an empty name") (.ofTable t.name t.line)

def repeatedError (t : Table) (name : String) : Diagnostic :=
  error ("Duplicate column '" ++ name ++ "' in table '" ++ t.name ++ "'")
    (.ofColumn t.name name t.line)

-- What is wrong with a column that comes after others.
def columnError? (t : Table) (before : List Sql.ColumnDefinition) (c : Sql.ColumnDefinition) :
    Option Diagnostic :=
  if isUnnamed c then some (unnamedError t)
  else if isRepeated before c then some (repeatedError t c.name.value)
  else none

def columnErrors (t : Table) (columns : List Sql.ColumnDefinition) : Diagnostics :=
  (columns.mapIdx fun i c => columnError? t (columns.take i) c).filterMap id

-- The table that a definition begins with.
def bare (x : Sql.TableDefinition) (line : Nat) : Table :=
  { name := nameOf x, line := some line }

def nameErrors (x : Sql.TableDefinition) (line : Nat) : Diagnostics :=
  columnErrors (bare x line) x.columns ++
    ((keyNames x).filter fun key => !declares x.columns key).map (missingKey (bare x line))

-- The problems that a definition is refused with.
def reported (x : Sql.TableDefinition) (line : Nat) : Diagnostics :=
  match ofDefinition x line with
  | .ok _ => []
  | .error errors => errors

-- Whether a column belongs to the key, by an option or by name.
def isKey (x : Sql.TableDefinition) (c : Sql.ColumnDefinition) : Bool :=
  c.options.contains .primaryKey || (keyNames x).any (sameAsciiCase c.name.value)

-- A column that says what its definition says.
structure ColumnBuilt (x : Sql.TableDefinition) (definition : Sql.ColumnDefinition) (c : Column) :
    Prop where
  name : c.name = definition.name.value
  sourceType : c.sourceType = definition.type
  primaryKey : c.primaryKey = isKey x definition
  nullable : c.primaryKey → c.nullable = false

structure Built (x : Sql.TableDefinition) (line : Nat) (t : Table) : Prop where
  name : t.name = nameOf x
  line : t.line = some line
  columns : List.Forall₂ (ColumnBuilt x) x.columns t.columns

section Errors

variable {t u : Table} {before : List Sql.ColumnDefinition} {c : Sql.ColumnDefinition}
  {errors : Diagnostics}

theorem columnErrors_concat (t : Table) (before : List Sql.ColumnDefinition)
    (c : Sql.ColumnDefinition) :
    columnErrors t (before ++ [c]) = columnErrors t before ++ (columnError? t before c).toList :=
  Diagnostics.filterMap_judged_concat (columnError? t) before c

theorem columnErrors_length (t : Table) (columns : List Sql.ColumnDefinition) :
    (columnErrors t columns).length = columns.countP isUnnamed + repetitions columns := by
  refine Diagnostics.length_judged (columnError? t) isRepeated ?hj ?hb columns
  case hj =>
    intro before c
    unfold columnError?
    cases isUnnamed c <;> cases isRepeated before c <;> rfl
  case hb =>
    intro before c hb
    simp [isRepeated, hb]

theorem nameErrors_length (x : Sql.TableDefinition) (line : Nat) :
    (nameErrors x line).length = x.columns.countP isUnnamed + repetitions x.columns +
      (keyNames x).countP fun key => !declares x.columns key := by
  rw [nameErrors, List.length_append, columnErrors_length, List.length_map,
    ← List.countP_eq_length_filter]

theorem addColumns_append (t : Table) (as bs : List Column) :
    addColumns t (as ++ bs) =
      ((addColumns (addColumns t as).1 bs).1,
        (addColumns t as).2 ++ (addColumns (addColumns t as).1 bs).2) := by
  induction as generalizing t
  case nil => rfl
  case cons a as hi =>
    rw [List.cons_append, addColumns, addColumns]
    split_ifs
    case pos => rw [hi]; rfl
    case pos => rw [hi]; rfl
    case neg => exact hi _

theorem addColumns_unnamed (t : Table) (hb : isUnnamed c) :
    addColumns t [ColumnReading.ofDefinition c] = (t, [unnamedError t]) := by
  rw [addColumns, ofDefinition_column_name]
  exact if_pos hb

theorem addColumns_repeated (hb : isUnnamed c = false) (hr : (t.column? c.name.value).isSome) :
    addColumns t [ColumnReading.ofDefinition c] = (t, [repeatedError t c.name.value]) := by
  have hb : ¬isBlankName c.name.value := Bool.eq_false_iff.mp hb
  rw [addColumns, ofDefinition_column_name, if_neg hb]
  exact if_pos hr

theorem addColumns_new (hb : isUnnamed c = false) (hr : (t.column? c.name.value).isSome = false) :
    addColumns t [ColumnReading.ofDefinition c] =
      (t.addColumn (ColumnReading.ofDefinition c), []) := by
  have hb : ¬isBlankName c.name.value := Bool.eq_false_iff.mp hb
  rw [addColumns, ofDefinition_column_name, if_neg hb]
  exact if_neg (Bool.eq_false_iff.mp hr)

theorem declares_concat (before : List Sql.ColumnDefinition) (c : Sql.ColumnDefinition)
    (name : String) :
    declares (before ++ [c]) name =
      (declares before name || (!isUnnamed c && sameAsciiCase c.name.value name)) := by
  simp [declares]

-- The columns of `before` were added to a table without any, and these errors were found.
structure Added (t : Table) (before : List Sql.ColumnDefinition) (result : Table × Diagnostics) :
    Prop where
  name : result.1.name = t.name
  line : result.1.line = t.line
  known : ∀ name, (result.1.column? name).isSome = declares before name
  errors : result.2 = columnErrors t before

theorem Added.concat (h : Added t before (u, errors)) (c : Sql.ColumnDefinition) :
    let next := addColumns u [ColumnReading.ofDefinition c]
    Added t (before ++ [c]) (next.1, errors ++ next.2) := by
  have hn : u.name = t.name := h.name
  have hl : u.line = t.line := h.line
  have hk : ∀ name, (u.column? name).isSome = declares before name := h.known
  have he : errors = columnErrors t before := h.errors
  cases hb : isUnnamed c
  case true =>
    rw [addColumns_unnamed u hb]
    refine ⟨hn, hl, fun name => ?known, ?errors⟩
    case known => simp [declares_concat, hb, hk]
    case errors => simp [columnErrors_concat, columnError?, hb, he, unnamedError, hn, hl]
  case false =>
    cases hr : (u.column? c.name.value).isSome
    case true =>
      rw [addColumns_repeated hb hr]
      refine ⟨hn, hl, fun name => ?known, ?errors⟩
      case known =>
        rw [declares_concat, ← hk]
        cases hs : sameAsciiCase c.name.value name
        case false => simp
        case true => simp [← Table.column?_isSome_congr hs, hr]
      case errors =>
        have hr : isRepeated before c := by simp [isRepeated, hb, ← hk, hr]
        simp [columnErrors_concat, columnError?, hb, hr, he, repeatedError, hn, hl]
    case false =>
      rw [addColumns_new hb hr]
      refine ⟨hn, hl, fun name => ?known, ?errors⟩
      case known =>
        rw [declares_concat, ← hk, Bool.eq_iff_iff, Table.column?_addColumn_isSome,
          ofDefinition_column_name]
        simp [hb]
      case errors =>
        have hr : isRepeated before c = false := by simp [isRepeated, ← hk, hr]
        simp [columnErrors_concat, columnError?, hb, hr, he]

theorem withColumns_added (x : Sql.TableDefinition) (line : Nat) :
    Added (bare x line) x.columns (withColumns x line) := by
  suffices hs : ∀ before : List Sql.ColumnDefinition,
      Added (bare x line) before
        (addColumns (bare x line) (before.map ColumnReading.ofDefinition)) from hs x.columns
  intro before
  induction before using List.reverseRecOn
  case nil => exact ⟨rfl, rfl, fun _ => rfl, rfl⟩
  case append_singleton before c hi =>
    rw [List.map_append, addColumns_append]
    exact hi.concat c

theorem problems_eq_nameErrors (x : Sql.TableDefinition) (line : Nat) :
    (withColumns x line).2 ++ (markKeys (withColumns x line).1 (keyNames x)).2 =
      nameErrors x line := by
  have h := withColumns_added x line
  have hk : (fun key => ((withColumns x line).1.column? key).isNone) =
      fun key => !declares x.columns key := by
    funext key
    rw [← h.known, Option.not_isSome]
  have hm : missingKey (withColumns x line).1 = missingKey (bare x line) := by
    funext key
    rw [missingKey, missingKey, h.name, h.line]
  rw [markKeys, nameErrors, hk, hm, h.errors]

end Errors

section Results

variable {x : Sql.TableDefinition} {line : Nat} {t : Table}

theorem reported_of_error {errors : Diagnostics} (h : ofDefinition x line = .error errors) :
    reported x line = errors := by
  rw [reported, h]

theorem reported_eq_nil_iff (x : Sql.TableDefinition) (line : Nat) :
    reported x line = [] ↔ ∃ t, ofDefinition x line = .ok t := by
  cases h : ofDefinition x line
  case ok t => simp [reported, h]
  case error errors => simp [reported_of_error h, (ofDefinition_refusal h).ne_nil]

theorem reported_isError : ∀ d ∈ reported x line, d.isError := by
  cases h : ofDefinition x line
  case ok t => simp [reported, h]
  case error errors => exact reported_of_error h ▸ (ofDefinition_refusal h).isError

theorem reported_eq_nameErrors (line : Nat) (hn : isBlankName (nameOf x) = false)
    (hc : x.columns ≠ []) : reported x line = nameErrors x line := by
  rw [reported, ofDefinition_eq x line hn hc, problems_eq_nameErrors]
  cases nameErrors x line <;> rfl

theorem columnBuilt_markKey (x : Sql.TableDefinition) (definition : Sql.ColumnDefinition) :
    let c := ColumnReading.ofDefinition definition
    ColumnBuilt x definition (if (keyNames x).any (c.isNamed ·) then c.markKey else c) := by
  intro c
  have hn : c.name = definition.name.value := ofDefinition_column_name definition
  have ht : c.sourceType = definition.type := ColumnReading.ofDefinition_sourceType definition
  have hk : c.primaryKey = definition.options.contains .primaryKey :=
    ColumnReading.ofDefinition_primaryKey definition
  have hi : ((keyNames x).any fun key => c.isNamed key) =
      (keyNames x).any (sameAsciiCase definition.name.value) := by
    rw [← hn]
    rfl
  cases hm : (keyNames x).any (sameAsciiCase definition.name.value)
  case true =>
    rw [if_pos (hi.trans hm)]
    exact ⟨hn, ht, by simp [isKey, hm, Column.markKey], fun _ => rfl⟩
  case false =>
    rw [if_neg (Bool.eq_false_iff.mp (hi.trans hm))]
    exact ⟨hn, ht, by simp [isKey, hm, hk], ColumnReading.ofDefinition_nullable definition⟩

theorem ofDefinition_built (h : ofDefinition x line = .ok t) : Built x line t := by
  have hw : WellFormed x := (ofDefinition_eq_ok_iff x line).mp ⟨t, h⟩
  have hd : (x.columns.map ColumnReading.ofDefinition).Pairwise
      fun a b => ¬sameAsciiCase a.name b.name := by
    simpa [List.pairwise_map, ofDefinition_column_name, SameName] using hw.columns_distinct
  rw [ofDefinition_eq_markKey h, Table.foldl_markKey hd]
  refine ⟨rfl, rfl, ?_⟩
  rw [Table.mapColumns, List.map_map, List.forall₂_map_right_iff, List.forall₂_same]
  exact fun c _ => columnBuilt_markKey x c

-- A definition is built if it is well formed and reported if it is not.
theorem ofDefinition_builds (x : Sql.TableDefinition) (line : Nat) :
    ((∃ t, ofDefinition x line = .ok t) ↔ WellFormed x) ∧
    (reported x line = [] ↔ ∃ t, ofDefinition x line = .ok t) ∧
    (∀ d ∈ reported x line, d.isError) ∧
    (isBlankName (nameOf x) = false → x.columns ≠ [] →
      reported x line = nameErrors x line ∧
      (reported x line).length = x.columns.countP isUnnamed + repetitions x.columns +
        (keyNames x).countP fun key => !declares x.columns key) ∧
    ∀ t, ofDefinition x line = .ok t → Built x line t := by
  refine ⟨ofDefinition_eq_ok_iff x line, reported_eq_nil_iff x line, reported_isError, ?errors,
    fun t => ofDefinition_built⟩
  case errors =>
    intro hn hc
    have he := reported_eq_nameErrors line hn hc
    exact ⟨he, he ▸ nameErrors_length x line⟩

-- Two keys that are written as nullable, one of them named in capitals, and then a wrong name of
-- each kind.
theorem ofDefinition_builds_keys :
    let id : Sql.ColumnDefinition := ⟨⟨"id", none⟩, "INT", [.primaryKey, .null]⟩
    let part : Sql.ColumnDefinition := ⟨⟨"part", none⟩, "SERIAL", [.null]⟩
    let keys : List (List Sql.Ident) := [[⟨"PART", none⟩]]
    let x : Sql.TableDefinition := { name := [⟨"t", none⟩], columns := [id, part], keys := keys }
    let y : Sql.TableDefinition :=
      { x with columns := [id, ⟨⟨" ", none⟩, "INT", []⟩, ⟨⟨"ID", none⟩, "INT", []⟩] }
    (∃ t, ofDefinition x 1 = .ok t ∧ Built x 1 t) ∧ (reported y 1).length = 3 := by
  intro id part keys x y
  constructor
  case left =>
    have hw : WellFormed x := by
      refine ⟨by decide +kernel, by decide, by decide +kernel, ?_, ?_⟩
      case refine_1 => simp only [SameName]; decide +kernel
      case refine_2 => simp only [SameName]; decide +kernel
    obtain ⟨ho, -, -, -, hb⟩ := ofDefinition_builds x 1
    obtain ⟨t, ht⟩ := ho.mpr hw
    exact ⟨t, ht, hb t ht⟩
  case right =>
    have hn : isBlankName (nameOf y) = false := by decide +kernel
    have hc : y.columns ≠ [] := by decide
    have hl : y.columns.countP isUnnamed + repetitions y.columns +
      (keyNames y).countP (fun key => !declares y.columns key) = 3 := by decide +kernel
    exact ((ofDefinition_builds y 1).2.2.2.1 hn hc).2.trans hl

end Results

end TableReading
end Ddl
end TypedRows
