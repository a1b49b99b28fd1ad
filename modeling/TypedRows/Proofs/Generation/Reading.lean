import Mathlib.Data.List.Induction
import Mathlib.Tactic.SplitIfs
import TypedRows.Input

namespace TypedRows

namespace Diagnostics

def OfKind (k : Diagnostic.Kind) (ds : Diagnostics) : Prop :=
  ∀ x ∈ ds, x.kind = k

variable {k : Diagnostic.Kind} {a b : Diagnostics} {x : Diagnostic}

theorem OfKind.nil : OfKind k [] := by
  simp [OfKind]

theorem OfKind.single (h : x.kind = k) : OfKind k [x] := by
  simpa [OfKind] using h

theorem OfKind.cons (hx : x.kind = k) (ha : OfKind k a) : OfKind k (x :: a) :=
  List.forall_mem_cons.mpr ⟨hx, ha⟩

theorem OfKind.append (ha : OfKind k a) (hb : OfKind k b) : OfKind k (a ++ b) :=
  List.forall_mem_append.mpr ⟨ha, hb⟩

-- Errors with which a reader stops.
structure Refusal (ds : Diagnostics) : Prop where
  ne_nil : ds ≠ []
  ofKind : OfKind .parse ds
  isError : ∀ x ∈ ds, x.isError

theorem errors_ne_nil (h : a.hasErrors) : a.errors ≠ [] := by
  obtain ⟨x, hx, he⟩ := List.any_eq_true.mp h
  exact List.ne_nil_of_mem (List.mem_filter.mpr ⟨hx, he⟩)

theorem OfKind.refusal (h : OfKind .parse a) (he : a.hasErrors) : Refusal a.errors where
  ne_nil := errors_ne_nil he
  ofKind x hx := h x (List.mem_filter.mp hx).1
  isError _ hx := (List.mem_filter.mp hx).2

theorem Refusal.single (hk : x.kind = .parse) (he : x.isError) : Refusal [x] where
  ne_nil := List.cons_ne_nil x []
  ofKind := .single hk
  isError := by simpa using he

theorem Refusal.hasErrors (h : Refusal a) : a.hasErrors := by
  obtain ⟨x, hx⟩ := List.exists_mem_of_ne_nil a h.ne_nil
  exact List.any_eq_true.mpr ⟨x, hx, h.isError x hx⟩

section Judged

variable {α β : Type}

-- What is made of an item and the ones before it does not change with the items after it.
theorem mapIdx_take_concat (f : List α → α → β) (as : List α) (a : α) :
    ((as ++ [a]).mapIdx fun i => f ((as ++ [a]).take i)) =
      (as.mapIdx fun i => f (as.take i)) ++ [f as a] := by
  rw [List.mapIdx_concat, List.take_left]
  congr 1
  apply List.ext_getElem
  case hl => simp
  case h =>
    intro i hi _
    rw [List.length_mapIdx] at hi
    rw [List.getElem_mapIdx, List.getElem_mapIdx, List.take_append_of_le_length (Nat.le_of_lt hi)]

theorem filterMap_judged_concat (judge : List α → α → Option β) (as : List α) (a : α) :
    ((as ++ [a]).mapIdx fun i => judge ((as ++ [a]).take i)).filterMap id =
      (as.mapIdx fun i => judge (as.take i)).filterMap id ++ (judge as a).toList := by
  rw [mapIdx_take_concat judge, List.filterMap_append]
  cases judge as a <;> rfl

-- Each item that is wrong by itself is found once, and so is each other one that the items before
-- it make wrong.
theorem length_judged (judge : List α → α → Option β) (isRepeated : List α → α → Bool)
    {isBlank : α → Bool}
    (hj : ∀ before a, (judge before a).isSome = (isBlank a || isRepeated before a))
    (hb : ∀ before a, isBlank a → isRepeated before a = false) (as : List α) :
    ((as.mapIdx fun i => judge (as.take i)).filterMap id).length =
      as.countP isBlank + (as.mapIdx fun i => isRepeated (as.take i)).count true := by
  induction as using List.reverseRecOn
  case nil => rfl
  case append_singleton as a hi =>
    have hl : (judge as a).toList.length =
        (if isBlank a then 1 else 0) + if isRepeated as a then 1 else 0 := by
      rw [Option.length_toList, hj]
      cases ha : isBlank a
      case false => simp
      case true => simp [hb as a ha]
    rw [filterMap_judged_concat, List.length_append, hi, hl, mapIdx_take_concat isRepeated,
      List.countP_append, List.countP_singleton, List.count_append, List.count_singleton, beq_true]
    omega

end Judged

end Diagnostics

namespace Table

def Untyped (t : Table) : Prop :=
  ∀ c ∈ t.columns, c.canonical = none

-- A type that a reader sets is one that can be emitted.
def NeverUnknown (t : Table) : Prop :=
  ∀ c ∈ t.columns, c.canonical ≠ some .unknown

variable {t : Table}

theorem Untyped.neverUnknown (h : t.Untyped) : t.NeverUnknown := by
  intro c hc
  simp [h c hc]

theorem column?_isSome_iff (t : Table) (name : String) :
    (t.column? name).isSome ↔ ∃ c ∈ t.columns, sameAsciiCase c.name name := by
  simp [column?, Column.isNamed]

theorem column?_addColumn_isSome (t : Table) (c : Column) (name : String) :
    ((t.addColumn c).column? name).isSome ↔ (t.column? name).isSome ∨ sameAsciiCase c.name name := by
  simp only [column?_isSome_iff, addColumn, List.mem_append, List.mem_singleton, or_and_right,
    exists_or, exists_eq_left]

theorem column?_isSome_congr {a b : String} (h : sameAsciiCase a b) :
    (t.column? a).isSome = (t.column? b).isSome := by
  have hf : Column.isNamed a = Column.isNamed b := by
    funext c
    rw [Column.isNamed, Column.isNamed, sameAsciiCase, sameAsciiCase, sameAsciiCase_iff.mp h]
  rw [column?, column?, hf]

theorem Untyped.addColumn {c : Column} (h : t.Untyped) (hc : c.canonical = none) :
    (t.addColumn c).Untyped :=
  List.forall_mem_append.mpr ⟨h, by simpa using hc⟩

theorem Untyped.markKey (h : t.Untyped) (name : String) : (t.markKey name).Untyped := by
  have hf : ∀ cs : List Column, (∀ c ∈ cs, c.canonical = none) →
      ∀ c ∈ markFirst name cs, c.canonical = none := by
    intro cs hcs
    induction cs
    case nil => exact hcs
    case cons c cs hi =>
      have ⟨hc, hcs⟩ := List.forall_mem_cons.mp hcs
      unfold markFirst
      split
      case isTrue => exact List.forall_mem_cons.mpr ⟨hc, hcs⟩
      case isFalse => exact List.forall_mem_cons.mpr ⟨hc, hi hcs⟩
  exact hf t.columns h

theorem Untyped.markKeys (h : t.Untyped) (names : List String) :
    (names.foldl Table.markKey t).Untyped := by
  induction names generalizing t
  case nil => exact h
  case cons name names hi => exact hi (h.markKey name)

end Table

namespace Schema

def NeverUnknown (s : Schema) : Prop :=
  ∀ t ∈ s.tables, t.NeverUnknown

theorem NeverUnknown.empty : empty.NeverUnknown := by
  simp [NeverUnknown, Schema.empty]

theorem NeverUnknown.add {s : Schema} {t : Table} (h : s.NeverUnknown) (ht : t.NeverUnknown) :
    (s.add t).NeverUnknown := by
  intro u hu
  rcases List.mem_append.mp hu with hu | hu
  · exact h u ((List.mem_filter.mp hu).1)
  · exact List.mem_singleton.mp hu ▸ ht

end Schema

namespace Ddl

namespace ColumnReading

-- What neither options nor the names of types change.
def origin (c : Column) : String × String × Option CanonicalType :=
  (c.name, c.sourceType, c.canonical)

variable (c : Column)

theorem origin_markSerial : origin (markSerial c) = origin c := by
  unfold markSerial
  split <;> rfl

theorem origin_applyOption (o : Sql.ColumnOption) : origin (applyOption c o) = origin c := by
  fun_cases applyOption c o <;> rfl

theorem origin_options (options : List Sql.ColumnOption) :
    origin (options.foldl applyOption c) = origin c := by
  induction options generalizing c
  case nil => rfl
  case cons o options hi => exact (hi _).trans (origin_applyOption c o)

theorem origin_ofDefinition (definition : Sql.ColumnDefinition) :
    origin (ofDefinition definition) = (definition.name.value, definition.type, none) := by
  unfold ofDefinition
  dsimp only
  split
  case isTrue => exact (origin_options _ _).trans (origin_markSerial _)
  case isFalse => exact (origin_options _ _).trans (origin_markSerial _)

theorem ofDefinition_canonical (definition : Sql.ColumnDefinition) :
    (ofDefinition definition).canonical = none :=
  congrArg (·.2.2) (origin_ofDefinition definition)

end ColumnReading

namespace TableReading

open Diagnostics

theorem addColumns_untyped {t : Table} {cs : List Column} (h : t.Untyped)
    (hcs : ∀ c ∈ cs, c.canonical = none) : (addColumns t cs).1.Untyped := by
  induction cs generalizing t
  case nil => exact h
  case cons c cs hi =>
    have ⟨hc, hcs⟩ := List.forall_mem_cons.mp hcs
    unfold addColumns
    split
    case isTrue => exact hi h hcs
    case isFalse =>
      split
      case isTrue => exact hi h hcs
      case isFalse => exact hi (h.addColumn hc) hcs

theorem addColumns_errors {t : Table} {cs : List Column} {x : Diagnostic}
    (h : x ∈ (addColumns t cs).2) : ∃ message location, x = error message location := by
  induction cs generalizing t
  case nil => simp [addColumns] at h
  case cons c cs hi =>
    unfold addColumns at h
    split at h
    case isTrue =>
      rcases List.mem_cons.mp h with rfl | h
      · exact ⟨_, _, rfl⟩
      · exact hi h
    case isFalse =>
      split at h
      case isTrue =>
        rcases List.mem_cons.mp h with rfl | h
        · exact ⟨_, _, rfl⟩
        · exact hi h
      case isFalse => exact hi h

theorem markKeys_errors {t : Table} {names : List String} {x : Diagnostic}
    (h : x ∈ (markKeys t names).2) : ∃ message location, x = error message location := by
  obtain ⟨name, _, rfl⟩ := List.mem_map.mp h
  exact ⟨_, _, rfl⟩

theorem ofDefinition_untyped {definition : Sql.TableDefinition} {line : Nat} {t : Table}
    (h : ofDefinition definition line = .ok t) : t.Untyped := by
  unfold ofDefinition at h
  dsimp only at h
  split at h
  case isTrue => contradiction
  split at h
  case isTrue => contradiction
  split at h
  case h_2 => contradiction
  cases h
  apply Table.Untyped.markKeys
  apply addColumns_untyped
  case h => simp [Table.Untyped]
  case hcs => simp [ColumnReading.ofDefinition_canonical]

theorem ofDefinition_refusal {definition : Sql.TableDefinition} {line : Nat} {errors : Diagnostics}
    (h : ofDefinition definition line = .error errors) : Refusal errors := by
  unfold ofDefinition at h
  dsimp only at h
  split at h
  case isTrue => cases h; exact .single rfl rfl
  split at h
  case isTrue => cases h; exact .single rfl rfl
  split at h
  case h_1 => contradiction
  case h_2 hn =>
    cases h
    refine ⟨hn, ?_, ?_⟩
    all_goals
      intro x hx
      obtain ⟨_, _, rfl⟩ : ∃ message location, x = error message location :=
        (List.mem_append.mp hx).elim addColumns_errors markKeys_errors
      rfl

end TableReading

namespace Reading

open Diagnostics

-- What holds of a reading after every statement.
structure Sound (r : Reading) : Prop where
  schema : r.schema.NeverUnknown
  diagnostics : OfKind .parse r.diagnostics

variable {r : Reading}

theorem Sound.skip (h : r.Sound) (line : Nat) (message : String) : (r.skip line message).Sound where
  schema := h.schema
  diagnostics := h.diagnostics.append (.single rfl)

theorem Sound.addTable {t : Table} (h : r.Sound) (line : Nat) (ht : t.Untyped) :
    (r.addTable line t).Sound where
  schema := h.schema.add ht.neverUnknown
  diagnostics := by
    apply h.diagnostics.append
    split
    case isTrue => exact .single rfl
    case isFalse => exact .nil

theorem Sound.addStatement (h : r.Sound) (line : Nat) (s : Sql.Statement) :
    (r.addStatement line s).Sound := by
  cases s
  case other word => exact h.skip line _
  case createTable definition =>
    unfold Reading.addStatement
    dsimp only
    split
    case isTrue => exact h.skip line _
    split
    case h_1 t ht => exact h.addTable line (TableReading.ofDefinition_untyped ht)
    case h_2 errors he =>
      exact ⟨h.schema, h.diagnostics.append (TableReading.ofDefinition_refusal he).ofKind⟩

theorem Sound.addStatements (h : r.Sound) (line : Nat) (ss : List Sql.Statement) :
    (ss.foldl (Reading.addStatement line) r).Sound := by
  induction ss generalizing r
  case nil => exact h
  case cons s ss hi => exact hi (h.addStatement line s)

theorem Sound.addText (h : r.Sound) (parse : StatementParser) (s : ScriptStatement) :
    (r.addText parse s).Sound := by
  unfold Reading.addText
  split
  case h_1 cause _ => exact h.skip s.line (rejectedText cause)
  case h_2 ss _ => exact h.addStatements s.line ss

theorem Sound.addTexts (h : r.Sound) (parse : StatementParser) (ss : List ScriptStatement) :
    (ss.foldl (Reading.addText parse) r).Sound := by
  induction ss generalizing r
  case nil => exact h
  case cons s ss hi => exact hi (h.addText parse s)

theorem emptyError_ofKind : OfKind .parse r.emptyError := by
  unfold emptyError
  split
  case isTrue => exact .single rfl
  case isFalse => exact .nil

theorem hasErrors_of_isEmpty (h : r.schema.isEmpty) :
    (r.diagnostics ++ r.emptyError).hasErrors := by
  rw [hasErrors, List.any_append]
  cases he : r.diagnostics.hasErrors
  case true => exact Bool.or_eq_true_iff.mpr (.inl he)
  case false =>
    have hn : (r.schema.isEmpty && !r.diagnostics.hasErrors) = true := by simp [h, he]
    rw [emptyError, if_pos hn]
    exact Bool.or_eq_true_iff.mpr (.inr rfl)

end Reading

end Ddl

-- What holds of an input that was read, whatever it is.
structure Schema.WellRead (s : Schema) (found : Diagnostics) : Prop where
  neverUnknown : s.NeverUnknown
  ofKind : found.OfKind .parse
  hasErrors_of_isEmpty : s.isEmpty → found.hasErrors

namespace Ddl

theorem read_wellRead (parse : StatementParser) (d : Dialect) (script : List Char) :
    (read parse d script).1.WellRead (read parse d script).2 := by
  have h : ((Script.statementsOf d script).foldl (Reading.addText parse) {}).Sound :=
    Reading.Sound.addTexts ⟨.empty, .nil⟩ parse _
  exact ⟨h.schema, h.diagnostics.append Reading.emptyError_ofKind, Reading.hasErrors_of_isEmpty⟩

theorem readBytes_wellRead (parse : StatementParser) (d : Dialect) (bytes : List UInt8) :
    (readBytes parse d bytes).1.WellRead (readBytes parse d bytes).2 := by
  unfold readBytes
  split
  case h_1 => exact ⟨.empty, .single rfl, fun _ => rfl⟩
  case h_2 => exact read_wellRead parse d _

end Ddl

namespace Csv

open Diagnostics

theorem addColumns_errors (t : Table) (cells : List HeaderCell) :
    OfKind .parse (addColumns t cells).2 ∧ ∀ x ∈ (addColumns t cells).2, x.isError := by
  induction cells generalizing t
  case nil => simp [addColumns, OfKind]
  case cons cell cells hi =>
    unfold addColumns
    split
    case isTrue => exact ⟨(hi t).1.cons rfl, List.forall_mem_cons.mpr ⟨rfl, (hi t).2⟩⟩
    case isFalse =>
      split
      case isTrue => exact ⟨(hi t).1.cons rfl, List.forall_mem_cons.mpr ⟨rfl, (hi t).2⟩⟩
      case isFalse => exact hi _

theorem tableOfHeader_refusal {name : String} {cells : List (List Char)} {errors : Diagnostics}
    (h : tableOfHeader name cells = .error errors) : Refusal errors := by
  unfold tableOfHeader at h
  split at h
  case isTrue => cases h; exact .single rfl rfl
  split at h
  case h_1 => contradiction
  case h_2 t found hn heq =>
    cases h
    have he := addColumns_errors ⟨name, [], some headerLine⟩ (HeaderCell.numbered cells)
    rw [heq] at he
    exact ⟨hn, he.1, he.2⟩

theorem readHeader_refusal {name : String} {records : List RawRecord} {errors : Diagnostics}
    (h : readHeader name records = .error errors) : Refusal errors := by
  unfold readHeader at h
  split at h
  case h_1 => exact tableOfHeader_refusal h
  case h_2 header _ =>
    split at h
    case h_1 => cases h; exact .single rfl rfl
    case h_2 => exact tableOfHeader_refusal h

theorem observeRecords_refusal {name : String} {evidence : List Evidence} {records : List RawRecord}
    {errors : Diagnostics} (h : observeRecords name evidence records = .error errors) :
    Refusal errors := by
  induction records generalizing evidence
  case nil => contradiction
  case cons record records hi =>
    unfold observeRecords at h
    split at h
    case h_1 => cases h; exact .single rfl rfl
    case h_2 => exact hi h

theorem readTable_refusal {o : Options} {name : String} {records : List RawRecord}
    {errors : Diagnostics} (h : readTable o name records = .error errors) : Refusal errors := by
  unfold readTable at h
  split at h
  case h_1 hr => cases h; exact readHeader_refusal hr
  split at h
  case h_1 ho => cases h; exact observeRecords_refusal ho
  case h_2 => contradiction

theorem Evidence.canonical_ne_unknown (e : Evidence) : e.canonical ≠ .unknown := by
  unfold canonical
  split_ifs <;> simp

theorem setTypes_neverUnknown (t : Table) (evidence : List Evidence) :
    (setTypes t evidence).NeverUnknown := by
  intro c hc
  obtain ⟨i, hi, rfl⟩ := List.getElem_of_mem hc
  simp [setTypes, setType, Evidence.canonical_ne_unknown]

theorem readTable_neverUnknown {o : Options} {name : String} {records : List RawRecord} {t : Table}
    (h : readTable o name records = .ok t) : t.NeverUnknown := by
  unfold readTable at h
  split at h
  case h_1 => contradiction
  split at h
  case h_1 => contradiction
  cases h
  exact setTypes_neverUnknown _ _

theorem read_wellRead (o : Options) (source : String) (bytes : List UInt8) :
    (read o source bytes).1.WellRead (read o source bytes).2 := by
  unfold read readRecords
  split
  case h_1 errors h =>
    have hr : Refusal errors := readTable_refusal h
    exact ⟨.empty, hr.ofKind, fun _ => hr.hasErrors⟩
  case h_2 t h =>
    refine ⟨.add .empty (readTable_neverUnknown h), .nil, ?_⟩
    simp [Schema.isEmpty, Schema.add]

end Csv

theorem Schema.ofBytesWith_wellRead (parse : Ddl.StatementParser) (kind : InputKind) (d : Dialect)
    (o : Csv.Options) (source : String) (bytes : List UInt8) :
    (ofBytesWith parse kind d o source bytes).1.WellRead
      (ofBytesWith parse kind d o source bytes).2 := by
  cases kind
  case ddl => exact Ddl.readBytes_wellRead parse d bytes
  case csv => exact Csv.read_wellRead o source bytes

namespace Schema

variable {kind : InputKind} {d : Dialect} {o : Csv.Options} {source : String} {bytes : List UInt8}
  {s : Schema} {errors : Diagnostics}

theorem ofBytes_wellRead (kind : InputKind) (d : Dialect) (o : Csv.Options) (source : String)
    (bytes : List UInt8) :
    (ofBytes kind d o source bytes).1.WellRead (ofBytes kind d o source bytes).2 :=
  ofBytesWith_wellRead (Sql.Statement.ofChars d) kind d o source bytes

-- Either there are tables and all their types are known or open, or something is wrong.
theorem ofBytesStrict_ok (h : ofBytesStrict kind d o source bytes = .ok s) :
    s.isEmpty = false ∧ s.NeverUnknown := by
  have hw := ofBytes_wellRead kind d o source bytes
  unfold ofBytesStrict at h
  obtain ⟨found, ds⟩ := ofBytes kind d o source bytes
  dsimp only at h hw
  split_ifs at h with he
  cases h
  exact ⟨Bool.eq_false_iff.mpr (mt hw.hasErrors_of_isEmpty he), hw.neverUnknown⟩

theorem ofBytesStrict_error (h : ofBytesStrict kind d o source bytes = .error errors) :
    Diagnostics.Refusal errors := by
  have hw := ofBytes_wellRead kind d o source bytes
  unfold ofBytesStrict at h
  obtain ⟨found, ds⟩ := ofBytes kind d o source bytes
  dsimp only at h hw
  split_ifs at h with he
  cases h
  exact hw.ofKind.refusal he

end Schema

end TypedRows
