import TypedRows.Proofs.Generation.Reading

namespace TypedRows

open Text

namespace Csv

def isBlankCell (cell : List Char) : Bool :=
  (trimChars cell).isEmpty

-- The column that a header cell names.
def nameOfCell (cell : List Char) : String :=
  Identifier.sanitize (String.ofList (trimChars cell))

-- Whether a cell names a column that one of the cells before it names too.
def isRepeated (before : List (List Char)) (cell : List Char) : Bool :=
  !isBlankCell cell &&
    before.any fun b => !isBlankCell b && sameAsciiCase (nameOfCell b) (nameOfCell cell)

def blankError (table : String) (number : Nat) : Diagnostic :=
  headerError table ("CSV header cell " ++ toString number ++ " is empty")

def repeatedError (table : String) (cell : List Char) : Diagnostic :=
  .error .parse ("Duplicate CSV header '" ++ String.ofList (trimChars cell) ++ "'")
    (.ofColumn table (nameOfCell cell) (some headerLine))

-- What is wrong with a cell that stands after others.
def cellError? (table : String) (before : List (List Char)) (cell : List Char) :
    Option Diagnostic :=
  if isBlankCell cell then some (blankError table (before.length + 1))
  else if isRepeated before cell then some (repeatedError table cell)
  else none

def headerErrors (table : String) (header : List (List Char)) : Diagnostics :=
  (header.mapIdx fun i cell => cellError? table (header.take i) cell).filterMap id

-- How many of the cells are repetitions.
def repetitions (header : List (List Char)) : Nat :=
  (header.mapIdx fun i cell => isRepeated (header.take i) cell).count true

-- The cells of a column.
def columnCells (rows : List (List (List Char))) (i : Nat) : List (List Char) :=
  rows.filterMap (·[i]?)

def inferredColumn (cell : List Char) (values : List (List Char)) : Column where
  name := nameOfCell cell
  sourceType := (Evidence.ofCells values).canonical.render
  canonical := some (Evidence.ofCells values).canonical
  nullable := true
  primaryKey := false

def Distinct (t : Table) : Prop :=
  t.columns.Pairwise fun a b => ¬sameAsciiCase a.name b.name

-- A table that says what header and sampled records say.
structure ReadFrom (t : Table) (o : Options) (source : String) (records : List RawRecord)
    (header : List (List Char)) (rows : List (List (List Char))) : Prop where
  head : ∃ first ∈ records.head?, first.decode = .ok header
  tail : (records.tail.take o.sampleRows).map RawRecord.decode = rows.map .ok
  width : ∀ row ∈ rows, row.length = header.length
  name : t.name = Identifier.tableName source
  columns : t.columns = header.mapIdx fun i cell => inferredColumn cell (columnCells rows i)
  distinct : Distinct t
  known : t.NeverUnknown

section Header

variable {t : Table} {before cells header : List (List Char)} {cell : List Char} {name : String}
  {number : Nat} {rest : List HeaderCell}

theorem addColumns_blank (hb : isBlankCell cell) :
    addColumns t (⟨number, trimChars cell⟩ :: rest) =
      ((addColumns t rest).1, blankError t.name number :: (addColumns t rest).2) := by
  rw [addColumns]
  exact if_pos hb

theorem addColumns_repeated (hb : isBlankCell cell = false)
    (hr : (t.column? (nameOfCell cell)).isSome) :
    addColumns t (⟨number, trimChars cell⟩ :: rest) =
      ((addColumns t rest).1, repeatedError t.name cell :: (addColumns t rest).2) := by
  have hb : ¬(trimChars cell).isEmpty := by simpa [isBlankCell] using hb
  rw [addColumns, if_neg hb]
  exact if_pos hr

theorem addColumns_new (hb : isBlankCell cell = false)
    (hr : (t.column? (nameOfCell cell)).isSome = false) :
    addColumns t (⟨number, trimChars cell⟩ :: rest) =
      addColumns (t.addColumn { name := nameOfCell cell, sourceType := "csv" }) rest := by
  have hb : ¬(trimChars cell).isEmpty := by simpa [isBlankCell] using hb
  rw [addColumns, if_neg hb]
  exact if_neg (Bool.eq_false_iff.mp hr)

-- The columns of a table are the ones that the cells before have named.
def Names (before : List (List Char)) (t : Table) : Prop :=
  ∀ name, (t.column? name).isSome ↔
    ∃ b ∈ before, isBlankCell b = false ∧ sameAsciiCase (nameOfCell b) name

theorem Names.isRepeated_eq (h : Names before t) (hb : isBlankCell cell = false) :
    isRepeated before cell = (t.column? (nameOfCell cell)).isSome := by
  rw [Bool.eq_iff_iff, h]
  simp [isRepeated, hb]

theorem Names.blank (h : Names before t) (hb : isBlankCell cell) : Names (before ++ [cell]) t := by
  intro name
  simp [h name, or_and_right, exists_or, hb]

theorem Names.repeated (h : Names before t) (hr : (t.column? (nameOfCell cell)).isSome) :
    Names (before ++ [cell]) t := by
  intro name
  rw [h name]
  constructor
  case mp => exact fun ⟨b, hb, hn⟩ => ⟨b, List.mem_append_left _ hb, hn⟩
  case mpr =>
    rintro ⟨b, hb, hv, hs⟩
    rcases List.mem_append.mp hb with hb | hb
    case inl => exact ⟨b, hb, hv, hs⟩
    case inr =>
      obtain rfl := List.mem_singleton.mp hb
      exact (h name).mp (Table.column?_isSome_congr hs ▸ hr)

theorem Names.new (h : Names before t) (hb : isBlankCell cell = false) (sourceType : String) :
    Names (before ++ [cell])
      (t.addColumn { name := nameOfCell cell, sourceType := sourceType }) := by
  intro name
  simp only [Table.column?_addColumn_isSome, h name, List.mem_append, List.mem_singleton,
    or_and_right, exists_or, exists_eq_left, hb, true_and]

-- The cells from the one after `before` on.
def numberedAfter (before cells : List (List Char)) : List HeaderCell :=
  cells.mapIdx fun i cell => ⟨before.length + i + 1, trimChars cell⟩

def errorsAfter (name : String) (before cells : List (List Char)) : Diagnostics :=
  (cells.mapIdx fun i cell => cellError? name (before ++ cells.take i) cell).filterMap id

theorem numberedAfter_cons (before cells : List (List Char)) (cell : List Char) :
    numberedAfter before (cell :: cells) =
      ⟨before.length + 1, trimChars cell⟩ :: numberedAfter (before ++ [cell]) cells := by
  simp [numberedAfter, List.mapIdx_cons, Nat.add_assoc, Nat.add_comm 1]

theorem errorsAfter_cons (name : String) (before cells : List (List Char)) (cell : List Char) :
    errorsAfter name before (cell :: cells) =
      (cellError? name before cell).toList ++ errorsAfter name (before ++ [cell]) cells := by
  simp only [errorsAfter, List.mapIdx_cons, List.take_zero, List.append_nil, List.take_succ_cons,
    List.append_assoc, List.singleton_append]
  cases cellError? name before cell <;> rfl

-- By the cells: each one is looked up among the columns that the ones before it have left.
theorem addColumns_numberedAfter (h : Names before t) :
    (addColumns t (numberedAfter before cells)).2 = errorsAfter t.name before cells := by
  induction cells generalizing before t
  case nil => rfl
  case cons cell cells hi =>
    rw [numberedAfter_cons, errorsAfter_cons, cellError?]
    cases hb : isBlankCell cell
    case true =>
      rw [if_pos rfl, addColumns_blank hb, hi (h.blank hb)]
      rfl
    case false =>
      rw [if_neg Bool.false_ne_true, h.isRepeated_eq hb]
      cases hr : (t.column? (nameOfCell cell)).isSome
      case true =>
        rw [if_pos rfl, addColumns_repeated hb hr, hi (h.repeated hr)]
        rfl
      case false =>
        rw [if_neg Bool.false_ne_true, addColumns_new hb hr, hi (h.new hb "csv")]
        rfl

theorem errorsAfter_nil (name : String) (header : List (List Char)) :
    errorsAfter name [] header = headerErrors name header := by
  simp only [errorsAfter, headerErrors, List.nil_append]

theorem headerErrors_length (name : String) (header : List (List Char)) :
    (headerErrors name header).length = header.countP isBlankCell + repetitions header := by
  refine Diagnostics.length_judged (cellError? name) isRepeated ?hj ?hb header
  case hj =>
    intro before cell
    unfold cellError?
    cases isBlankCell cell <;> cases isRepeated before cell <;> rfl
  case hb =>
    intro before cell hb
    simp [isRepeated, hb]

theorem addColumns_of_eq_nil (h : (addColumns t rest).2 = []) :
    (addColumns t rest).1.columns =
      t.columns ++ rest.map fun c => { name := c.columnName, sourceType := "csv" } := by
  induction rest generalizing t
  case nil => exact (List.append_nil _).symm
  case cons c rest hi =>
    unfold addColumns at h ⊢
    split_ifs at h ⊢
    rw [hi h, Table.addColumn, List.append_assoc]
    rfl

theorem addColumns_distinct (h : Distinct t) (rest : List HeaderCell) :
    Distinct (addColumns t rest).1 := by
  induction rest generalizing t
  case nil => exact h
  case cons c rest hi =>
    unfold addColumns
    split_ifs with hb hr
    case pos => exact hi h
    case pos => exact hi h
    case neg =>
      have hn : ∀ a ∈ t.columns, ¬sameAsciiCase a.name c.columnName := by
        simpa [Table.column?, Column.isNamed] using hr
      exact hi (List.pairwise_append.mpr ⟨h, List.pairwise_singleton _ _, by simpa using hn⟩)

theorem addColumns_name (t : Table) (rest : List HeaderCell) :
    (addColumns t rest).1.name = t.name := by
  induction rest generalizing t
  case nil => rfl
  case cons c rest hi =>
    unfold addColumns
    split_ifs
    case pos => exact hi t
    case pos => exact hi t
    case neg => exact hi _

theorem tableOfHeader_problems (hb : header.all isBlankCell = false) :
    tableOfHeader name header =
      match headerErrors name header with
      | [] => .ok (addColumns { name := name, line := some headerLine }
          (HeaderCell.numbered header)).1
      | errors => .error errors := by
  have hn : Names [] { name := name, line := some headerLine } := by
    intro name
    simp [Table.column?]
  have he : (addColumns { name := name, line := some headerLine }
      (HeaderCell.numbered header)).2 = headerErrors name header := by
    rw [← errorsAfter_nil, ← addColumns_numberedAfter hn]
    simp [numberedAfter, HeaderCell.numbered]
  have hb : ¬(header.all fun cell => (trimChars cell).isEmpty) := Bool.eq_false_iff.mp hb
  rw [tableOfHeader, if_neg hb, ← he]
  generalize addColumns _ _ = result
  obtain ⟨t, _ | ⟨x, errors⟩⟩ := result <;> rfl

theorem tableOfHeader_ok (h : tableOfHeader name header = .ok t) :
    t.name = name ∧ Distinct t ∧
      t.columns = header.map fun cell => { name := nameOfCell cell, sourceType := "csv" } := by
  unfold tableOfHeader at h
  split_ifs at h with hb
  split at h
  case h_2 => contradiction
  case h_1 found heq =>
    obtain rfl := Except.ok.inj h
    have ht : (addColumns { name := name, line := some headerLine }
        (HeaderCell.numbered header)).1 = found := congrArg Prod.fst heq
    have hs : Distinct { name := name, line := some headerLine } := List.Pairwise.nil
    rw [← ht]
    refine ⟨addColumns_name _ _, addColumns_distinct hs _, ?_⟩
    rw [addColumns_of_eq_nil (congrArg Prod.snd heq), HeaderCell.numbered, List.nil_append]
    apply List.ext_getElem
    case hl => simp
    case h => simp [HeaderCell.columnName, nameOfCell]

end Header

section Rows

variable {e : Evidence} {evidence found : List Evidence} {records : List RawRecord} {r : RawRecord}
  {rows : List (List (List Char))} {cells : List (List Char)} {name : String} {n : Nat}

theorem decodeFrom_length {fields : List (List UInt8)}
    (h : RawRecord.decodeFrom n fields = .ok cells) : cells.length = fields.length := by
  induction fields generalizing n cells
  case nil => rw [← Except.ok.inj h]; rfl
  case cons field fields hi =>
    unfold RawRecord.decodeFrom at h
    split at h
    case h_1 => contradiction
    case h_2 cell _ =>
      cases hd : RawRecord.decodeFrom (n + 1) fields
      case error => rw [hd] at h; contradiction
      case ok rest =>
        rw [hd] at h
        rw [← Except.ok.inj h, List.length_cons, List.length_cons, hi hd]

theorem cells_ok (h : r.cells n = .ok cells) : r.decode = .ok cells ∧ cells.length = n := by
  unfold RawRecord.cells at h
  split_ifs at h with hn
  exact ⟨h, (decodeFrom_length h).trans hn⟩

-- Evidence stays in the places of the columns, since all records are as long as it is.
theorem observeRecords_ok (h : observeRecords name evidence records = .ok found) :
    ∃ rows, records.map RawRecord.decode = rows.map .ok ∧
      (∀ row ∈ rows, row.length = evidence.length) ∧
      found = evidence.mapIdx fun i e => (columnCells rows i).foldl Evidence.observe e := by
  induction records generalizing evidence
  case nil =>
    rw [← Except.ok.inj h]
    refine ⟨[], rfl, by simp, ?_⟩
    apply List.ext_getElem
    case hl => simp
    case h => simp [columnCells]
  case cons record records hi =>
    unfold observeRecords at h
    split at h
    case h_1 => contradiction
    case h_2 cells hc =>
      obtain ⟨hd, hl⟩ := cells_ok hc
      obtain ⟨rows, hr, hw, rfl⟩ := hi h
      have hz : (evidence.zipWith Evidence.observe cells).length = evidence.length := by
        rw [List.length_zipWith, hl, Nat.min_self]
      refine ⟨cells :: rows, by rw [List.map_cons, List.map_cons, hd, hr], ?_, ?_⟩
      case refine_1 => exact List.forall_mem_cons.mpr ⟨hl, fun row hrow => (hw row hrow).trans hz⟩
      case refine_2 =>
        apply List.ext_getElem
        case hl => rw [List.length_mapIdx, List.length_mapIdx, hz]
        case h =>
          intro i hi hi'
          rw [List.length_mapIdx] at hi'
          have hc : columnCells (cells :: rows) i = cells[i] :: columnCells rows i :=
            List.filterMap_cons_some (List.getElem?_eq_getElem (hl ▸ hi'))
          rw [List.getElem_mapIdx, List.getElem_mapIdx, List.getElem_zipWith, hc, List.foldl_cons]

end Rows

section Reading

open Diagnostics

variable {o : Options} {source name : String} {records : List RawRecord} {first : RawRecord}
  {t : Table} {header : List (List Char)}

theorem setTypes_names (t : Table) {evidence : List Evidence}
    (hl : t.columns.length = evidence.length) :
    (setTypes t evidence).columns.map (·.name) = t.columns.map (·.name) := by
  apply List.ext_getElem
  case hl => simp [setTypes, hl]
  case h => simp [setTypes, setType]

theorem readTable_readFrom (h : readTable o (Identifier.tableName source) records = .ok t) :
    ∃ header rows, ReadFrom t o source records header rows := by
  have hk := readTable_neverUnknown h
  unfold readTable readHeader at h
  rcases records with _ | ⟨first, records⟩
  case nil => simp [tableOfHeader] at h
  case cons =>
    cases hd : first.decode
    case error => simp [hd] at h
    case ok header =>
      simp only [hd] at h
      split at h
      case h_1 => contradiction
      case h_2 u hu =>
        split at h
        case h_1 => contradiction
        case h_2 evidence he =>
          obtain rfl := Except.ok.inj h
          obtain ⟨hn, hp, hc⟩ := tableOfHeader_ok hu
          obtain ⟨rows, hr, hw, hv⟩ := observeRecords_ok he
          have hl : u.columns.length = header.length := by rw [hc, List.length_map]
          have hz : u.columns.length = evidence.length := by simp [hv]
          refine ⟨header, rows, ⟨first, rfl, hd⟩, hr, ?_, hn, ?_, ?_, hk⟩
          case refine_1 => exact fun row hrow => by rw [hw row hrow, List.length_map, hl]
          case refine_2 =>
            apply List.ext_getElem
            case hl => simp [setTypes, ← hz, hl]
            case h => simp [setTypes, setType, hc, hv, inferredColumn, Evidence.ofCells]
          case refine_3 =>
            have hd : (u.columns.map (·.name)).Pairwise fun a b => ¬sameAsciiCase a b :=
              List.pairwise_map.mpr hp
            rw [← setTypes_names u hz] at hd
            exact List.pairwise_map.mp hd

theorem readTable_headerErrors (hf : records.head? = some first) (hd : first.decode = .ok header)
    (hb : header.all isBlankCell = false) (he : headerErrors name header ≠ []) :
    readTable o name records = .error (headerErrors name header) := by
  obtain ⟨rest, rfl⟩ := List.head?_eq_some_iff.mp hf
  simp only [readTable, readHeader, hd, tableOfHeader_problems hb]

-- One table and no problem, or errors only. A header with blank or repeated cells brings one error
-- for each of them.
theorem read_tabulates (o : Options) (source : String) (bytes : List UInt8) :
    let records := RawRecord.ofBytes o.delimiter (Utf8.dropByteOrderMark bytes)
    let schema := (read o source bytes).1
    let found := (read o source bytes).2
    ((∃ t header rows, schema.tables = [t] ∧ found = [] ∧ ReadFrom t o source records header rows) ∨
      schema.tables = [] ∧ found ≠ [] ∧ ∀ x ∈ found, x.isError) ∧
    ∀ header, (∃ first ∈ records.head?, first.decode = .ok header) →
      (∃ cell ∈ header, isBlankCell cell = false) →
      (∃ cell ∈ header, isBlankCell cell) ∨ 0 < repetitions header →
      found = headerErrors (Identifier.tableName source) header ∧
        found.length = header.countP isBlankCell + repetitions header := by
  intro records schema found
  have hr : read o source bytes = readRecords o source records := rfl
  constructor
  case left =>
    dsimp only [schema, found]
    rw [hr, readRecords]
    cases h : readTable o (Identifier.tableName source) records
    case error errors =>
      have he : Refusal errors := readTable_refusal h
      exact .inr ⟨rfl, he.ne_nil, he.isError⟩
    case ok t =>
      obtain ⟨header, rows, ht⟩ := readTable_readFrom h
      exact .inl ⟨t, header, rows, rfl, rfl, ht⟩
  case right =>
    rintro header ⟨first, hf, hd⟩ ⟨cell, hc, hb⟩ hp
    have hl := headerErrors_length (Identifier.tableName source) header
    have hn : headerErrors (Identifier.tableName source) header ≠ [] := by
      rw [← List.length_pos_iff, hl]
      rcases hp with hp | hp
      case inl => have := List.countP_pos_iff.mpr hp; omega
      case inr => omega
    have ha : header.all isBlankCell = false := List.all_eq_false.mpr ⟨cell, hc, by simp [hb]⟩
    have he : found = headerErrors (Identifier.tableName source) header := by
      dsimp only [found]
      rw [hr, readRecords, readTable_headerErrors hf hd ha hn]
    exact ⟨he, he ▸ hl⟩

-- The lines `a` and `7`, and then the header `a,,A`, of which one cell is blank and one is a
-- repetition.
theorem read_tabulates_letters :
    (∃ t header rows, (read {} "letters.csv" [0x61, 0x0A, 0x37]).1.tables = [t] ∧
      ReadFrom t {} "letters.csv" (RawRecord.ofBytes 0x2C [0x61, 0x0A, 0x37]) header rows) ∧
    (read {} "letters.csv" [0x61, 0x2C, 0x2C, 0x41]).2.length = 2 := by
  constructor
  case left =>
    have hn : (read {} "letters.csv" [0x61, 0x0A, 0x37]).2 = [] := by decide +kernel
    obtain ⟨t, header, rows, ht, _, hr⟩ :=
      (read_tabulates {} "letters.csv" [0x61, 0x0A, 0x37]).1.resolve_right fun h => h.2.1 hn
    exact ⟨t, header, rows, ht, hr⟩
  case right =>
    have hd : ∃ first ∈ (RawRecord.ofBytes 0x2C [0x61, 0x2C, 0x2C, 0x41]).head?,
        first.decode = .ok [['a'], [], ['A']] := ⟨_, rfl, rfl⟩
    have hb : ∃ cell ∈ [['a'], [], ['A']], isBlankCell cell = false := ⟨['a'], by decide⟩
    have hp : ∃ cell ∈ [['a'], [], ['A']], isBlankCell cell := ⟨[], by decide⟩
    have hn : repetitions [['a'], [], ['A']] = 1 := by decide +kernel
    have h := (read_tabulates {} "letters.csv" [0x61, 0x2C, 0x2C, 0x41]).2 _ hd hb (.inl hp)
    rw [h.2, hn]
    rfl

end Reading
end Csv
end TypedRows
