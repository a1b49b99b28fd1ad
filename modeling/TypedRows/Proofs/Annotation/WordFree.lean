import Mathlib.Data.List.Infix
import TypedRows.Proofs.Annotation.Recovery

namespace TypedRows

namespace ColumnAnnotation

open Text

namespace Spelling

variable {a b cs : List Char}

-- Texts in which the word neither stands nor begins at the end.
-- Units are put together from such texts, so that the word is in a line only if it is in a name.
structure Sealed (cs : List Char) : Prop where
  free : ¬word <:+: cs
  last : ∀ c ∈ cs.getLast?, c ∉ "column".toList

theorem sealed_iff : Sealed cs ↔
    ¬word <:+: cs ∧ cs.getLast?.all fun c => !"column".toList.contains c := by
  constructor
  case mp =>
    rintro ⟨hf, hl⟩
    refine ⟨hf, ?_⟩
    cases hc : cs.getLast?
    case none => rfl
    case some c => simpa using hl c hc
  case mpr =>
    rintro ⟨hf, hl⟩
    refine ⟨hf, ?_⟩
    intro c hc
    rw [Option.mem_def.mp hc] at hl
    simpa using hl

instance : DecidablePred Sealed :=
  fun _ => decidable_of_iff _ sealed_iff.symm

theorem infix_append (h : word <:+: a ++ b) (ha : ∀ c ∈ a.getLast?, c ∉ "column".toList) :
    word <:+: a ∨ word <:+: b := by
  rcases List.infix_append_iff_ne_nil.mp h with h | h | ⟨x, y, hx, hy, hw, hxa, _⟩
  case inl => exact .inl h
  case inr.inl => exact .inr h
  case inr.inr =>
    obtain ⟨x, c, rfl⟩ := List.eq_nil_or_concat x |>.resolve_left hx
    have hc : c ∈ word.dropLast := by
      rw [hw, List.dropLast_append_of_ne_nil hy]
      simp
    have hl : a.getLast? = some c := by
      obtain ⟨front, rfl⟩ := hxa
      simp
    exact (ha c hl hc).elim

namespace Sealed

theorem append (ha : Sealed a) (hb : Sealed b) : Sealed (a ++ b) := by
  constructor
  case free => exact fun h => (infix_append h ha.last).elim ha.free hb.free
  case last =>
    intro c hc
    rw [List.getLast?_append] at hc
    cases hl : b.getLast?
    case none => rw [hl] at hc; exact ha.last c hc
    case some x => rw [hl] at hc; exact hb.last c (hl ▸ hc)

theorem of_forall (h : ∀ c ∈ cs, c ∉ word) : Sealed cs := by
  constructor
  case free => exact fun hw => h 'c' (hw.subset (by decide)) (by decide)
  case last => exact fun c hl hc => h c (List.mem_of_getLast? hl) (List.mem_append_left [' '] hc)

-- Marks around a text keep the word from being made of it and what stands beside it.
theorem marked {q : Char} (hq : q ∉ word) (h : ¬word <:+: cs) : Sealed (q :: cs ++ [q]) := by
  have hm : Sealed [q] := of_forall (by simpa using hq)
  constructor
  case free =>
    intro hw
    rcases List.infix_concat_iff.mp hw with hs | hi
    case inl =>
      have hl : (q :: cs ++ [q]).getLast? = some ' ' := by
        obtain ⟨front, hf⟩ := hs
        rw [← hf, List.getLast?_append]
        rfl
      rw [List.getLast?_concat, Option.some_inj] at hl
      exact hq (hl ▸ by decide)
    case inr => exact (infix_append (a := [q]) hi hm.last).elim hm.free h
  case last =>
    intro c hl
    rw [List.getLast?_concat] at hl
    exact hm.last c hl

end Sealed

-- Characters of the word that are kept, while others become texts without any.
def Keeps (f : Char → List Char) : Prop :=
  ∀ c, f c = [c] ∨ (f c ≠ [] ∧ ∀ x ∈ f c, x ∉ word)

theorem prefix_of_prefix_flatMap {f : Char → List Char} (hf : Keeps f) {w : List Char}
    (hw : ∀ c ∈ w, c ∈ word) (h : w <+: cs.flatMap f) : w <+: cs := by
  induction w generalizing cs
  case nil => exact List.nil_prefix
  case cons x w hi =>
    have ⟨hx, hw⟩ := List.forall_mem_cons.mp hw
    cases cs
    case nil => exact absurd h (by simp)
    case cons c cs =>
      rw [List.flatMap_cons] at h
      rcases hf c with hc | ⟨hn, hc⟩
      case inl =>
        rw [hc, List.singleton_append, List.cons_prefix_cons] at h
        exact List.cons_prefix_cons.mpr ⟨h.1, hi hw h.2⟩
      case inr =>
        obtain ⟨y, ys, hy⟩ := List.exists_cons_of_ne_nil hn
        rw [hy, List.cons_append, List.cons_prefix_cons] at h
        exact (hc y (hy ▸ List.mem_cons_self) (h.1 ▸ hx)).elim

theorem infix_of_infix_flatMap {f : Char → List Char} (hf : Keeps f)
    (h : word <:+: cs.flatMap f) : word <:+: cs := by
  induction cs
  case nil => exact h
  case cons c cs hi =>
    rcases hf c with hc | ⟨_, hc⟩
    case inl =>
      have hp : c :: cs.flatMap f = (c :: cs).flatMap f := by
        rw [List.flatMap_cons, hc, List.singleton_append]
      rw [← hp, List.infix_cons_iff, hp] at h
      rcases h with h | h
      case inl => exact (prefix_of_prefix_flatMap hf (fun _ hc => hc) h).isInfix
      case inr => exact List.infix_cons (hi h)
    case inr =>
      have hs : Sealed (f c) := .of_forall hc
      rw [List.flatMap_cons] at h
      exact List.infix_cons (hi ((infix_append h hs.last).resolve_left hs.free))

theorem first?_of_free (h : ¬word <:+: cs) : first? cs = none := by
  induction cs
  case nil => rfl
  case cons c cs hi =>
    have ho : ¬opening.isPrefixOf (c :: cs) := by
      intro hp
      have hw : word <+: opening := List.prefix_append word ['\x22']
      exact h (hw.trans (List.isPrefixOf_iff_prefix.mp hp)).isInfix
    have hs : atStart? (c :: cs) = none := by
      rw [atStart?_eq, afterOpening?, if_neg ho]
      rfl
    rw [first?, hs, hi (mt List.infix_cons h)]
    rfl

end Spelling

-- Texts in which the word does not stand.
def WordFree (s : String) : Prop :=
  ¬Spelling.word <:+: s.toList

instance : DecidablePred WordFree :=
  fun s => inferInstanceAs (Decidable (¬Spelling.word <:+: s.toList))

theorem found_of_wordFree {line : String} (h : WordFree line) : found line = [] := by
  rw [found, List.filterMap_eq_nil_iff]
  intro cs hc
  obtain ⟨piece, hp, rfl⟩ := List.mem_map.mp hc
  have hi : chomp piece <:+: line.toList := by
    apply List.IsInfix.trans _ ((splitAtChar_pieces line.toList).2 piece hp)
    unfold chomp
    split
    case isTrue => exact (List.dropLast_prefix piece).isInfix
    case isFalse => exact List.infix_rfl
  rw [find?, String.toList_ofList, Spelling.first?_of_free (fun hw => h (hw.trans hi))]
  rfl

-- Texts of which lines without the word are made.
def Sealed (s : String) : Prop :=
  Spelling.Sealed s.toList

instance : DecidablePred Sealed :=
  fun s => inferInstanceAs (Decidable (Spelling.Sealed s.toList))

namespace Sealed

variable {a b : String}

theorem wordFree (h : Sealed a) : WordFree a :=
  h.free

theorem append (ha : Sealed a) (hb : Sealed b) : Sealed (a ++ b) := by
  rw [Sealed, String.toList_append]
  exact Spelling.Sealed.append ha hb

theorem intercalate {items : List String} (ha : Sealed a) (h : ∀ x ∈ items, Sealed x) :
    Sealed (a.intercalate items) := by
  induction items
  case nil => exact .of_forall (by simp)
  case cons x items hi =>
    have ⟨hx, hs⟩ := List.forall_mem_cons.mp h
    cases items
    case nil => simpa using hx
    case cons y items =>
      have hc : a.intercalate (x :: y :: items) = x ++ a ++ a.intercalate (y :: items) := by
        simp
      exact hc ▸ (hx.append ha).append (hi hs)

end Sealed
end ColumnAnnotation

open ColumnAnnotation

namespace Dialect

variable (d : Dialect)

theorem quoteIdentifier_sealed {name : String} (h : WordFree name) :
    Sealed (d.quoteIdentifier name) := by
  have hq : d.quoteChar ∉ Spelling.word := by cases d <;> decide
  have hk : Spelling.Keeps fun c => if c = d.quoteChar then [d.quoteChar, d.quoteChar] else [c] := by
    intro c
    by_cases hc : c = d.quoteChar
    case pos => exact .inr (by simpa [hc] using hq)
    case neg => exact .inl (if_neg hc)
  rw [Sealed, quoteIdentifier, String.toList_ofList]
  exact .marked hq (mt (Spelling.infix_of_infix_flatMap hk) h)

theorem bindVariable_sealed (n : Nat) : Sealed (d.bindVariable n) := by
  have hd : Sealed (toString n) := by
    apply Spelling.Sealed.of_forall
    intro c hc hw
    rw [Nat.toString_eq_ofList_toDigits, String.toList_ofList] at hc
    have hn : Spelling.word.all (!·.isDigit) := by decide
    have hf := List.all_eq_true.mp hn c hw
    rw [Text.isDigit_of_mem hc] at hf
    contradiction
  cases d
  case postgresql => exact Sealed.append (by decide) hd
  case mysql => exact (by decide : Sealed "?")
  case sqlite => exact (by decide : Sealed "?")

end Dialect

namespace Statements

variable (d : Dialect) {t : Table} {columns : List Column}

section Columns

variable (hc : ∀ c ∈ columns, WordFree c.name)

include hc

theorem columnList_sealed : Sealed (columnList d columns) := by
  apply Sealed.intercalate (by decide)
  intro x hx
  obtain ⟨c, hm, rfl⟩ := List.mem_map.mp hx
  exact d.quoteIdentifier_sealed (hc c hm)

theorem equations_sealed (first : Nat) : ∀ x ∈ equations d first columns, Sealed x := by
  intro x hx
  obtain ⟨i, hi, rfl⟩ := List.mem_mapIdx.mp hx
  have hn : Sealed (d.quoteIdentifier columns[i].name) :=
    d.quoteIdentifier_sealed (hc _ (List.getElem_mem hi))
  exact (hn.append (by decide)).append (d.bindVariable_sealed _)

theorem keyFilter_sealed (first : Nat) : Sealed (keyFilter d first columns) :=
  .intercalate (by decide) (equations_sealed d hc first)

end Columns

variable (hn : WordFree t.name) (hc : ∀ c ∈ t.columns, WordFree c.name)

include hn hc

theorem selectAllOf_sealed : Sealed (selectAllOf d t) :=
  ((Sealed.append (by decide) (columnList_sealed d hc)).append (by decide)).append
    (d.quoteIdentifier_sealed hn)

theorem insertOf_sealed : Sealed (insertOf d t) := by
  have ht : Sealed ("INSERT INTO " ++ d.quoteIdentifier t.name) :=
    .append (by decide) (d.quoteIdentifier_sealed hn)
  unfold insertOf
  dsimp only
  split
  case h_1 => cases d <;> exact ht.append (by decide)
  case h_2 =>
    have hi : ∀ c ∈ t.columns.filter (!·.autoIncrement), WordFree c.name :=
      fun c hm => hc c (List.mem_filter.mp hm).1
    have hb : Sealed (", ".intercalate ((t.columns.filter (!·.autoIncrement)).mapIdx
        fun i _ => d.bindVariable (i + 1))) := by
      apply Sealed.intercalate (by decide)
      intro x hx
      obtain ⟨i, _, rfl⟩ := List.mem_mapIdx.mp hx
      exact d.bindVariable_sealed (i + 1)
    exact ((((ht.append (by decide)).append (columnList_sealed d hi)).append (by decide)).append
      hb).append (by decide)

theorem updateOf_sealed : ∀ x ∈ updateOf d t, Sealed x := by
  unfold updateOf
  split
  case h_1 => simp
  case h_2 =>
    have hi : ∀ c ∈ t.columns.filter (!·.primaryKey), WordFree c.name :=
      fun c hm => hc c (List.mem_filter.mp hm).1
    have hk : ∀ c ∈ t.primaryKey, WordFree c.name := fun c hm => hc c (List.mem_filter.mp hm).1
    rintro x ⟨⟩
    exact ((((Sealed.append (by decide) (d.quoteIdentifier_sealed hn)).append (by decide)).append
      (.intercalate (by decide) (equations_sealed d hi 1))).append (by decide)).append
        (keyFilter_sealed d hk _)

theorem selectByKey_sealed : ∀ x ∈ (ofTable d t).selectByKey, Sealed x := by
  have hk : ∀ c ∈ t.primaryKey, WordFree c.name := fun c hm => hc c (List.mem_filter.mp hm).1
  unfold ofTable
  dsimp only
  split
  case h_1 => simp
  case h_2 =>
    rintro x ⟨⟩
    exact ((selectAllOf_sealed d hn hc).append (by decide)).append (keyFilter_sealed d hk 1)

theorem updateByKey_sealed : ∀ x ∈ (ofTable d t).updateByKey, Sealed x := by
  unfold ofTable
  dsimp only
  split
  case h_1 => simp
  case h_2 => exact updateOf_sealed d hn hc

theorem deleteByKey_sealed : ∀ x ∈ (ofTable d t).deleteByKey, Sealed x := by
  have hk : ∀ c ∈ t.primaryKey, WordFree c.name := fun c hm => hc c (List.mem_filter.mp hm).1
  unfold ofTable
  dsimp only
  split
  case h_1 => simp
  case h_2 =>
    rintro x ⟨⟩
    exact ((Sealed.append (by decide) (d.quoteIdentifier_sealed hn)).append (by decide)).append
      (keyFilter_sealed d hk 1)

theorem named_sealed : ∀ p ∈ (ofTable d t).named, Sealed p.2 := by
  have ha : (ofTable d t).selectAll = selectAllOf d t := by
    unfold ofTable
    cases t.primaryKey <;> rfl
  have hi : (ofTable d t).insert = insertOf d t := by
    unfold ofTable
    cases t.primaryKey <;> rfl
  refine Layout.forall_named.mpr ⟨?_, ?_, ?_, ?_, ?_⟩
  · exact ha ▸ selectAllOf_sealed d hn hc
  · exact hi ▸ insertOf_sealed d hn hc
  · exact selectByKey_sealed d hn hc
  · exact updateByKey_sealed d hn hc
  · exact deleteByKey_sealed d hn hc

end Statements

theorem Language.php_stringLiteral_sealed {x : String} (h : WordFree x) :
    Sealed (Language.php.stringLiteral x) := by
  have hk : Spelling.Keeps fun c => if c = '\\' || c = '\x27' then ['\\', c] else [c] := by
    intro c
    by_cases hc : c = '\\' || c = '\x27'
    case pos =>
      have hw : c ∉ Spelling.word := by
        rcases Bool.or_eq_true_iff.mp hc with hc | hc <;> rw [of_decide_eq_true hc] <;> decide
      have hb : '\\' ∉ Spelling.word := by decide
      exact .inr (by simpa [hc] using ⟨hb, hw⟩)
    case neg => exact .inl (if_neg hc)
  rw [Sealed, Language.stringLiteral, String.toList_ofList]
  exact .marked (by decide) (mt (Spelling.infix_of_infix_flatMap hk) h)

theorem Layout.Php.constantLines_wordFree {table : String} {keys : List String} {s : Statements}
    (ht : WordFree table) (hk : ∀ x ∈ keys, WordFree x) (hs : ∀ p ∈ s.named, Sealed p.2) :
    ∀ line ∈ constantLines table keys s, WordFree line := by
  intro line hl
  rcases List.mem_append.mp hl with hl | hl
  case inl =>
    simp only [List.mem_cons, List.not_mem_nil, or_false] at hl
    rcases hl with rfl | rfl
    case inl =>
      exact (((Sealed.append (by decide) (Language.php_stringLiteral_sealed ht)).append
        (by decide))).wordFree
    case inr =>
      have hc : Sealed (commaSeparated (keys.map Language.php.stringLiteral)) := by
        apply Sealed.intercalate (by decide)
        intro x hx
        obtain ⟨key, hm, rfl⟩ := List.mem_map.mp hx
        exact Language.php_stringLiteral_sealed (hk key hm)
      exact ((Sealed.append (by decide) hc).append (by decide)).wordFree
  case inr =>
    obtain ⟨p, hp, rfl⟩ := List.mem_map.mp hl
    have hd : ∀ name ∈ statementNames, Sealed (Text.upper name) := by decide
    have hn : Sealed (Text.upper p.1) := hd p.1 (mem_named hp)
    exact ((((Sealed.append (by decide) hn).append (by decide)).append
      (Language.php_stringLiteral_sealed (hs p hp).wordFree)).append (by decide)).wordFree

theorem ColumnAnnotation.namesPlain_of_wordFree {names : List String}
    (h : ∀ x ∈ names, WordFree x) : NamesPlain names := by
  have hn : neighbourType? (names.map String.toList) = none := by
    induction names
    case nil => rfl
    case cons x names hi =>
      have ⟨hx, hs⟩ := List.forall_mem_cons.mp h
      have hw : ¬Spelling.word <:+ x.toList := fun hw => hx hw.isInfix
      cases names
      case nil => rfl
      case cons y names =>
        rw [List.map_cons, List.map_cons, neighbourType?, if_neg hw, Option.none_or]
        exact hi hs
  rw [NamesPlain, hn]
  rfl

-- Tables of which no name holds the word.
structure Table.IsWordFree (t : Table) : Prop where
  name : WordFree t.name
  columns : ∀ c ∈ t.columns, WordFree c.name

theorem Table.IsWordFree.recoverable {t : Table} (h : t.IsWordFree) (l : Language) (d : Dialect) :
    t.Recoverable l d := by
  have hk : ∀ x ∈ t.primaryKey.map Column.name, WordFree x := by
    intro x hx
    obtain ⟨c, hm, rfl⟩ := List.mem_map.mp hx
    exact h.columns c (List.mem_filter.mp hm).1
  cases l
  case go =>
    exact ⟨namesPlain_of_wordFree hk, fun c hm hg => h.columns c hm hg.2.1.isInfix⟩
  case php =>
    intro line hl
    have hs := Statements.named_sealed d h.name h.columns
    exact found_of_wordFree (Layout.Php.constantLines_wordFree h.name hk hs line hl)
  case rust => exact namesPlain_of_wordFree hk
  case typescript => exact namesPlain_of_wordFree hk
  case python => exact namesPlain_of_wordFree hk

namespace Emitter

variable {e : Emitter} {t : Table} {u : SourceUnit}

-- Exactly the annotations of the columns are found in a unit, or some names pass for parts of one.
-- No names do that are free of the word.
theorem annotations_unitOf_iff (h : e.unitOf t = .ok u) :
    (u.annotations = t.annotations ↔ t.Recoverable e.language e.dialect) ∧
      (t.IsWordFree → t.Recoverable e.language e.dialect) := by
  obtain ⟨m, hm, rfl⟩ := unitOf_ok h
  exact ⟨TableModel.annotations_unit_iff hm, fun hw => hw.recoverable _ _⟩

end Emitter

-- A table whose names need escapes, and one of which the layouts make more than was meant.
def Table.accounts : Table where
  name := "accounts"
  columns := [
    { name := "id", canonical := some (.integer 64), nullable := false, primaryKey := true },
    { name := "a*/b", canonical := some (.decimal 12 2) },
    { name := "x\ny", canonical := some (.text none) }]

def Table.misnamed : Table where
  name := "column \x22x\x22 text"
  columns := [
    { name := "id", canonical := some (.integer 64), nullable := false, primaryKey := true }]

theorem Emitter.annotations_unitOf_accounts :
    ∃ u, Emitter.unitOf ⟨.go, .postgresql, false⟩ .accounts = .ok u ∧ Table.accounts.IsWordFree ∧
      u.annotations = Table.accounts.annotations := by
  have h : Emitter.unitOf ⟨.go, .postgresql, false⟩ .accounts = .ok _ := rfl
  have hw : Table.accounts.IsWordFree := ⟨by decide, by decide⟩
  obtain ⟨hi, hr⟩ := Emitter.annotations_unitOf_iff h
  exact ⟨_, h, hw, hi.mpr (hr hw)⟩

theorem Emitter.annotations_unitOf_misnamed :
    ¬∀ (e : Emitter) (t : Table) (u : SourceUnit), e.unitOf t = .ok u → t.columns ≠ [] →
      u.annotations = t.annotations := by
  intro h
  have hm : TableModel.ofTable .php .postgresql .misnamed = .ok _ := rfl
  have ha := h ⟨.php, .postgresql, false⟩ .misnamed _ rfl (by decide)
  exact absurd ((TableModel.annotations_unit_iff hm).mp ha) (by decide +kernel)

end TypedRows
