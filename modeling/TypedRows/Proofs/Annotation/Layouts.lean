import Mathlib.Tactic.SplitIfs
import TypedRows.Emission
import TypedRows.Proofs.Annotation.Neighbours
import TypedRows.Proofs.Naming.Identifier

namespace TypedRows.Layout

open Text ColumnAnnotation

-- What layouts may rely on: names and types are written without quotes.
structure Writable (m : TableModel) : Prop where
  typeName : Quoteless m.typeName
  fieldName : ∀ f ∈ m.fields, Quoteless f.name
  typeToken : ∀ f ∈ m.fields, Quoteless f.typeToken
  column : ∀ f ∈ m.fields, f.annotation.column = f.column

theorem found_fixed {a : String} (h : Spelling.Closed.check a.toList) : found a = [] :=
  found_quoteless (.of_check h)

theorem found_around {a x s : String} (ha : Spelling.Closed.check a.toList) (hx : Quoteless x)
    (hs : Spelling.Closed.check s.toList) : found (a ++ x ++ s) = [] :=
  found_quoteless (((Quoteless.of_check ha).append hx).append (.of_check hs))

theorem found_between {a b s x y : String} (ha : Spelling.Closed.check a.toList) (hx : Quoteless x)
    (hb : Spelling.Closed.check b.toList) (hy : Quoteless y)
    (hs : Spelling.Closed.check s.toList) : found (a ++ x ++ b ++ y ++ s) = [] := by
  have h : Quoteless (a ++ x ++ b) := ((Quoteless.of_check ha).append hx).append (.of_check hb)
  exact found_quoteless ((h.append hy).append (.of_check hs))

theorem quoteless_of_isNameChar {s : String} (h : ∀ c ∈ s.toList, Identifier.isNameChar c) :
    Quoteless s := by
  apply Spelling.Closed.of_forall
  intro c hc hm
  have hn : Identifier.isNameChar c := h c hc
  simp only [List.mem_cons, List.not_mem_nil, or_false] at hm
  rcases hm with rfl | rfl | rfl | rfl <;> exact absurd hn (by decide)

def statementNames : List String :=
  ["select_all", "insert", "select_by_key", "update_by_key", "delete_by_key"]

-- What holds of every statement that there is.
theorem forall_named {s : Statements} {P : String × String → Prop} :
    (∀ p ∈ s.named, P p) ↔ P ("select_all", s.selectAll) ∧ P ("insert", s.insert) ∧
      (∀ sql ∈ s.selectByKey, P ("select_by_key", sql)) ∧
      (∀ sql ∈ s.updateByKey, P ("update_by_key", sql)) ∧
      (∀ sql ∈ s.deleteByKey, P ("delete_by_key", sql)) := by
  cases hs : s.selectByKey <;> cases hu : s.updateByKey <;> cases hd : s.deleteByKey <;>
    simp [Statements.named, hs, hu, hd]

theorem mem_named {s : Statements} {p : String × String} (h : p ∈ s.named) :
    p.1 ∈ statementNames := by
  have hn : ∀ p ∈ s.named, p.1 ∈ statementNames :=
    forall_named.mpr (by simp [statementNames])
  exact hn p h

theorem upper_quoteless {s : Statements} {p : String × String} (h : p ∈ s.named) :
    Quoteless (upper p.1) := by
  have hd : ∀ name ∈ statementNames, Spelling.Closed.check (upper name).toList := by decide
  exact .of_check (hd p.1 (mem_named h))

theorem casing_quoteless {s : Statements} {p : String × String} (h : p ∈ s.named)
    (casing : Casing) : Quoteless (casing.apply p.1) := by
  have hd : ∀ name ∈ statementNames, name.toList.all Identifier.isWordChar := by decide
  have hw : ∀ c ∈ p.1.toList, Identifier.isWordChar c := List.all_eq_true.mp (hd p.1 (mem_named h))
  apply quoteless_of_isNameChar
  rw [Casing.apply, String.toList_ofList]
  exact casing.applyChars_isNameChar hw

theorem commentName_quoteless (m : TableModel) : Quoteless (commentName m) :=
  .comment m.table

theorem commaSeparated_quoteless {items : List String} (h : ∀ x ∈ items, Quoteless x) :
    Quoteless (commaSeparated items) := by
  induction items
  case nil => exact .of_check rfl
  case cons x items hi =>
    have ⟨hx, hs⟩ := List.forall_mem_cons.mp h
    cases items
    case nil => simpa [commaSeparated] using hx
    case cons y items =>
      have hc : commaSeparated (x :: y :: items) = x ++ ", " ++ commaSeparated (y :: items) := by
        simp [commaSeparated]
      exact hc ▸ (hx.append (.of_check rfl)).append (hi hs)

variable {m : TableModel}

theorem flatMap_fields {fs : List FieldModel} {lines : FieldModel → Lines}
    (h : ∀ f ∈ fs, (lines f).flatMap found = [ f.annotation]) :
    (fs.flatMap lines).flatMap found = fs.map FieldModel.annotation := by
  induction fs
  case nil => rfl
  case cons f fs hi =>
    have ⟨hf, hfs⟩ := List.forall_mem_cons.mp h
    rw [List.flatMap_cons, List.flatMap_append, hf, hi hfs]
    rfl

namespace Rust

theorem fieldLines_found (h : Writable m) :
    (fieldLines m).flatMap found = m.fields.map FieldModel.annotation := by
  apply flatMap_fields
  intro f hf
  have hd : found ("    /// " ++ f.annotation.render) = [ f.annotation] :=
    found_render_end (.of_check rfl) f.annotation
  have hn : found ("    pub " ++ f.name ++ ": " ++ f.typeToken ++ ",") = [] :=
    found_between (by decide) (h.fieldName f hf) (by decide) (h.typeToken f hf) (by decide)
  simp only [List.flatMap_cons, List.flatMap_nil, hd, hn, List.append_nil]

theorem statementLines_found (m : TableModel) : (statementLines m).flatMap found = [] := by
  apply List.flatMap_eq_nil_iff.mpr
  intro line hl
  obtain ⟨p, hp, rfl⟩ := List.mem_map.mp hl
  have hn : Quoteless ("    pub const " ++ upper p.1 ++ ": &'static str = ") :=
    ((Quoteless.of_check rfl).append (upper_quoteless hp)).append (.of_check rfl)
  exact found_stringLiteral (by decide) hn (.of_check rfl) (by decide) p.2

theorem unit_found (h : Writable m) :
    (unit m).flatMap found = m.fields.map FieldModel.annotation ↔ NamesPlain m.primaryKey := by
  have ht : Quoteless m.typeName := h.typeName
  have hc : Quoteless (commentName m) := commentName_quoteless m
  have hk : found ("    pub const PRIMARY_KEY: &'static [&'static str] = &[" ++
      commaSeparated (keyLiterals .rust m) ++ "];") = [] ↔ NamesPlain m.primaryKey :=
    found_names_eq_nil_iff (by decide) (.of_check rfl) (.of_check rfl) (by decide) _
  have hl : found ("    pub const TABLE: &'static str = " ++ Language.rust.stringLiteral m.table ++
      ";") = [] :=
    found_stringLiteral (by decide) (.of_check rfl) (.of_check rfl) (by decide) _
  rw [← hk]
  simp (disch := first | assumption | decide) only [unit, List.flatMap_append, List.flatMap_cons,
    List.flatMap_nil, fieldLines_found h, statementLines_found, hl, found_fixed, found_around,
    List.nil_append, List.append_nil, List.append_right_eq_self]

end Rust

namespace TypeScript

theorem fieldLines_found (h : Writable m) :
    (fieldLines m).flatMap found = m.fields.map FieldModel.annotation := by
  apply flatMap_fields
  intro f hf
  have hd : found ("  /** " ++ f.annotation.render ++ " */") = [ f.annotation] :=
    found_render (.of_check rfl) f.annotation (.inr rfl)
  have hn : found ("  " ++ f.name ++ ": " ++ f.typeToken ++ ";") = [] :=
    found_between (by decide) (h.fieldName f hf) (by decide) (h.typeToken f hf) (by decide)
  simp only [List.flatMap_cons, List.flatMap_nil, hd, hn, List.append_nil]

theorem statementLines_found (m : TableModel) : (statementLines m).flatMap found = [] := by
  apply List.flatMap_eq_nil_iff.mpr
  intro line hl
  obtain ⟨p, hp, rfl⟩ := List.mem_map.mp hl
  have hn : Quoteless ("  " ++ Casing.camel.apply p.1 ++ ": ") :=
    ((Quoteless.of_check rfl).append (casing_quoteless hp .camel)).append
      (.of_check rfl)
  exact found_stringLiteral (by decide) hn (.of_check rfl) (by decide) p.2

theorem unit_found (h : Writable m) :
    (unit m).flatMap found = m.fields.map FieldModel.annotation ↔ NamesPlain m.primaryKey := by
  have ht : Quoteless m.typeName := h.typeName
  have hc : Quoteless (commentName m) := commentName_quoteless m
  have hp : Quoteless ("export const " ++ m.typeName ++ "PrimaryKey = [") :=
    ((Quoteless.of_check rfl).append ht).append (.of_check rfl)
  have hk : found ("export const " ++ m.typeName ++ "PrimaryKey = [" ++
      commaSeparated (keyLiterals .typescript m) ++ "] as const;") = [] ↔
        NamesPlain m.primaryKey :=
    found_names_eq_nil_iff (by decide) hp (.of_check rfl) (by decide) _
  have hq : Quoteless ("export const " ++ m.typeName ++ "Table = ") :=
    ((Quoteless.of_check rfl).append ht).append (.of_check rfl)
  have hl : found ("export const " ++ m.typeName ++ "Table = " ++
      Language.typescript.stringLiteral m.table ++ ";") = [] :=
    found_stringLiteral (by decide) hq (.of_check rfl) (by decide) _
  rw [← hk]
  simp (disch := first | assumption | decide) only [unit, List.flatMap_append, List.flatMap_cons,
    List.flatMap_nil, fieldLines_found h, statementLines_found, hl, found_fixed, found_around,
    List.nil_append, List.append_nil, List.append_right_eq_self]

end TypeScript

namespace Python

theorem fieldLines_found (h : Writable m) :
    (fieldLines m).flatMap found = m.fields.map FieldModel.annotation := by
  rw [fieldLines, List.map_eq_flatMap]
  apply flatMap_fields
  intro f hf
  have hn : Quoteless ("    " ++ f.name ++ ": " ++ f.typeToken ++ "  # ") :=
    ((((Quoteless.of_check rfl).append (h.fieldName f hf)).append
      (.of_check rfl)).append (h.typeToken f hf)).append (.of_check rfl)
  simp only [List.flatMap_cons, List.flatMap_nil, found_render_end hn, List.append_nil]

theorem statementLines_found (m : TableModel) : (statementLines m).flatMap found = [] := by
  apply List.flatMap_eq_nil_iff.mpr
  intro line hl
  obtain ⟨p, hp, rfl⟩ := List.mem_map.mp hl
  have hn : Quoteless ("    " ++ upper p.1 ++ ": ClassVar[str] = ") :=
    ((Quoteless.of_check rfl).append (upper_quoteless hp)).append (.of_check rfl)
  exact found_stringLiteral_end (by decide) hn p.2

theorem importLines_found (m : TableModel) : (importLines m).flatMap found = [] := by
  have hi : Quoteless ("from datetime import " ++
      commaSeparated (["date", "datetime"].filter (uses m))) := by
    apply Quoteless.append (.of_check rfl)
    apply commaSeparated_quoteless
    intro x hx
    have hd : ∀ x ∈ ["date", "datetime"], Spelling.Closed.check x.toList := by decide
    exact .of_check (hd x (List.mem_filter.mp hx).1)
  unfold importLines
  dsimp only
  split_ifs <;> simp (disch := decide) only [List.flatMap_append, List.flatMap_cons,
    List.flatMap_nil, found_quoteless hi, found_fixed, List.append_nil]

theorem docstring_found (m : TableModel) :
    found ("    \"\"\"Row of the " ++ commentName m ++ " table.\"\"\"") = [] := by
  have hr : Quoteless ("Row of the " ++ commentName m ++ " table.") :=
    ((Quoteless.of_check rfl).append (commentName_quoteless m)).append
      (.of_check rfl)
  have h : ("    \"\"\"Row of the " ++ commentName m ++ " table.\"\"\"").toList =
      Spelling.inQuotes "    ".toList
        [[], [], ("Row of the " ++ commentName m ++ " table.").toList, [], [], []] := by
    simp [Spelling.inQuotes]
  have hf : Spelling.firstIn? "    ".toList
      [[], [], ("Row of the " ++ commentName m ++ " table.").toList, [], [], []] = none := by
    rw [Spelling.firstIn?_of_head, Spelling.firstIn?_of_head, Spelling.firstIn?_of_head,
      Spelling.firstIn?_of_head, Spelling.firstIn?_of_head]
    · rfl
    all_goals simp [Spelling.inQuotes]
  have hq : ∀ q ∈ [[], [], ("Row of the " ++ commentName m ++ " table.").toList, [], [], []],
      Spelling.Closed q := by
    intro q hq
    simp only [List.mem_cons, List.not_mem_nil, or_false] at hq
    rcases hq with rfl | rfl | rfl | rfl | rfl | rfl
    case inr.inr.inl => exact hr
    all_goals exact .nil
  rw [found_inQuotes h (.of_check rfl) hq, hf]
  rfl

theorem tuple_eq (items : List String) :
    ∃ s ∈ [")", ",)"], tuple items = "(" ++ commaSeparated items ++ s := by
  unfold tuple
  split
  case h_1 item => exact ⟨",)", by simp, by simp [commaSeparated]⟩
  case h_2 => exact ⟨")", by simp, rfl⟩

theorem primaryKey_found (m : TableModel) :
    found ("    PRIMARY_KEY: ClassVar[Tuple[str, ...]] = " ++ tuple (keyLiterals .python m)) = [] ↔
      NamesPlain m.primaryKey := by
  obtain ⟨s, hs, ht⟩ := tuple_eq (keyLiterals .python m)
  have hd : ∀ s ∈ [")", ",)"], Spelling.Closed.check s.toList ∧ s.toList.head? ≠ some ' ' := by
    decide
  have hp : Quoteless ("    PRIMARY_KEY: ClassVar[Tuple[str, ...]] = " ++ "(") :=
    .of_check rfl
  rw [ht, ← String.append_assoc, ← String.append_assoc]
  exact found_names_eq_nil_iff (by decide) hp (.of_check (hd s hs).1) (hd s hs).2 _

theorem unit_found (h : Writable m) :
    (unit m).flatMap found = m.fields.map FieldModel.annotation ↔ NamesPlain m.primaryKey := by
  have ht : Quoteless m.typeName := h.typeName
  have hc : Quoteless (commentName m) := commentName_quoteless m
  have hl : found ("    TABLE: ClassVar[str] = " ++ Language.python.stringLiteral m.table) = [] :=
    found_stringLiteral_end (by decide) (.of_check rfl) _
  rw [← primaryKey_found]
  simp (disch := first | assumption | decide) only [unit, List.flatMap_append, List.flatMap_cons,
    List.flatMap_nil, fieldLines_found h, statementLines_found, importLines_found, docstring_found,
    hl, found_fixed, found_around, List.nil_append, List.append_nil, List.append_left_eq_self]

end Python

namespace Php

-- The lines of a unit in which texts stand in single quotes.
def constantLines (table : String) (keys : List String) (s : Statements) : Lines :=
  ["    public const TABLE = " ++ Language.php.stringLiteral table ++ ";",
    "    public const PRIMARY_KEY = [" ++
      commaSeparated (keys.map Language.php.stringLiteral) ++ "];"] ++
  s.named.map fun (name, sql) =>
    "    public const " ++ upper name ++ " = " ++ Language.php.stringLiteral sql ++ ";"

theorem fieldLines_found (h : Writable m) :
    (fieldLines m).flatMap found = m.fields.map FieldModel.annotation := by
  apply flatMap_fields
  intro f hf
  have hd : found ("    /** " ++ f.annotation.render ++ " */") = [ f.annotation] :=
    found_render (.of_check rfl) f.annotation (.inr rfl)
  have hn : found ("    public " ++ f.typeToken ++ " $" ++ f.name ++
      (if f.nullable then " = null;" else ";")) = [] := by
    cases f.nullable <;>
      exact found_between (by decide) (h.typeToken f hf) (by decide) (h.fieldName f hf) (by decide)
  have he : found "" = [] := found_fixed rfl
  simp only [List.flatMap_cons, List.flatMap_nil, hd, hn, he, List.append_nil, List.nil_append]

theorem unit_found (h : Writable m) :
    (unit m).flatMap found = m.fields.map FieldModel.annotation ↔
      ∀ line ∈ constantLines m.table m.primaryKey m.statements, found line = [] := by
  have ht : Quoteless m.typeName := h.typeName
  have hc : Quoteless (commentName m) := commentName_quoteless m
  have hl : found ("final class " ++ m.typeName) = [] :=
    found_quoteless ((Quoteless.of_check rfl).append ht)
  have hu : (unit m).flatMap found =
      (constantLines m.table m.primaryKey m.statements).flatMap found ++
        m.fields.map FieldModel.annotation := by
    simp (disch := first | assumption | decide) only [unit, opening, constantLines, statementLines,
      keyLiterals, List.flatMap_append, List.flatMap_cons, List.flatMap_nil, fieldLines_found h, hl,
      found_fixed, found_around, List.nil_append, List.append_nil, List.append_assoc]
  rw [hu, List.append_left_eq_self, List.flatMap_eq_nil_iff]

end Php

end TypedRows.Layout
