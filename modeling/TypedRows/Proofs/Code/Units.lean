import TypedRows.Proofs.Code.Names

namespace TypedRows.Layout

open Code Code.Lexicon Identifier Text Lines.Declare

variable {m : TableModel}

-- The first line of code in a unit of two of the languages.
def header (m : TableModel) : String :=
  "// Generated by schema_codegen from the " ++ commentName m ++ " table. Do not edit."

section Statements

variable {s : Statements} {p : String × String}

theorem isWord_casing (h : p ∈ s.named) {casing : Casing} (hk : casing ≠ .kebab) :
    IsWord (casing.apply p.1) := by
  have hd : ∀ name ∈ statementNames, casing.apply name ≠ "" ∧ name.toList.all isWordChar := by
    cases casing <;> decide
  obtain ⟨hn, hw⟩ := hd p.1 (mem_named h)
  exact ⟨hn, Casing.apply_isWordChar hk (List.all_eq_true.mp hw)⟩

theorem isWord_upper (h : p ∈ s.named) : IsWord (upper p.1) := by
  have hd : ∀ name ∈ statementNames, upper name ≠ "" ∧ (upper name).toList.all isWordChar := by
    decide
  obtain ⟨hn, hw⟩ := hd p.1 (mem_named h)
  exact ⟨hn, List.all_eq_true.mp hw⟩

end Statements

namespace TypeScript

theorem fieldLines_declare (h : Legible .typescript m) :
    (fieldLines m).Declare .typescript { depth := 1 } [] { depth := 1 } := by
  apply flatMap_silent
  intro f hf
  obtain ⟨ts, ht, hs⟩ := h.typeToken f hf
  apply cons_silent
  case ha =>
    have ha := ColumnAnnotation.reads_render_in_block .typescript f.annotation
    exact blockComment (.fixed rfl) ha (fun star => .fixed (by cases star <;> rfl)) rfl
  case hb =>
    have hn : scan (Scope.step .typescript) { depth := 1 } [.word f.name, .mark ':'] =
      ([], { depth := 1 }) := rfl
    refine between [] [.mark ':'] [.mark ';'] (.fixed rfl) (h.fieldName f hf) (.fixed rfl)
      (startsApart_fixed rfl) ht (.fixed rfl) (startsApart_fixed rfl) ?_
    exact scan_append (scan_append (scan_append hn (hs 1 le_rfl)) rfl) rfl

theorem statementLines_declare (m : TableModel) :
    (statementLines m).Declare .typescript { depth := 1 } [] { depth := 1 } := by
  apply map_silent
  intro p hp
  have hw : IsWord (Casing.camel.apply p.1) := isWord_casing hp (by decide)
  exact between [] [.mark ':'] [.mark ','] (.fixed rfl) hw.spells (.fixed rfl)
    (startsApart_fixed rfl) (.code (Language.typescript.reads_stringLiteral p.2)) (.fixed rfl)
    (startsApart_fixed rfl) rfl

theorem reads_constant (h : Legible .typescript m) {suffix a b : String} (ts : List Token)
    (hw : suffix.toList.all isWordChar) (ha : a = suffix ++ b)
    (hb : Language.typescript.lexicon.Reads .code b ts .code)
    (hb' : Language.typescript.lexicon.startsApart b) :
    Language.typescript.lexicon.Reads .code ("export const " ++ m.typeName ++ a)
      ([Token.word "export", .word "const", .word (m.typeName ++ suffix)] ++ ts) .code :=
  reads_suffixed [.word "export", .word "const"] ts (h.isWord (by decide)) hw ha (.fixed rfl) hb hb'

theorem tableLine_declare (h : Legible .typescript m) :
    Lines.Declare .typescript {} ["export const " ++ m.typeName ++ "Table = " ++
        Language.typescript.stringLiteral m.table ++ ";"]
      [⟨true, "const", m.typeName ++ "Table"⟩] {} := by
  have ha : "Table = " = "Table" ++ " = " := rfl
  exact around _ [.mark ';']
    (reads_constant h [.mark '='] rfl ha (.fixed rfl) (startsApart_fixed rfl))
    (.code (Language.typescript.reads_stringLiteral m.table)) (.fixed rfl) (startsApart_fixed rfl)
    rfl

theorem keyLine_declare (h : Legible .typescript m) :
    Lines.Declare .typescript {} ["export const " ++ m.typeName ++ "PrimaryKey = [" ++
        commaSeparated (keyLiterals .typescript m) ++ "] as const;"]
      [⟨true, "const", m.typeName ++ "PrimaryKey"⟩] {} := by
  have ha : "PrimaryKey = [" = "PrimaryKey" ++ " = [" := rfl
  obtain ⟨ts, ht, hs⟩ := reads_literals .typescript m.primaryKey
  have ho : scan (Scope.step .typescript) {} [.word "export", .word "const",
      .word (m.typeName ++ "PrimaryKey"), .mark '=', .mark '['] =
      ([⟨true, "const", m.typeName ++ "PrimaryKey"⟩], { depth := 1 }) := rfl
  refine around _ [.mark ']', .word "as", .word "const", .mark ';']
    (reads_constant h [.mark '=', .mark '['] rfl ha (.fixed rfl) (startsApart_fixed rfl)) (.code ht)
    (.fixed rfl) (startsApart_fixed rfl) ?_
  exact scan_append (scan_append (scan_append ho (scan_listing hs none 1)) rfl) rfl

-- `es` is what the name of the table in the first line brings with it, which is nothing if the name
-- keeps comments.
theorem unit_declare (h : Legible .typescript m) {es : List Declaration}
    (hh : Lines.Declare .typescript {} [header m] es {}) :
    (unit m).Declare .typescript {} (es ++ [⟨true, "interface", m.typeName⟩,
      ⟨true, "const", m.typeName ++ "Table"⟩, ⟨true, "const", m.typeName ++ "PrimaryKey"⟩,
      ⟨true, "const", m.typeName ++ "Sql"⟩]) {} := by
  have hn : Lines.Declare .typescript {} [""] [] {} := fixed rfl
  have hr : Lines.Declare .typescript {} ["/** Row of the " ++ commentName m ++ " table. */"] []
      {} :=
    blockComment (.fixed rfl) (reads_comment_in_block m.table)
      (fun star => .fixed (by cases star <;> rfl)) rfl
  have ht : Lines.Declare .typescript {} ["export interface " ++ m.typeName ++ " \x7b"]
      [⟨true, "interface", m.typeName⟩] { depth := 1 } :=
    around [.word "export", .word "interface"] [.mark '{'] (.fixed rfl) h.typeName (.fixed rfl)
      (startsApart_fixed rfl) rfl
  have he : Lines.Declare .typescript { depth := 1 } ["\x7d"] [] {} := fixed rfl
  have hs : Lines.Declare .typescript {} ["export const " ++ m.typeName ++ "Sql = \x7b"]
      [⟨true, "const", m.typeName ++ "Sql"⟩] { depth := 1 } := by
    have ha : "Sql = \x7b" = "Sql" ++ " = \x7b" := rfl
    exact of_spells (.code (reads_constant h [.mark '=', .mark '{'] rfl ha (.fixed rfl)
      (startsApart_fixed rfl))) rfl
  have hc : Lines.Declare .typescript { depth := 1 } ["\x7d as const;"] [] {} := fixed rfl
  have hu := ((((hh.cons (hn.cons (hr.cons ht))).append (fieldLines_declare h)).append
    (he.cons (hn.cons ((tableLine_declare h).cons (hn.cons ((keyLine_declare h).cons
      (hn.cons hs))))))).append (statementLines_declare m)).append hc
  exact hu.of_eq rfl (by simp)

end TypeScript

namespace Go

-- The scope in the parentheses of the statements.
def inConstants : Scope :=
  { turn := .name false "const", group := some "const", depth := 1 }

theorem importLines_declare (m : TableModel) :
    (importLines (imports m)).Declare .go {} [] {} := by
  have hs : Lines.Declare .go {} ["import \"database/sql\""] [] {} := fixed rfl
  have ht : Lines.Declare .go {} ["import \"time\""] [] {} := fixed rfl
  have ho : Lines.Declare .go {} ["import ("] [] { depth := 1 } := fixed rfl
  have hs' : Lines.Declare .go { depth := 1 } ["\t\"database/sql\""] [] { depth := 1 } := fixed rfl
  have ht' : Lines.Declare .go { depth := 1 } ["\t\"time\""] [] { depth := 1 } := fixed rfl
  have hc : Lines.Declare .go { depth := 1 } [")"] [] {} := fixed rfl
  have hn : Lines.Declare .go {} [""] [] {} := fixed rfl
  unfold imports
  split_ifs
  case pos => exact ho.cons (hs'.cons (ht'.cons (hc.cons hn)))
  case neg => exact hs.cons hn
  case pos => exact ht.cons hn
  case neg => exact .nil

theorem reads_rawLiteral {s : String} (h : '\x60' ∉ s.toList) :
    Language.go.lexicon.Reads .code ("\x60" ++ s ++ "\x60") [.literal s] .code := by
  have ho : scan Language.go.lexicon.step .code ['\x60'] = ([], .raw '\x60' []) := rfl
  have hc : scan Language.go.lexicon.step (.raw '\x60' s.toList) ['\x60'] =
      ([.literal s], .code) := by
    simp [scan, step]
  rw [Reads, String.toList_append, String.toList_append]
  exact scan_append (scan_append ho (scan_raw h [])) hc

theorem tag_spells (column : String) :
    ∃ text, Language.go.lexicon.Spells (tag column) [.literal text] := by
  unfold tag
  dsimp only
  split_ifs with h
  case pos => exact ⟨_, .code (Language.go.reads_stringLiteral _)⟩
  case neg => exact ⟨_, .code (reads_rawLiteral (by simpa using h))⟩

theorem fieldLine_spell (h : Legible .go m) {f : FieldModel} (hf : f ∈ m.fields) {ts : List Token}
    (ht : Language.go.lexicon.Spells f.typeToken ts) (nameWidth typeWidth tagWidth : Nat) :
    ∃ text, Lines.Spell .go [fieldLine nameWidth typeWidth tagWidth f]
      ([Token.word f.name] ++ ts ++ [Token.literal text, .lineEnd]) := by
  have hi : Language.go.lexicon.Reads .code "\t" [] .code := .fixed rfl
  have hb : Language.go.lexicon.Reads .code " " [] .code := .fixed rfl
  have hc : Language.go.lexicon.Reads .code " // " [] (.lineComment false) := .fixed rfl
  have hb' : Language.go.lexicon.startsApart " " := startsApart_fixed rfl
  have hc' : Language.go.lexicon.startsApart " // " := startsApart_fixed rfl
  have ⟨text, hg⟩ := tag_spells f.column
  have hr := ((hi.around (spells_padRight (h.fieldName f hf) nameWidth) hb hb').around
    (spells_padRight ht typeWidth) hb hb').around (spells_padRight hg tagWidth) hc hc'
  have hl := Lines.Spell.lineComment_end _ hr (Language.keeps_render rfl f.annotation)
  refine ⟨text, ?_⟩
  simp only [List.append_assoc, List.append_nil, List.nil_append] at hl ⊢
  exact hl

theorem fieldLine_declare (h : Legible .go m) {f : FieldModel} (hf : f ∈ m.fields)
    (nameWidth typeWidth tagWidth : Nat) :
    Lines.Declare .go { depth := 1 } [fieldLine nameWidth typeWidth tagWidth f] []
      { depth := 1 } := by
  have ⟨ts, ht, hs⟩ := h.typeToken f hf
  have ⟨text, hl⟩ := fieldLine_spell h hf ht nameWidth typeWidth tagWidth
  have hn : scan (Scope.step .go) { depth := 1 } [.word f.name] = ([], { depth := 1 }) := rfl
  have he : scan (Scope.step .go) { depth := 1 } [.literal text, .lineEnd] =
    ([], { depth := 1 }) := rfl
  exact ⟨_, hl, scan_append (scan_append hn (hs 1 le_rfl)) he⟩

theorem fieldLines_declare (h : Legible .go m) :
    (fieldLines m).Declare .go { depth := 1 } [] { depth := 1 } :=
  map_silent fun _ hf => fieldLine_declare h hf _ _ _

theorem isWord_constant (h : Legible .go m) {p : String × String} (hp : p ∈ constants m) :
    IsWord p.1 := by
  obtain ⟨q, hq, rfl⟩ := List.mem_map.mp hp
  exact (h.isWord (by decide)).append_right (isWord_casing hq (by decide)).isWordChar

theorem constantLine_spell (h : Legible .go m) {p : String × String} (hp : p ∈ constants m)
    (width : Nat) :
    Lines.Spell .go ["\t" ++ padRight width p.1 ++ " = " ++ Language.go.stringLiteral p.2]
      [.word p.1, .mark '=', .literal (Language.go.spelled p.2), .lineEnd] := by
  have hi : Language.go.lexicon.Reads .code "\t" [] .code := .fixed rfl
  have he : Language.go.lexicon.Reads .code " = " [.mark '='] .code := .fixed rfl
  have hn := hi.around (spells_padRight (isWord_constant h hp).spells width) he
    (startsApart_fixed rfl)
  exact .ending _ hn (.code (Language.go.reads_stringLiteral p.2))

theorem constantLines_declare (h : Legible .go m) :
    (constantLines m).Declare .go inConstants
      ((constants m).map fun p => ⟨false, "const", p.1⟩) inConstants := by
  have hl : (constantLines m).Declare .go inConstants
      ((constants m).flatMap fun p => [⟨false, "const", p.1⟩]) inConstants :=
    .map fun p hp => ⟨_, constantLine_spell h hp _, rfl⟩
  exact hl.of_eq rfl List.map_eq_flatMap

theorem tableLine_spell (h : Legible .go m) :
    Lines.Spell .go ["const " ++ m.typeName ++ "Table = " ++ Language.go.stringLiteral m.table]
      [.word "const", .word (m.typeName ++ "Table"), .mark '=',
        .literal (Language.go.spelled m.table), .lineEnd] := by
  have ha : "Table = " = "Table" ++ " = " := rfl
  have hr : Language.go.lexicon.Reads .code ("const " ++ m.typeName ++ "Table = ")
      [.word "const", .word (m.typeName ++ "Table"), .mark '='] .code :=
    reads_suffixed [.word "const"] [.mark '='] (h.isWord (by decide)) rfl ha (.fixed rfl)
      (.fixed rfl) (startsApart_fixed rfl)
  exact .ending _ hr (.code (Language.go.reads_stringLiteral m.table))

theorem tableLine_declare (h : Legible .go m) :
    Lines.Declare .go {} ["const " ++ m.typeName ++ "Table = " ++ Language.go.stringLiteral m.table]
      [⟨false, "const", m.typeName ++ "Table"⟩] {} :=
  ⟨_, tableLine_spell h, rfl⟩

theorem keyLine_spell (h : Legible .go m) :
    ∃ ts, Lines.Spell .go ["var " ++ m.typeName ++ "PrimaryKey = []string\x7b" ++
        commaSeparated (keyLiterals .go m) ++ "\x7d"]
      ([Token.word "var", .word (m.typeName ++ "PrimaryKey"), .mark '=', .mark '[', .mark ']',
        .word "string", .mark '{'] ++ ts ++ [Token.mark '}', .lineEnd]) ∧ IsListing ts := by
  have ha : "PrimaryKey = []string\x7b" = "PrimaryKey" ++ " = []string\x7b" := rfl
  have ⟨ts, ht, hs⟩ := reads_literals .go m.primaryKey
  have hr : Language.go.lexicon.Reads .code ("var " ++ m.typeName ++ "PrimaryKey = []string\x7b")
      [.word "var", .word (m.typeName ++ "PrimaryKey"), .mark '=', .mark '[', .mark ']',
        .word "string", .mark '{'] .code :=
    reads_suffixed [.word "var"] [.mark '=', .mark '[', .mark ']', .word "string", .mark '{']
      (h.isWord (by decide)) rfl ha (.fixed rfl) (.fixed rfl) (startsApart_fixed rfl)
  refine ⟨ts, ?_, hs⟩
  exact .around _ [.mark '}'] hr (.code ht) (.fixed rfl) (startsApart_fixed rfl)

theorem keyLine_declare (h : Legible .go m) :
    Lines.Declare .go {} ["var " ++ m.typeName ++ "PrimaryKey = []string\x7b" ++
        commaSeparated (keyLiterals .go m) ++ "\x7d"]
      [⟨false, "var", m.typeName ++ "PrimaryKey"⟩] {} := by
  have ⟨ts, hl, hs⟩ := keyLine_spell h
  have ho : scan (Scope.step .go) {} [.word "var", .word (m.typeName ++ "PrimaryKey"), .mark '=',
      .mark '[', .mark ']', .word "string", .mark '{'] =
      ([⟨false, "var", m.typeName ++ "PrimaryKey"⟩], { depth := 1 }) := rfl
  exact ⟨_, hl, scan_append (scan_append ho (scan_listing hs none 1)) rfl⟩

theorem keeps_typeName (h : Legible .go m) : Language.go.lexicon.Keeps m.typeName := by
  apply Language.keeps_quoteless rfl
  apply quoteless_of_isNameChar
  exact fun c hc => isNameChar_of_isWordChar ((h.isWord (by decide)).isWordChar c hc)

-- A comment in which two names stand.
theorem rowComment_spell (h : Legible .go m) (hc : Language.go.lexicon.Keeps (commentName m)) :
    Lines.Spell .go ["// " ++ m.typeName ++ " maps rows of the " ++ commentName m ++ " table."]
      [.lineEnd] := by
  have hk : Language.go.lexicon.Keeps m.typeName := keeps_typeName h
  obtain ⟨question, hq⟩ := hk.reads
  have ho : Language.go.lexicon.Reads .code "// " [] (.lineComment false) := .fixed rfl
  have hs : Language.go.lexicon.Reads (.lineComment question) " maps rows of the " []
      (.lineComment false) :=
    .fixed (by cases question <;> rfl)
  exact .lineComment ((ho.append hq).append hs) hc
    fun question => .fixed (by cases question <;> rfl)

theorem unit_declare (h : Legible .go m) :
    (unit m).Declare .go {} (⟨false, "type", m.typeName⟩ ::
      ⟨false, "const", m.typeName ++ "Table"⟩ ::
      (constants m).map (fun p => ⟨false, "const", p.1⟩) ++
      [⟨false, "var", m.typeName ++ "PrimaryKey"⟩]) {} := by
  have hk : Language.go.lexicon.Keeps m.typeName := keeps_typeName h
  have hc : Language.go.lexicon.Keeps (commentName m) :=
    Language.keeps_quoteless rfl (commentName_quoteless m)
  have hh : Lines.Declare .go {} [heading] [] {} := fixed rfl
  have hn : Lines.Declare .go {} [""] [] {} := fixed rfl
  have hp : Lines.Declare .go {} ["package " ++ package] [] {} :=
    ending [.word "package"] (.fixed rfl) (.word (.fixed rfl)) rfl
  have hr : Lines.Declare .go {}
      ["// " ++ m.typeName ++ " maps rows of the " ++ commentName m ++ " table."] [] {} :=
    ⟨_, rowComment_spell h hc, rfl⟩
  have ht : Lines.Declare .go {} ["type " ++ m.typeName ++ " struct \x7b"]
      [⟨false, "type", m.typeName⟩] { depth := 1 } :=
    around [.word "type"] [.word "struct", .mark '{'] (.fixed rfl) h.typeName (.fixed rfl)
      (startsApart_fixed rfl) rfl
  have he : Lines.Declare .go { depth := 1 } ["\x7d"] [] {} := fixed rfl
  have hx : Lines.Declare .go {} ["// " ++ m.typeName ++ "Table is the name of the source table."]
      [] {} :=
    lineComment (.fixed rfl) hk (fun question => .fixed (by cases question <;> rfl)) rfl
  have hs : Lines.Declare .go {} ["// SQL statements for the " ++ commentName m ++ " table."] []
      {} :=
    lineComment (.fixed rfl) hc (fun question => .fixed (by cases question <;> rfl)) rfl
  have hg : Lines.Declare .go {} ["const ("] [] inConstants := fixed rfl
  have hd : Lines.Declare .go inConstants [")"] [] {} := fixed rfl
  have hy : Lines.Declare .go {}
      ["// " ++ m.typeName ++ "PrimaryKey lists the primary key columns."] [] {} :=
    lineComment (.fixed rfl) hk (fun question => .fixed (by cases question <;> rfl)) rfl
  have hu := ((((((hh.cons (hn.cons (hp.cons hn))).append (importLines_declare m)).append
    (hr.cons ht)).append (fieldLines_declare h)).append
    (he.cons (hn.cons (hx.cons ((tableLine_declare h).cons (hn.cons (hs.cons hg))))))).append
    (constantLines_declare h)).append (hd.cons (hn.cons (hy.cons (keyLine_declare h))))
  exact hu.of_eq rfl (by simp)

end Go

namespace Rust

theorem fieldLines_declare (h : Legible .rust m) :
    (fieldLines m).Declare .rust { depth := 1 } [] { depth := 1 } := by
  apply flatMap_silent
  intro f hf
  obtain ⟨ts, ht, hs⟩ := h.typeToken f hf
  apply cons_silent
  case ha => exact lineComment_end [] (.fixed rfl) (Language.keeps_render rfl f.annotation) rfl
  case hb =>
    have hn : scan (Scope.step .rust) { depth := 1 } [.word "pub", .word f.name, .mark ':'] =
      ([], { depth := 1 }) := rfl
    refine between [.word "pub"] [.mark ':'] [.mark ','] (.fixed rfl) (h.fieldName f hf)
      (.fixed rfl) (startsApart_fixed rfl) ht (.fixed rfl) (startsApart_fixed rfl) ?_
    exact scan_append (scan_append (scan_append hn (hs 1 le_rfl)) rfl) rfl

theorem statementLines_declare (m : TableModel) :
    (statementLines m).Declare .rust { depth := 1 } [] { depth := 1 } := by
  apply map_silent
  intro p hp
  have hw : IsWord (upper p.1) := isWord_upper hp
  exact between [.word "pub", .word "const"]
    [.mark ':', .mark '&', .mark '\x27', .word "static", .word "str", .mark '='] [.mark ';']
    (.fixed rfl) hw.spells (.fixed rfl) (startsApart_fixed rfl)
    (.code (Language.rust.reads_stringLiteral p.2)) (.fixed rfl) (startsApart_fixed rfl) rfl

theorem tableLine_declare (m : TableModel) :
    Lines.Declare .rust { depth := 1 }
      ["    pub const TABLE: &'static str = " ++ Language.rust.stringLiteral m.table ++ ";"] []
      { depth := 1 } :=
  around [.word "pub", .word "const", .word "TABLE", .mark ':', .mark '&', .mark '\x27',
      .word "static", .word "str", .mark '='] [.mark ';'] (.fixed rfl)
    (.code (Language.rust.reads_stringLiteral m.table)) (.fixed rfl) (startsApart_fixed rfl) rfl

theorem keyLine_declare (m : TableModel) :
    Lines.Declare .rust { depth := 1 } ["    pub const PRIMARY_KEY: &'static [&'static str] = &[" ++
      commaSeparated (keyLiterals .rust m) ++ "];"] [] { depth := 1 } := by
  let os : List Token := [.word "pub", .word "const", .word "PRIMARY_KEY", .mark ':', .mark '&',
    .mark '\x27', .word "static", .mark '[', .mark '&', .mark '\x27', .word "static", .word "str",
    .mark ']', .mark '=', .mark '&', .mark '[']
  obtain ⟨ts, ht, hs⟩ := reads_literals .rust m.primaryKey
  have ho : scan (Scope.step .rust) { depth := 1 } os = ([], { depth := 2 }) := rfl
  refine around os [.mark ']', .mark ';'] (.fixed (by decide)) (.code ht) (.fixed rfl)
    (startsApart_fixed rfl) ?_
  exact scan_append (scan_append (scan_append ho (scan_listing hs none 2)) rfl) rfl

theorem implLine_declare (h : Legible .rust m) :
    Lines.Declare .rust {} ["impl " ++ m.typeName ++ " \x7b"] [] { depth := 1 } := by
  have ho : scan (Scope.step .rust) {} [.word "impl"] = ([], {}) := rfl
  have hw : scan (Scope.step .rust) {} [.word m.typeName, .mark '{'] = ([], { depth := 1 }) :=
    Scope.scan_word_mark .rust _ (by intro turn; cases turn <;> rfl)
  refine around [.word "impl"] [.mark '{'] (.fixed rfl) h.typeName (.fixed rfl)
    (startsApart_fixed rfl) ?_
  exact scan_append ho (scan_append hw rfl)

theorem unit_declare (h : Legible .rust m) :
    (unit m).Declare .rust {} [⟨false, "struct", m.typeName⟩] {} := by
  have hc : Language.rust.lexicon.Keeps (commentName m) :=
    Language.keeps_quoteless rfl (commentName_quoteless m)
  have hn : Lines.Declare .rust {} [""] [] {} := fixed rfl
  have hh : Lines.Declare .rust {} ["//! Generated by schema_codegen from the \x60" ++
      commentName m ++ "\x60 table. Do not edit."] [] {} :=
    lineComment (.fixed rfl) hc (fun question => .fixed (by cases question <;> rfl)) rfl
  have hr : Lines.Declare .rust {} ["/// Row of the \x60" ++ commentName m ++ "\x60 table."] []
      {} :=
    lineComment (.fixed rfl) hc (fun question => .fixed (by cases question <;> rfl)) rfl
  have hd : Lines.Declare .rust {} ["#[derive(Debug, Clone, PartialEq)]"] [] {} := fixed rfl
  have ht : Lines.Declare .rust {} ["pub struct " ++ m.typeName ++ " \x7b"]
      [⟨false, "struct", m.typeName⟩] { depth := 1 } :=
    around [.word "pub", .word "struct"] [.mark '{'] (.fixed rfl) h.typeName (.fixed rfl)
      (startsApart_fixed rfl) rfl
  have he : Lines.Declare .rust { depth := 1 } ["\x7d"] [] {} := fixed rfl
  have hu := ((((hh.cons (hn.cons (hr.cons (hd.cons ht)))).append (fieldLines_declare h)).append
    (he.cons (hn.cons ((implLine_declare h).cons ((tableLine_declare m).cons
      (keyLine_declare m)))))).append (statementLines_declare m)).append he
  exact hu.of_eq rfl (by simp)

end Rust

namespace Python

theorem importLines_declare (m : TableModel) : (importLines m).Declare .python {} [] {} := by
  have hd : Lines.Declare .python {} ["from datetime import date"] [] {} := fixed rfl
  have ht : Lines.Declare .python {} ["from datetime import datetime"] [] {} := fixed rfl
  have hb : Lines.Declare .python {} ["from datetime import date, datetime"] [] {} := fixed rfl
  unfold importLines
  dsimp only
  refine append_silent (append_silent (?_ : Lines.Declare .python {} _ [] {})
    (?_ : Lines.Declare .python {} _ [] {})) ?_
  case refine_1 =>
    cases hx : uses m "date" <;> cases hy : uses m "datetime" <;>
      simp only [List.filter_cons, List.filter_nil, hx, hy]
    case false.false => exact .nil
    case false.true => exact ht
    case true.false => exact hd
    case true.true => exact hb
  case refine_2 =>
    split_ifs
    case pos => exact fixed rfl
    case neg => exact .nil
  case refine_3 => split_ifs <;> exact fixed rfl

theorem fieldLine_spell (h : Legible .python m) {f : FieldModel} (hf : f ∈ m.fields)
    {ts : List Token} (ht : Language.python.lexicon.Spells f.typeToken ts) :
    Lines.Spell .python
      ["    " ++ f.name ++ ": " ++ f.typeToken ++ "  # " ++ f.annotation.render]
      ([Token.word f.name, .mark ':'] ++ ts ++ [Token.lineEnd]) := by
  have hi : Language.python.lexicon.Reads .code "    " [] .code := .fixed rfl
  have hm : Language.python.lexicon.Reads .code ": " [.mark ':'] .code := .fixed rfl
  have hc : Language.python.lexicon.Reads .code "  # " [] (.lineComment false) := .fixed rfl
  have hm' : Language.python.lexicon.startsApart ": " := startsApart_fixed rfl
  have hc' : Language.python.lexicon.startsApart "  # " := startsApart_fixed rfl
  have hr := (hi.around (h.fieldName f hf) hm hm').around ht hc hc'
  have hl := Lines.Spell.lineComment_end _ hr (Language.keeps_render rfl f.annotation)
  simp only [List.append_assoc, List.append_nil, List.nil_append] at hl ⊢
  exact hl

theorem fieldLines_declare (h : Legible .python m) : (fieldLines m).Declare .python {} [] {} := by
  apply map_silent
  intro f hf
  have ⟨ts, ht, hs⟩ := h.typeToken f hf
  have hn : scan (Scope.step .python) {} [.word f.name, .mark ':'] = ([], {}) :=
    Scope.scan_word_mark .python _ (by intro turn; cases turn <;> rfl)
  exact ⟨_, fieldLine_spell h hf ht, scan_append (scan_append hn (hs 0 (Nat.zero_le 1))) rfl⟩

theorem statementLine_spell {p : String × String} (hp : p ∈ m.statements.named) :
    Lines.Spell .python
      ["    " ++ upper p.1 ++ ": ClassVar[str] = " ++ Language.python.stringLiteral p.2]
      [.word (upper p.1), .mark ':', .word "ClassVar", .mark '[', .word "str", .mark ']', .mark '=',
        .literal (Language.python.spelled p.2), .lineEnd] := by
  have hi : Language.python.lexicon.Reads .code "    " [] .code := .fixed rfl
  have hc : Language.python.lexicon.Reads .code ": ClassVar[str] = "
      [.mark ':', .word "ClassVar", .mark '[', .word "str", .mark ']', .mark '='] .code :=
    .fixed rfl
  have hc' : Language.python.lexicon.startsApart ": ClassVar[str] = " := startsApart_fixed rfl
  have hr := hi.around (isWord_upper hp).spells hc hc'
  exact .ending _ hr (.code (Language.python.reads_stringLiteral p.2))

theorem statementLines_declare (m : TableModel) :
    (statementLines m).Declare .python {} [] {} := by
  apply map_silent
  intro p hp
  have hn : scan (Scope.step .python) {} [.word (upper p.1), .mark ':'] = ([], {}) :=
    Scope.scan_word_mark .python _ (by intro turn; cases turn <;> rfl)
  exact ⟨_, statementLine_spell hp, scan_append hn rfl⟩

-- Three quotes are an empty text and the quote of the next one.
theorem docstring_spell (m : TableModel) :
    ∃ v, Lines.Spell .python ["    \"\"\"Row of the " ++ commentName m ++ " table.\"\"\""]
      [.literal "", .literal v, .literal "", .lineEnd] := by
  have ha : Language.python.lexicon.Reads .code "    \"\"\"Row of the " [.literal ""]
      (.quoted '\x22' "Row of the ".toList) := .fixed rfl
  have hc := reads_comment_in_quotes (x := Language.python.lexicon) "Row of the ".toList m.table
  obtain ⟨v, hb⟩ : ∃ v, Language.python.lexicon.Reads
      (.quoted '\x22' ("Row of the ".toList ++ (Escape.comment m.table).toList))
      " table.\"\"\"" [.literal v, .literal ""] .code := ⟨_, .fixed rfl⟩
  exact ⟨v, .of_spells (.code ((ha.append hc).append hb))⟩

-- The tokens before the tuple of the keys.
def keyLineStart : List Token :=
  [.word "PRIMARY_KEY", .mark ':', .word "ClassVar", .mark '[', .word "Tuple", .mark '[',
    .word "str", .mark ',', .mark '.', .mark '.', .mark '.', .mark ']', .mark ']', .mark '=']

theorem keyLine_spell (m : TableModel) :
    ∃ ts, Lines.Spell .python
        ["    PRIMARY_KEY: ClassVar[Tuple[str, ...]] = " ++ tuple (keyLiterals .python m)]
        (keyLineStart ++ [Token.mark '('] ++ ts ++ [Token.mark ')', .lineEnd]) ∧ IsListing ts := by
  have ⟨ts, ht, hs⟩ := reads_literals .python m.primaryKey
  have ⟨s, hm, he⟩ := tuple_eq (keyLiterals .python m)
  have hr : Language.python.lexicon.Reads .code
      "    PRIMARY_KEY: ClassVar[Tuple[str, ...]] = " keyLineStart .code :=
    .fixed (by decide)
  have hp : Language.python.lexicon.Reads .code "(" [.mark '('] .code := .fixed rfl
  rw [he, ← String.append_assoc, ← String.append_assoc]
  simp only [List.mem_cons, List.not_mem_nil, or_false] at hm
  cases hm
  case inl hm =>
    refine ⟨ts, ?_, hs⟩
    subst hm
    exact .around _ [.mark ')'] (hr.append hp) (.code ht) (.fixed rfl) (startsApart_fixed rfl)
  case inr hm =>
    refine ⟨ts ++ [.mark ','], ?_, by simpa [IsListing, or_imp, forall_and] using hs⟩
    subst hm
    rw [← List.append_assoc, List.append_assoc _ [Token.mark ',']]
    exact .around _ [.mark ',', .mark ')'] (hr.append hp) (.code ht) (.fixed rfl)
      (startsApart_fixed rfl)

theorem keyLine_declare (m : TableModel) :
    Lines.Declare .python {}
      ["    PRIMARY_KEY: ClassVar[Tuple[str, ...]] = " ++ tuple (keyLiterals .python m)] [] {} := by
  have ⟨ts, hl, hs⟩ := keyLine_spell m
  have ho : scan (Scope.step .python) {} (keyLineStart ++ [.mark '(']) = ([], { depth := 1 }) := rfl
  exact ⟨_, hl, scan_append (scan_append ho (scan_listing hs none 1)) rfl⟩

theorem unit_declare (h : Legible .python m) :
    (unit m).Declare .python {} [⟨false, "class", m.typeName⟩] {} := by
  have hc : Language.python.lexicon.Keeps (commentName m) :=
    Language.keeps_quoteless rfl (commentName_quoteless m)
  have hn : Lines.Declare .python {} [""] [] {} := fixed rfl
  have hh : Lines.Declare .python {}
      ["# Generated by schema_codegen from the " ++ commentName m ++ " table. Do not edit."] []
      {} :=
    lineComment (.fixed rfl) hc (fun question => .fixed (by cases question <;> rfl)) rfl
  have hf : Lines.Declare .python {} ["from __future__ import annotations"] [] {} := fixed rfl
  have hi : Lines.Declare .python {} ["from dataclasses import dataclass"] [] {} := fixed rfl
  have hd : Lines.Declare .python {} ["@dataclass"] [] {} := fixed rfl
  have ht : Lines.Declare .python {} ["class " ++ m.typeName ++ ":"]
      [⟨false, "class", m.typeName⟩] {} :=
    around [.word "class"] [.mark ':'] (.fixed rfl) h.typeName (.fixed rfl) (startsApart_fixed rfl)
      rfl
  have hs : Lines.Declare .python {}
      ["    \"\"\"Row of the " ++ commentName m ++ " table.\"\"\""] [] {} :=
    have ⟨_, hl⟩ := docstring_spell m
    ⟨_, hl, rfl⟩
  have hv : Lines.Declare .python {}
      ["    TABLE: ClassVar[str] = " ++ Language.python.stringLiteral m.table] [] {} :=
    ending [.word "TABLE", .mark ':', .word "ClassVar", .mark '[', .word "str", .mark ']',
      .mark '='] (.fixed rfl) (.code (Language.python.reads_stringLiteral m.table)) rfl
  have hu := (((((hh.cons (hf.cons (hn.cons hi))).append (importLines_declare m)).append
    (hn.cons (hn.cons (hd.cons (ht.cons (hs.cons (hn.cons (hv.cons
      (keyLine_declare m))))))))).append (statementLines_declare m)).append hn).append
    (fieldLines_declare h)
  exact hu.of_eq rfl rfl

end Python

namespace Php

theorem fieldLines_declare (h : Legible .php m) :
    (fieldLines m).Declare .php { depth := 1 } [] { depth := 1 } := by
  apply flatMap_silent
  intro f hf
  obtain ⟨ts, ht, hs⟩ := h.typeToken f hf
  have hn : Lines.Declare .php { depth := 1 } [""] [] { depth := 1 } := fixed rfl
  have ha := ColumnAnnotation.reads_render_in_block .php f.annotation
  have hd : Lines.Declare .php { depth := 1 } ["    /** " ++ f.annotation.render ++ " */"] []
      { depth := 1 } :=
    blockComment (.fixed rfl) ha (fun star => .fixed (by cases star <;> rfl)) rfl
  have hp : scan (Scope.step .php) { depth := 1 } [.word "public"] = ([], { depth := 1 }) := rfl
  refine hn.cons_silent (hd.cons_silent ?_)
  cases f.nullable
  case false =>
    have he : scan (Scope.step .php) { depth := 1 }
      [.mark '$', .word f.name, .mark ';', .lineEnd] = ([], { depth := 1 }) := rfl
    refine between [.word "public"] [.mark '$'] [.mark ';'] (.fixed rfl) ht (.fixed rfl)
      (startsApart_fixed rfl) (h.fieldName f hf) (.fixed rfl) (startsApart_fixed rfl) ?_
    simpa using scan_append (scan_append hp (hs 1 le_rfl)) he
  case true =>
    have he : scan (Scope.step .php) { depth := 1 }
      [.mark '$', .word f.name, .mark '=', .word "null", .mark ';', .lineEnd] =
      ([], { depth := 1 }) := rfl
    refine between [.word "public"] [.mark '$'] [.mark '=', .word "null", .mark ';'] (.fixed rfl)
      ht (.fixed rfl) (startsApart_fixed rfl) (h.fieldName f hf) (.fixed rfl)
      (startsApart_fixed rfl) ?_
    simpa using scan_append (scan_append hp (hs 1 le_rfl)) he

theorem statementLines_declare (m : TableModel) :
    (statementLines m).Declare .php { depth := 1 } [] { depth := 1 } := by
  apply map_silent
  intro p hp
  exact between [.word "public", .word "const"] [.mark '='] [.mark ';'] (.fixed rfl)
    (isWord_upper hp).spells (.fixed rfl) (startsApart_fixed rfl)
    (.code (Language.php.reads_stringLiteral p.2)) (.fixed rfl) (startsApart_fixed rfl) rfl

-- A comment of three lines.
theorem rowComment_declare (m : TableModel) :
    Lines.Declare .php {} ["/**", " * Row of the " ++ commentName m ++ " table.", " */"] [] {} := by
  have ht : Lines.text ["/**", " * Row of the " ++ commentName m ++ " table.", " */"] =
      "/**\n * Row of the " ++ commentName m ++ " table.\n */\n" := by
    apply String.toList_injective
    simp [Lines.text]
  have ho : Language.php.lexicon.Reads .code "/**\n * Row of the " [] (.blockComment false) :=
    .fixed rfl
  obtain ⟨star, hc⟩ := reads_comment_in_block (x := Language.php.lexicon) m.table
  have he : Language.php.lexicon.Reads (.blockComment star) " table.\n */\n" [.lineEnd] .code :=
    .fixed (by cases star <;> rfl)
  refine ⟨[.lineEnd], ?_, rfl⟩
  rw [Lines.Spell, ht]
  exact (ho.append hc).append he

theorem tableLine_declare (m : TableModel) :
    Lines.Declare .php { depth := 1 }
      ["    public const TABLE = " ++ Language.php.stringLiteral m.table ++ ";"] []
      { depth := 1 } :=
  around [.word "public", .word "const", .word "TABLE", .mark '='] [.mark ';'] (.fixed rfl)
    (.code (Language.php.reads_stringLiteral m.table)) (.fixed rfl) (startsApart_fixed rfl) rfl

theorem keyLine_declare (m : TableModel) :
    Lines.Declare .php { depth := 1 } ["    public const PRIMARY_KEY = [" ++
      commaSeparated (keyLiterals .php m) ++ "];"] [] { depth := 1 } := by
  obtain ⟨ts, ht, hs⟩ := reads_literals .php m.primaryKey
  have ho : scan (Scope.step .php) { depth := 1 } [.word "public", .word "const",
      .word "PRIMARY_KEY", .mark '=', .mark '['] = ([], { depth := 2 }) := rfl
  refine around [.word "public", .word "const", .word "PRIMARY_KEY", .mark '=', .mark '[']
    [.mark ']', .mark ';'] (.fixed rfl) (.code ht) (.fixed rfl) (startsApart_fixed rfl) ?_
  exact scan_append (scan_append (scan_append ho (scan_listing hs none 2)) rfl) rfl

-- The lines after the tag that opens the code. `es` comes from the name of the table as above.
theorem unit_declare (h : Legible .php m) {es : List Declaration}
    (hh : Lines.Declare .php {} [header m] es {}) :
    Lines.Declare .php {} (unit m).tail (es ++ [⟨false, "class", m.typeName⟩]) {} := by
  have hn : Lines.Declare .php {} [""] [] {} := fixed rfl
  have hs : Lines.Declare .php {} ["declare(strict_types=1);"] [] {} := fixed rfl
  have hm : Lines.Declare .php {} ["namespace Models;"] [] {} := fixed rfl
  have ht : Lines.Declare .php {} ["final class " ++ m.typeName]
      [⟨false, "class", m.typeName⟩] {} :=
    ending [.word "final", .word "class"] (.fixed rfl) h.typeName rfl
  have ho : Lines.Declare .php {} ["\x7b"] [] { depth := 1 } := fixed rfl
  have he : Lines.Declare .php { depth := 1 } ["\x7d"] [] {} := fixed rfl
  have hu := (((hn.cons (hs.cons hn)).append (hh.cons (hn.cons (hm.cons (hn.cons
    ((rowComment_declare m).append (ht.cons (ho.cons ((tableLine_declare m).cons
      (keyLine_declare m)))))))))).append (statementLines_declare m)).append
    ((fieldLines_declare h).append he)
  refine hu.of_eq ?_ (by simp)
  simp only [unit, opening, List.cons_append, List.nil_append, List.append_assoc, List.tail_cons]
  rfl

end Php

end TypedRows.Layout
