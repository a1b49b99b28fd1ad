import TypedRows.Proofs.Code.Models
import TypedRows.Proofs.Naming.Validity

namespace TypedRows

open Code Code.Lexicon Identifier Text

-- Words that begin an import.
-- No other line of a unit holds one: names are kept apart from reserved words, and texts stand in
-- literals and comments.
def Language.importKeywords : Language → List String
  | go | typescript => ["import"]
  | python => ["from", "import"]
  | rust | php => ["use"]

namespace Code

section Readers

-- Where a reader of Go stands.
inductive PackagePlace
  | outside
  | path
  -- Between the parentheses around several paths.
  | group
  deriving DecidableEq, Repr

-- The paths of packages that are imported.
def packageStep : PackagePlace → Token → List String × PackagePlace
  | .outside, t => ([], if t = .word "import" then .path else .outside)
  | .path, .literal path => ([path], .outside)
  | .path, t => ([], if t = .mark '(' then .group else .path)
  | .group, .literal path => ([path], .group)
  | .group, t => ([], if t = .mark ')' then .outside else .group)

-- A module, or a name that is imported from it.
structure Import where
  source : String
  name : Option String
  deriving DecidableEq, Repr

-- Where a reader of Python stands.
inductive ModulePlace
  | outside
  | modules
  -- The name of the module so far.
  | source (name : String)
  | names (source : String)
  deriving DecidableEq, Repr

def endsStatement (t : Token) : Bool :=
  t = .lineEnd || t = .mark ';'

-- A dotted name of a module counts with each of its parts if nothing is imported from it.
def moduleStep : ModulePlace → Token → List Import × ModulePlace
  | .outside, t =>
    ([], if t = .word "from" then .source "" else if t = .word "import" then .modules else .outside)
  | .modules, .word w => ([⟨w, none⟩], .modules)
  | .modules, t => ([], if endsStatement t then .outside else .modules)
  | .source m, .word w => ([], if w = "import" then .names m else .source (m ++ w))
  | .source m, .mark c => ([], .source (m.push c))
  | .source m, _ => ([], .source m)
  | .names m, .word w => ([⟨m, some w⟩], .names m)
  | .names m, t => ([], if endsStatement t then .outside else .names m)

-- Words that something is taken from with a dot.
def qualifiers : List Token → List String
  | .word w :: ts => (if ts.head? = some (.mark '.') then [w] else []) ++ qualifiers ts
  | _ :: ts => qualifiers ts
  | [] => []

end Readers

-- Tokens among which no import begins.
def ImportFree (l : Language) (ts : List Token) : Prop :=
  ∀ k ∈ l.importKeywords, .word k ∉ ts

instance (l : Language) (ts : List Token) : Decidable (ImportFree l ts) :=
  inferInstanceAs (Decidable (∀ k ∈ l.importKeywords, _))

variable {l : Language} {ts us : List Token} {w n : String}

namespace ImportFree

theorem nil : ImportFree l [] :=
  fun _ _ => List.not_mem_nil

theorem append (ht : ImportFree l ts) (hu : ImportFree l us) : ImportFree l (ts ++ us) := by
  intro k hk
  simp [ht k hk, hu k hk]

theorem word (h : w ∉ l.importKeywords) : ImportFree l [.word w] := by
  intro k hk hm
  have he : k = w := by simpa using hm
  exact h (he ▸ hk)

theorem of_isListing (h : Layout.IsListing ts) : ImportFree l ts := by
  intro k _ hm
  cases h _ hm <;> simp_all

theorem packages (h : ImportFree .go ts) : scan packageStep .outside ts = ([], .outside) := by
  apply scan_eq_nil
  intro t ht
  have hn : t ≠ .word "import" := ne_of_mem_of_not_mem ht (h "import" (by decide))
  simp [packageStep, hn]

theorem modules (h : ImportFree .python ts) : scan moduleStep .outside ts = ([], .outside) := by
  apply scan_eq_nil
  intro t ht
  have hf : t ≠ .word "from" := ne_of_mem_of_not_mem ht (h "from" (by decide))
  have hn : t ≠ .word "import" := ne_of_mem_of_not_mem ht (h "import" (by decide))
  simp [moduleStep, hf, hn]

end ImportFree

section Names

theorem notMem_importKeywords (h : w ∉ l.keywords) : w ∉ l.importKeywords := by
  have hs : ∀ k ∈ l.importKeywords, k ∈ l.keywords := by cases l <;> decide
  exact fun hk => h (hs w hk)

-- Words that begin an import have small letters only.
theorem notMem_importKeywords_of_isUpper (h : w.toList.any Char.isUpper) :
    n ++ w ∉ l.importKeywords := by
  have hs : ∀ k ∈ l.importKeywords, k.toList.any Char.isUpper = false := by cases l <;> decide
  intro hk
  have hn := hs _ hk
  simp [String.toList_append, List.any_append, h] at hn

end Names

theorem Lexicon.Spells.tokens_eq {x : Lexicon} (hx : x.tagged = false) (h : x.Spells w ts) :
    x.tokens w = ts := by
  have hs : x.start = .code := by simp [start, hx]
  cases h
  case code h => simp [Lexicon.tokens, hs, show scan x.step .code w.toList = _ from h, Place.tokens]
  case word h => simp [Lexicon.tokens, hs, show scan x.step .code w.toList = _ from h, Place.tokens]

end Code

namespace TableModel

variable {l : Language} {d : Dialect} {t : Table} {m : TableModel} {f : FieldModel}

theorem ofTable_notMem_keywords (hl : l ≠ .rust) (h : ofTable l d t = .ok m) :
    m.typeName ∉ l.keywords ∧ ∀ f ∈ m.fields, f.name ∉ l.keywords := by
  have hn : ∀ casing : Casing, casing ≠ .kebab → ∀ raw, l.identifier casing raw ∉ l.keywords := by
    intro casing hk raw hm
    cases l.isName_identifier hk raw
    case inl hi => exact (hi.not_reserved _ hm).1 rfl
    case inr hi => exact hl hi.1
  have ⟨_, hm⟩ := ofTable_ok h
  subst hm
  refine ⟨hn _ (by cases l <;> decide) _, fun f hf => ?_⟩
  have ⟨c, _, hc⟩ := mem_fieldModels hf
  have ⟨k, tokens, _, _, he⟩ := field_eq hc
  subst he
  exact hn _ (by cases l <;> decide) _

theorem ofTable_typeToken (h : ofTable l d t = .ok m) (hf : f ∈ m.fields) :
    ∃ k, f.typeToken = (TypeTokens.ofKind l k).select f.nullable := by
  have ⟨_, hm⟩ := ofTable_ok h
  subst hm
  have ⟨c, _, hc⟩ := mem_fieldModels hf
  have ⟨canonical, tokens, _, ht, he⟩ := field_eq hc
  subst he
  unfold Language.tokens at ht
  split at ht
  case h_1 k _ => cases ht; exact ⟨k, rfl⟩
  case h_2 => contradiction

end TableModel

namespace SourceUnit

-- The paths of the packages that a Go unit imports.
def packages (u : SourceUnit) : List String :=
  (scan packageStep .outside (u.tokens .go)).1

-- The names that a Python unit imports.
def imports (u : SourceUnit) : List Import :=
  (scan moduleStep .outside (u.tokens .python)).1

end SourceUnit

def FieldModel.typeTokens (l : Language) (f : FieldModel) : List Token :=
  l.lexicon.tokens f.typeToken

namespace Layout

variable {l : Language} {m : TableModel} {a b : Lines}

-- Lines in which no import begins.
def Lines.ImportFree (l : Language) (lines : Lines) : Prop :=
  ∃ ts, lines.Spell l ts ∧ Code.ImportFree l ts

namespace Lines.ImportFree

theorem append (ha : ImportFree l a) (hb : ImportFree l b) : ImportFree l (a ++ b) := by
  have ⟨_, ha, ht⟩ := ha
  have ⟨_, hb, hu⟩ := hb
  exact ⟨_, ha.append hb, ht.append hu⟩

theorem cons {a : String} (ha : ImportFree l [a]) (hb : ImportFree l b) : ImportFree l (a :: b) :=
  ha.append hb

theorem map {α : Type} {items : List α} {line : α → String}
    (h : ∀ i ∈ items, ImportFree l [line i]) : ImportFree l (items.map line) := by
  induction items
  case nil => exact ⟨[], .nil, .nil⟩
  case cons i items hi =>
    have ⟨hh, ht⟩ := List.forall_mem_cons.mp h
    exact hh.append (hi ht)

def check (l : Language) (line : List Char) : Bool :=
  let (ts, p) := scan l.lexicon.step .code (line ++ ['\n'])
  p = .code && decide (Code.ImportFree l ts)

theorem fixed {line : List Char} (h : check l line) : ImportFree l [String.ofList line] := by
  have ⟨hp, ht⟩ := Bool.and_eq_true_iff.mp h
  exact ⟨_, .fixed (Prod.ext rfl (of_decide_eq_true hp)), of_decide_eq_true ht⟩

-- A comment line.
theorem of_lineEnd {line : String} (h : Lines.Spell l [line] [.lineEnd]) : ImportFree l [line] :=
  ⟨_, h, fun _ _ => by simp⟩

end Lines.ImportFree

-- What keeps the names and types of a model from beginning an import.
structure Unimporting (l : Language) (m : TableModel) : Prop extends Legible l m where
  typeName_notMem : m.typeName ∉ l.importKeywords
  fieldName_notMem : ∀ f ∈ m.fields, f.name ∉ l.importKeywords
  typeTokens_importFree : ∀ f ∈ m.fields, Code.ImportFree l (f.typeTokens l)
  typeToken_spells : ∀ f ∈ m.fields, l.lexicon.Spells f.typeToken (f.typeTokens l)

theorem importFree_ofKind (hl : l = .go ∨ l = .python) (k : TypeKind) (nullable : Bool) :
    Code.ImportFree l (l.lexicon.tokens ((TypeTokens.ofKind l k).select nullable)) := by
  cases hl <;> subst l <;> cases k <;> cases nullable <;> decide

theorem ofTable_unimporting {d : Dialect} {t : Table} (hl : l = .go ∨ l = .python)
    (h : TableModel.ofTable l d t = .ok m) : Unimporting l m := by
  have hr : l ≠ .rust := by cases hl <;> simp_all
  have hx : l.lexicon.tagged = false := by cases hl <;> simp_all [Language.lexicon]
  have hg := TableModel.ofTable_legible h
  obtain ⟨ht, hf⟩ := TableModel.ofTable_notMem_keywords hr h
  refine ⟨hg, notMem_importKeywords ht, fun f hm => notMem_importKeywords (hf f hm), ?_, ?_⟩
  case refine_1 =>
    intro f hm
    obtain ⟨k, he⟩ := TableModel.ofTable_typeToken h hm
    rw [FieldModel.typeTokens, he]
    exact importFree_ofKind hl k f.nullable
  case refine_2 =>
    intro f hm
    obtain ⟨ts, hs, _⟩ := hg.typeToken f hm
    rw [FieldModel.typeTokens, hs.tokens_eq hx]
    exact hs

namespace Go

open Lines.ImportFree

theorem fieldLine_importFree (h : Unimporting .go m) {f : FieldModel} (hf : f ∈ m.fields)
    (nameWidth typeWidth tagWidth : Nat) :
    Lines.ImportFree .go [fieldLine nameWidth typeWidth tagWidth f] := by
  have ⟨text, hs⟩ := fieldLine_spell h.toLegible hf (h.typeToken_spells f hf) nameWidth typeWidth
    tagWidth
  refine ⟨_, hs, ?_⟩
  have hn : Code.ImportFree .go [.word f.name] := .word (h.fieldName_notMem f hf)
  have he : Code.ImportFree .go [.literal text, .lineEnd] := fun _ _ => by simp
  exact (hn.append (h.typeTokens_importFree f hf)).append he

theorem fieldLines_importFree (h : Unimporting .go m) : (fieldLines m).ImportFree .go :=
  .map fun _ hf => fieldLine_importFree h hf _ _ _

theorem constantLines_importFree (h : Legible .go m) : (constantLines m).ImportFree .go := by
  apply Lines.ImportFree.map
  intro p hp
  refine ⟨_, constantLine_spell h hp _, ?_⟩
  have hd : ∀ name ∈ statementNames, (Casing.pascal.apply name).toList.any Char.isUpper := by decide
  have ⟨q, hq, he⟩ := List.mem_map.mp hp
  have hw : p.1 ∉ Language.go.importKeywords :=
    he ▸ notMem_importKeywords_of_isUpper (hd q.1 (mem_named hq))
  have hr : Code.ImportFree .go [.mark '=', .literal (Language.go.spelled p.2), .lineEnd] :=
    fun _ _ => by simp
  exact (Code.ImportFree.word hw).append hr

theorem tableLine_importFree (h : Legible .go m) :
    Lines.ImportFree .go
      ["const " ++ m.typeName ++ "Table = " ++ Language.go.stringLiteral m.table] := by
  refine ⟨_, tableLine_spell h, ?_⟩
  have hw : m.typeName ++ "Table" ∉ Language.go.importKeywords :=
    notMem_importKeywords_of_isUpper (by decide)
  have hr : Code.ImportFree .go [.mark '=', .literal (Language.go.spelled m.table), .lineEnd] :=
    fun _ _ => by simp
  exact ((Code.ImportFree.word (by decide)).append (.word hw)).append hr

theorem keyLine_importFree (h : Legible .go m) :
    Lines.ImportFree .go ["var " ++ m.typeName ++ "PrimaryKey = []string\x7b" ++
      commaSeparated (keyLiterals .go m) ++ "\x7d"] := by
  have ⟨ts, hs, hl⟩ := keyLine_spell h
  refine ⟨_, hs, ?_⟩
  have hw : m.typeName ++ "PrimaryKey" ∉ Language.go.importKeywords :=
    notMem_importKeywords_of_isUpper (by decide)
  have ho : Code.ImportFree .go [.mark '=', .mark '[', .mark ']', .word "string", .mark '{'] := by
    decide
  have hc : Code.ImportFree .go [.mark '}', .lineEnd] := by decide
  exact ((((Code.ImportFree.word (by decide)).append (.word hw)).append ho).append
    (.of_isListing hl)).append hc

-- The lines before and after the imports.
theorem unit_importFree (h : Unimporting .go m) : ∃ a b, unit m = a ++ importLines (imports m) ++ b ∧
    Lines.ImportFree .go a ∧ Lines.ImportFree .go b := by
  have hg := h.toLegible
  have hk : Language.go.lexicon.Keeps m.typeName := keeps_typeName hg
  have hc : Language.go.lexicon.Keeps (commentName m) :=
    Language.keeps_quoteless rfl (commentName_quoteless m)
  have hh : Lines.ImportFree .go [heading] := fixed rfl
  have hn : Lines.ImportFree .go [""] := fixed rfl
  have hp : Lines.ImportFree .go ["package " ++ package] :=
    ⟨_, .ending [.word "package"] (.fixed rfl) (.word (.fixed rfl)), by decide⟩
  have hr := of_lineEnd (rowComment_spell hg hc)
  have ht : Lines.ImportFree .go ["type " ++ m.typeName ++ " struct \x7b"] := by
    refine ⟨_, .around [.word "type"] [.word "struct", .mark '{'] (.fixed rfl) hg.typeName
      (.fixed rfl) (startsApart_fixed rfl), ?_⟩
    have hs : Code.ImportFree .go ([.word "struct", .mark '{'] ++ [.lineEnd]) := by decide
    exact ((Code.ImportFree.word (by decide)).append (.word h.typeName_notMem)).append hs
  have he : Lines.ImportFree .go ["\x7d"] := fixed rfl
  have hx : Lines.ImportFree .go ["// " ++ m.typeName ++ "Table is the name of the source table."] :=
    of_lineEnd (.lineComment (.fixed rfl) hk fun question => .fixed (by cases question <;> rfl))
  have hs : Lines.ImportFree .go ["// SQL statements for the " ++ commentName m ++ " table."] :=
    of_lineEnd (.lineComment (.fixed rfl) hc fun question => .fixed (by cases question <;> rfl))
  have ho : Lines.ImportFree .go ["const ("] := fixed rfl
  have hd : Lines.ImportFree .go [")"] := fixed rfl
  have hy : Lines.ImportFree .go
      ["// " ++ m.typeName ++ "PrimaryKey lists the primary key columns."] :=
    of_lineEnd (.lineComment (.fixed rfl) hk fun question => .fixed (by cases question <;> rfl))
  have ha := hh.cons (hn.cons (hp.cons hn))
  have hb := ((((hr.cons ht).append (fieldLines_importFree h)).append
    (he.cons (hn.cons (hx.cons ((tableLine_importFree hg).cons (hn.cons (hs.cons ho))))))).append
    (constantLines_importFree hg)).append (hd.cons (hn.cons (hy.cons (keyLine_importFree hg))))
  refine ⟨_, _, ?_, ha, hb⟩
  simp [unit]

theorem importLines_scan (m : TableModel) : ∃ ts, (importLines (imports m)).Spell .go ts ∧
    scan packageStep .outside ts = (imports m, .outside) := by
  have hs : Lines.Spell .go ["import \"database/sql\""]
    [.word "import", .literal "database/sql", .lineEnd] := .fixed rfl
  have ht : Lines.Spell .go ["import \"time\""] [.word "import", .literal "time", .lineEnd] :=
    .fixed rfl
  have ho : Lines.Spell .go ["import ("] [.word "import", .mark '(', .lineEnd] := .fixed rfl
  have hs' : Lines.Spell .go ["\t\"database/sql\""] [.literal "database/sql", .lineEnd] :=
    .fixed rfl
  have ht' : Lines.Spell .go ["\t\"time\""] [.literal "time", .lineEnd] := .fixed rfl
  have hc : Lines.Spell .go [")"] [.mark ')', .lineEnd] := .fixed rfl
  have hn : Lines.Spell .go [""] [.lineEnd] := .fixed rfl
  unfold imports
  split_ifs
  case pos => exact ⟨_, ho.append (hs'.append (ht'.append (hc.append hn))), by decide⟩
  case neg => exact ⟨_, hs.append hn, by decide⟩
  case pos => exact ⟨_, ht.append hn, by decide⟩
  case neg => exact ⟨_, .nil, rfl⟩

theorem unit_packages (h : Unimporting .go m) : (Layout.unit .go m).packages = imports m := by
  have ⟨a, b, hu, ⟨ts, ha, hts⟩, us, hb, hus⟩ := unit_importFree h
  have ⟨is, hi, hs⟩ := importLines_scan m
  have ht := SourceUnit.tokens_text (l := .go) rfl ((ha.append hi).append hb) m.fileName
  have hr := scan_append (scan_append hts.packages hs) hus.packages
  have hl : Layout.unit .go m = ⟨m.fileName, (a ++ importLines (imports m) ++ b).text⟩ := hu ▸ rfl
  rw [SourceUnit.packages, hl, ht, hr]
  simp

end Go

namespace Python

open Lines.ImportFree

theorem fieldLines_importFree (h : Unimporting .python m) :
    (fieldLines m).ImportFree .python := by
  apply Lines.ImportFree.map
  intro f hf
  refine ⟨_, fieldLine_spell h.toLegible hf (h.typeToken_spells f hf), ?_⟩
  have hn : Code.ImportFree .python [.word f.name] := .word (h.fieldName_notMem f hf)
  have hm : Code.ImportFree .python [.mark ':'] := by decide
  have he : Code.ImportFree .python [.lineEnd] := by decide
  exact ((hn.append hm).append (h.typeTokens_importFree f hf)).append he

theorem statementLines_importFree (m : TableModel) : (statementLines m).ImportFree .python := by
  apply Lines.ImportFree.map
  intro p hp
  refine ⟨_, statementLine_spell hp, ?_⟩
  have hd : ∀ name ∈ statementNames, upper name ∉ Language.python.importKeywords := by decide
  have ho : Code.ImportFree .python
      [.mark ':', .word "ClassVar", .mark '[', .word "str", .mark ']', .mark '='] := by decide
  have hv : Code.ImportFree .python [.literal (Language.python.spelled p.2), .lineEnd] :=
    fun _ _ => by simp
  exact ((Code.ImportFree.word (hd p.1 (mem_named hp))).append ho).append hv

theorem docstring_importFree (m : TableModel) : Lines.ImportFree .python
    ["    \"\"\"Row of the " ++ commentName m ++ " table.\"\"\""] := by
  have ⟨v, hs⟩ := docstring_spell m
  exact ⟨_, hs, fun _ _ => by simp⟩

theorem tableLine_importFree (m : TableModel) : Lines.ImportFree .python
    ["    TABLE: ClassVar[str] = " ++ Language.python.stringLiteral m.table] := by
  have hr : Language.python.lexicon.Reads .code "    TABLE: ClassVar[str] = " [.word "TABLE",
    .mark ':', .word "ClassVar", .mark '[', .word "str", .mark ']', .mark '='] .code := .fixed rfl
  have ho : Code.ImportFree .python [.word "TABLE", .mark ':', .word "ClassVar", .mark '[',
    .word "str", .mark ']', .mark '='] := by decide
  have hs := Lines.Spell.ending _ hr (.code (Language.python.reads_stringLiteral m.table))
  exact ⟨_, hs, ho.append fun _ _ => by simp⟩

theorem keyLine_importFree (m : TableModel) : Lines.ImportFree .python
    ["    PRIMARY_KEY: ClassVar[Tuple[str, ...]] = " ++ tuple (keyLiterals .python m)] := by
  have ⟨ts, hs, hl⟩ := keyLine_spell m
  have ho : Code.ImportFree .python (keyLineStart ++ [.mark '(']) := by decide
  have hc : Code.ImportFree .python [.mark ')', .lineEnd] := by decide
  exact ⟨_, hs, (ho.append (.of_isListing hl)).append hc⟩

theorem after_importFree (h : Unimporting .python m) : Lines.ImportFree .python
    (["", "", "@dataclass", "class " ++ m.typeName ++ ":",
      "    \"\"\"Row of the " ++ commentName m ++ " table.\"\"\"", "",
      "    TABLE: ClassVar[str] = " ++ Language.python.stringLiteral m.table,
      "    PRIMARY_KEY: ClassVar[Tuple[str, ...]] = " ++ tuple (keyLiterals .python m)] ++
      statementLines m ++ [""] ++ fieldLines m) := by
  have hn : Lines.ImportFree .python [""] := fixed rfl
  have hd : Lines.ImportFree .python ["@dataclass"] := fixed rfl
  have ht : Lines.ImportFree .python ["class " ++ m.typeName ++ ":"] := by
    refine ⟨_, .around [.word "class"] [.mark ':'] (.fixed rfl) h.typeName (.fixed rfl)
      (startsApart_fixed rfl), ?_⟩
    have hs : Code.ImportFree .python ([.mark ':'] ++ [.lineEnd]) := by decide
    exact ((Code.ImportFree.word (by decide)).append (.word h.typeName_notMem)).append hs
  exact (((hn.cons (hn.cons (hd.cons (ht.cons ((docstring_importFree m).cons (hn.cons
    ((tableLine_importFree m).cons (keyLine_importFree m)))))))).append
    (statementLines_importFree m)).append hn).append (fieldLines_importFree h)

-- Lines that are read as these imports from their start to their end.
def Imports (lines : Lines) (is : List Import) : Prop :=
  ∃ ts, lines.Spell .python ts ∧ scan moduleStep .outside ts = (is, .outside)

namespace Imports

variable {is js : List Import}

theorem append (ha : Imports a is) (hb : Imports b js) : Imports (a ++ b) (is ++ js) := by
  have ⟨_, ha, hs⟩ := ha
  have ⟨_, hb, ht⟩ := hb
  exact ⟨_, ha.append hb, scan_append hs ht⟩

theorem of_importFree (h : Lines.ImportFree .python a) : Imports a [] := by
  have ⟨_, ha, ht⟩ := h
  exact ⟨_, ha, ht.modules⟩

def check (line : List Char) : Code.Place × List Import × ModulePlace :=
  let (ts, p) := scan Language.python.lexicon.step .code (line ++ ['\n'])
  (p, scan moduleStep .outside ts)

theorem fixed {line : List Char} (h : check line = (.code, is, .outside)) :
    Imports [String.ofList line] is := by
  have ⟨hp, hs⟩ := Prod.mk.inj h
  exact ⟨_, .fixed (Prod.ext rfl hp), hs⟩

end Imports

-- The imports that the types of the fields need.
def fieldImports (m : TableModel) : List Import :=
  (["date", "datetime"].filter (uses m)).map (fun name => ⟨"datetime", some name⟩) ++
    (if uses m "Decimal" then [⟨"decimal", some "Decimal"⟩] else []) ++
    (if m.fields.any (·.nullable) then
      [⟨"typing", some "ClassVar"⟩, ⟨"typing", some "Optional"⟩, ⟨"typing", some "Tuple"⟩]
    else [⟨"typing", some "ClassVar"⟩, ⟨"typing", some "Tuple"⟩])

theorem importLines_imports (m : TableModel) : Imports (importLines m) (fieldImports m) := by
  have hd : Imports ["from datetime import date"] [⟨"datetime", some "date"⟩] := .fixed rfl
  have ht : Imports ["from datetime import datetime"] [⟨"datetime", some "datetime"⟩] := .fixed rfl
  have hb : Imports ["from datetime import date, datetime"]
    [⟨"datetime", some "date"⟩, ⟨"datetime", some "datetime"⟩] := .fixed rfl
  have hn : Imports [] [] := ⟨[], .nil, rfl⟩
  refine ((?_ : Imports _ _).append (?_ : Imports _ _)).append (?_ : Imports _ _)
  case refine_1 =>
    cases hx : uses m "date" <;> cases hy : uses m "datetime" <;>
      simp only [List.filter_cons, List.filter_nil, hx, hy]
    case false.false => exact hn
    case false.true => exact ht
    case true.false => exact hd
    case true.true => exact hb
  case refine_2 =>
    split_ifs
    case pos => exact .fixed rfl
    case neg => exact hn
  case refine_3 => split_ifs <;> exact .fixed rfl

def imports (m : TableModel) : List Import :=
  ⟨"__future__", some "annotations"⟩ :: ⟨"dataclasses", some "dataclass"⟩ :: fieldImports m

theorem unit_reads (h : Unimporting .python m) : Imports (unit m) (imports m) := by
  have hc : Language.python.lexicon.Keeps (commentName m) :=
    Language.keeps_quoteless rfl (commentName_quoteless m)
  have hh : Lines.ImportFree .python
      ["# Generated by schema_codegen from the " ++ commentName m ++ " table. Do not edit."] :=
    of_lineEnd (.lineComment (.fixed rfl) hc fun question => .fixed (by cases question <;> rfl))
  have hf : Imports ["from __future__ import annotations"] [⟨"__future__", some "annotations"⟩] :=
    .fixed rfl
  have hn : Imports [""] [] := .fixed rfl
  have hi : Imports ["from dataclasses import dataclass"] [⟨"dataclasses", some "dataclass"⟩] :=
    .fixed rfl
  have ha := (Imports.of_importFree hh).append (hf.append (hn.append hi))
  have hu := (ha.append (importLines_imports m)).append (.of_importFree (after_importFree h))
  simpa [unit, imports] using hu

theorem unit_imports (h : Unimporting .python m) :
    (Layout.unit .python m).imports = imports m := by
  have ⟨ts, hl, hs⟩ := unit_reads h
  have ht : (Layout.unit .python m).tokens .python = ts := SourceUnit.tokens_text rfl hl m.fileName
  rw [SourceUnit.imports, ht, hs]

end Python

section Types

theorem qualifiers_ofKind (k : TypeKind) (nullable : Bool) :
    let token := (TypeTokens.ofKind .go k).select nullable
    let words := qualifiers (Language.go.lexicon.tokens token)
    (∀ q ∈ ["sql", "time"], Go.isQualifiedBy q token ↔ q ∈ words) ∧
      ∀ q ∈ words, q ∈ ["sql", "time"] := by
  cases k <;> cases nullable <;> decide

theorem mentions_ofKind (k : TypeKind) (nullable : Bool) :
    let token := (TypeTokens.ofKind .python k).select nullable
    let ts := Language.python.lexicon.tokens token
    (∀ name ∈ ["date", "datetime", "Decimal"],
      token = name ∨ token = "Optional[" ++ name ++ "]" ↔ .word name ∈ ts) ∧
      (nullable ↔ [.word "Optional", .mark '['] <+: ts) := by
  cases k <;> cases nullable <;> decide

end Types

end Layout

namespace TableModel

open Layout

variable {d : Dialect} {t : Table} {m : TableModel}

theorem isQualifiedBy_iff (h : ofTable .go d t = .ok m) {f : FieldModel} (hf : f ∈ m.fields) :
    (∀ q ∈ ["sql", "time"], Go.isQualifiedBy q f.typeToken ↔ q ∈ qualifiers (f.typeTokens .go)) ∧
      ∀ q ∈ qualifiers (f.typeTokens .go), q ∈ ["sql", "time"] := by
  have ⟨k, hk⟩ := ofTable_typeToken h hf
  rw [FieldModel.typeTokens, hk]
  exact qualifiers_ofKind k f.nullable

theorem mentions_iff (h : ofTable .python d t = .ok m) {f : FieldModel} (hf : f ∈ m.fields) :
    (∀ name ∈ ["date", "datetime", "Decimal"],
      Python.mentions name f ↔ .word name ∈ f.typeTokens .python) ∧
      (f.nullable ↔ [.word "Optional", .mark '['] <+: f.typeTokens .python) := by
  have ⟨k, hk⟩ := ofTable_typeToken h hf
  have ⟨hm, ho⟩ := mentions_ofKind k f.nullable
  simp only [Python.mentions, Bool.or_eq_true, decide_eq_true_eq, FieldModel.typeTokens]
  rw [hk]
  exact ⟨hm, ho⟩

theorem uses_iff (h : ofTable .python d t = .ok m) {name : String}
    (hn : name ∈ ["date", "datetime", "Decimal"]) :
    Python.uses m name ↔ ∃ f ∈ m.fields, .word name ∈ f.typeTokens .python := by
  rw [Python.uses, List.any_eq_true]
  refine exists_congr fun f => and_congr_right fun hf => ?_
  exact (mentions_iff h hf).1 name hn

-- Units import what the types of their fields need, and nothing else that a type could need.
theorem ofTable_imports (d : Dialect) (t : Table) :
    (∀ m, ofTable .go d t = .ok m →
      let packages := (Layout.unit .go m).packages
      let needed := fun q => ∃ f ∈ m.fields, q ∈ qualifiers (f.typeTokens .go)
      ("database/sql" ∈ packages ↔ needed "sql") ∧ ("time" ∈ packages ↔ needed "time") ∧
        packages.Nodup ∧ (∀ p ∈ packages, p = "database/sql" ∨ p = "time") ∧
        ∀ q, needed q → q = "sql" ∨ q = "time") ∧
    (∀ m, ofTable .python d t = .ok m →
      let imports := (Layout.unit .python m).imports
      let mentioned := fun name => ∃ f ∈ m.fields, .word name ∈ f.typeTokens .python
      (⟨"datetime", some "date"⟩ ∈ imports ↔ mentioned "date") ∧
        (⟨"datetime", some "datetime"⟩ ∈ imports ↔ mentioned "datetime") ∧
        (⟨"decimal", some "Decimal"⟩ ∈ imports ↔ mentioned "Decimal") ∧
        (⟨"typing", some "Optional"⟩ ∈ imports ↔
          ∃ f ∈ m.fields, [.word "Optional", .mark '['] <+: f.typeTokens .python) ∧
        imports.Nodup ∧ ∀ i ∈ imports, i ∈ ([⟨"__future__", some "annotations"⟩,
          ⟨"dataclasses", some "dataclass"⟩, ⟨"datetime", some "date"⟩,
          ⟨"datetime", some "datetime"⟩, ⟨"decimal", some "Decimal"⟩, ⟨"typing", some "ClassVar"⟩,
          ⟨"typing", some "Optional"⟩, ⟨"typing", some "Tuple"⟩] : List Import)) := by
  refine ⟨fun m h => ?_, fun m h => ?_⟩
  case refine_1 =>
    have hq : ∀ q ∈ ["sql", "time"], (m.fields.any fun f => Go.isQualifiedBy q f.typeToken) = true ↔
        ∃ f ∈ m.fields, q ∈ qualifiers (f.typeTokens .go) := by
      intro q hq
      rw [List.any_eq_true]
      refine exists_congr fun f => and_congr_right fun hf => ?_
      exact (isQualifiedBy_iff h hf).1 q hq
    have hs := hq "sql" (by decide)
    have ht := hq "time" (by decide)
    intro packages needed
    have hp : packages = Go.imports m := Go.unit_packages (ofTable_unimporting (.inl rfl) h)
    refine ⟨?_, ?_, ?_, ?_, ?_⟩
    case refine_5 =>
      intro q ⟨f, hf, hm⟩
      simpa using (isQualifiedBy_iff h hf).2 q hm
    all_goals
      rw [hp, Go.imports]
      split_ifs <;> simp_all [needed]
  case refine_2 =>
    have hn : m.fields.any (·.nullable) ↔
        ∃ f ∈ m.fields, [.word "Optional", .mark '['] <+: f.typeTokens .python := by
      rw [List.any_eq_true]
      refine exists_congr fun f => and_congr_right fun hf => ?_
      exact (mentions_iff h hf).2
    have hd : Python.uses m "date" ↔ _ := uses_iff h (by decide)
    have ht : Python.uses m "datetime" ↔ _ := uses_iff h (by decide)
    have hc : Python.uses m "Decimal" ↔ _ := uses_iff h (by decide)
    intro imports mentioned
    have hp : imports = Python.imports m := Python.unit_imports (ofTable_unimporting (.inr rfl) h)
    simp only [mentioned, ← hn, ← hd, ← ht, ← hc]
    rw [hp, Python.imports, Python.fieldImports]
    simp only [List.filter_cons, List.filter_nil]
    cases Python.uses m "date" <;> cases Python.uses m "datetime" <;>
      cases Python.uses m "Decimal" <;> cases m.fields.any (·.nullable) <;> decide

-- A day that can be empty needs no package for times, and a price no other module for empty values.
theorem ofTable_imports_nullable :
    let t : Table := {
      name := "visit"
      columns := [
        { name := "day", canonical := some .date },
        { name := "price", canonical := some (.decimal 10 2), nullable := false }] }
    (∃ m, ofTable .go .sqlite t = .ok m ∧ "database/sql" ∈ (Layout.unit .go m).packages ∧
      "time" ∉ (Layout.unit .go m).packages) ∧
    ∃ m, ofTable .python .sqlite t = .ok m ∧
      ⟨"typing", some "Optional"⟩ ∈ (Layout.unit .python m).imports ∧
      ⟨"datetime", some "datetime"⟩ ∉ (Layout.unit .python m).imports := by
  intro t
  have hg : ofTable .go .sqlite t = .ok _ := rfl
  have hp : ofTable .python .sqlite t = .ok _ := rfl
  have ⟨hs, ht, _⟩ := (ofTable_imports .sqlite t).1 _ hg
  have ⟨_, hd, _, ho, _⟩ := (ofTable_imports .sqlite t).2 _ hp
  exact ⟨⟨_, hg, hs.mpr (by decide), fun h => absurd (ht.mp h) (by decide)⟩,
    _, hp, ho.mpr (by decide), fun h => absurd (hd.mp h) (by decide)⟩

end TableModel
end TypedRows
