import TypedRows.Proofs.Code.Statement

namespace TypedRows

open Code Code.Lexicon Identifier Text

namespace Code

-- What follows the start of a text.
def after? (start s : String) : Option String :=
  if start.toList.isPrefixOf s.toList then some (String.ofList (s.toList.drop start.toList.length))
  else none

-- The file of a module, whose name can be a raw word.
def moduleFile (name : String) : String :=
  (after? "r#" name).getD name ++ ".rs"

def ofModule? : List Token → Option String
  | [.word "pub", .word "mod", .word name] => some (moduleFile name)
  | _ => none

def ofUse? : List Token → Option String
  | [.word "pub", .word "use", .word name, .mark ':', .mark ':', .word _] => some (moduleFile name)
  | _ => none

def ofExport? : List Token → Option String
  | [.word "export", .mark '*', .word "from", .literal path] =>
    (after? "./" path).map (· ++ ".ts")
  | _ => none

def ofImport? : List Token → Option String
  | [.word "from", .mark '.', .word name, .word "import", .word _] => some (name ++ ".py")
  | _ => none

def ofRequire? : List Token → Option String
  | [.word "require_once", .word "__DIR__", .mark '.', .literal path] => after? "/" path
  | _ => none

theorem after?_append (start s : String) : after? start (start ++ s) = some s := by
  simp [after?, List.isPrefixOf_iff_prefix]

theorem moduleFile_raw (name : String) : moduleFile ("r#" ++ name) = name ++ ".rs" := by
  rw [moduleFile, after?_append]
  rfl

theorem moduleFile_word {name : String} (h : IsWord name) : moduleFile name = name ++ ".rs" := by
  have hn : ¬"r#".toList <+: name.toList := by
    intro hp
    exact absurd (h.isWordChar '#' (hp.subset (by decide))) (by decide)
  have ha : after? "r#" name = none := by
    rw [after?, if_neg (by rwa [List.isPrefixOf_iff_prefix])]
  rw [moduleFile, ha]
  rfl

end Code

-- The files to which an index refers: a list for each kind of statement that can refer to one.
def SourceUnit.referredFiles (l : Language) (u : SourceUnit) : List (List String) :=
  let files (of? : List Token → Option String) := (u.statements l).filterMap of?
  match l with
  | .go => []
  | .rust => [files ofModule?, files ofUse?]
  | .typescript => [files ofExport?]
  | .python => [files ofImport?]
  | .php => [files ofRequire?]

namespace Language

theorem literalChar_plain (l : Language) {c : Char} (h : isNameChar c ∨ c ∈ ['.', '/']) :
    l.literalChar c = [c] := by
  have hs : c ∉ ['\\', '\x22', '\n', '\r', '\t', '\x27'] := by
    have hd : ∀ c ∈ ['\\', '\x22', '\n', '\r', '\t', '\x27'], ¬(isNameChar c ∨ c ∈ ['.', '/']) := by
      simp [isNameChar, Identifier.isWordChar]
    exact fun hm => hd c hm h
  simp only [List.mem_cons, List.not_mem_nil, or_false, not_or] at hs
  have hq : Escape.quotedChar c = [c] := by
    rcases Escape.quotedChar_cases c with ⟨_, hx⟩ | ⟨hm, _⟩
    case inl => exact hx
    case inr => simp_all
  cases l <;> simp [literalChar, hq, hs]

theorem spelled_plain (l : Language) {value : String}
    (h : ∀ c ∈ value.toList, isNameChar c ∨ c ∈ ['.', '/']) : l.spelled value = value := by
  have hf : value.toList.flatMap l.literalChar = value.toList.flatMap fun c => [c] :=
    List.flatMap_congr fun c hc => l.literalChar_plain (h c hc)
  rw [spelled, hf, List.flatMap_singleton', String.ofList_toList]

theorem fileStem_isNameChar (l : Language) (t : Table) :
    ∀ c ∈ (l.fileStem t).toList, isNameChar c := by
  obtain ⟨name, hc, _, he⟩ := l.fileStem_eq t
  rw [he]
  split_ifs
  case pos => exact l.escapeKeyword_isNameChar hc
  case neg => exact hc

-- A literal of characters that need no escape.
theorem stringLiteral_plain (l : Language) {value : String}
    (h : ∀ c ∈ value.toList, isNameChar c ∨ c ∈ ['.', '/']) :
    l.stringLiteral value = String.ofList [l.quote] ++ value ++ String.ofList [l.quote] := by
  apply String.toList_injective
  simp [stringLiteral_eq_spelled, l.spelled_plain h]

-- A name that is kept apart from reserved words starts no declaration.
theorem declares_escapeKeyword (name : String) :
    python.declares (python.escapeKeyword name) = false := by
  have hw : ∀ word, python.declares word = true → word = "class" := by
    intro word h
    simpa [declares, hasKeyword, typeKeywords, valueKeywords, eq_comm] using h
  have hc : python.isKeyword "class" := by decide
  cases hd : python.declares (python.escapeKeyword name)
  case false => rfl
  case true =>
    have hx := hw _ hd
    unfold escapeKeyword at hx
    split_ifs at hx with hk hr
    case pos => simp [hx, hc] at hk
    case pos => simp at hr
    case neg =>
      have hl := congrArg (·.toList.getLast?) hx
      simp at hl

theorem fileName_eq {l : Language} {x : String} (hx : "." ++ l.extension = x) (t : Table) :
    l.fileName t = l.fileStem t ++ x := by
  rw [fileName, String.append_assoc, hx]

end Language

namespace Layout

namespace Rust

theorem isWord_fileStem (t : Table) : IsWord (Language.rust.fileStem t) := by
  obtain ⟨name, _, hw, he⟩ := Language.rust.fileStem_eq t
  rw [he, if_neg (by decide)]
  exact hw (by decide)

theorem moduleName_eq (t : Table) : moduleName (.ofTable .rust t) =
    Language.rust.escapeKeyword (Language.rust.fileStem t) := by
  rw [moduleName, Entry.ofTable]

theorem moduleFile_escapeKeyword {name : String} (h : IsWord name) :
    moduleFile (Language.rust.escapeKeyword name) = name ++ ".rs" ↔
      ¬Language.hasNoRawForm name := by
  unfold Language.escapeKeyword
  split_ifs with hk hr
  case pos =>
    have hd : ∀ name ∈ ["self", "Self", "super", "crate"], Language.rust.isKeyword name := by decide
    refine iff_of_true (moduleFile_word h) ?_
    intro hx
    simp [hd name (List.contains_iff_mem.mp hx)] at hk
  case pos =>
    simp only [Bool.and_eq_true, Bool.not_eq_true'] at hr
    exact iff_of_true (moduleFile_raw name) (by simp [hr.2])
  case neg =>
    have hx : Language.hasNoRawForm name := by simpa using hr
    have hu : IsWord (name ++ "_") := h.append_right (List.all_eq_true.mp rfl)
    rw [moduleFile_word hu]
    refine iff_of_false ?_ (by simpa using hx)
    intro h
    have hl := congrArg String.length h
    simp at hl

-- The reserved words without a raw form are escaped in the index and not in the name of the file.
theorem moduleFile_moduleName (t : Table) :
    moduleFile (moduleName (.ofTable .rust t)) = Language.rust.fileName t ↔
      ¬Language.hasNoRawForm (Language.rust.fileStem t) := by
  have hx : "." ++ Language.rust.extension = ".rs" := rfl
  rw [moduleName_eq, Language.fileName_eq hx]
  exact moduleFile_escapeKeyword (isWord_fileStem t)

theorem spells_moduleName (t : Table) : Language.rust.lexicon.Spells
    (moduleName (.ofTable .rust t)) [.word (moduleName (.ofTable .rust t))] := by
  rw [moduleName_eq]
  exact Language.rust.spells_escapeKeyword (isWord_fileStem t)

def modStatement (e : Entry) : List Token :=
  [.word "pub", .word "mod", .word (moduleName e)]

def useStatement (e : Entry) : List Token :=
  [.word "pub", .word "use", .word (moduleName e), .mark ':', .mark ':', .word e.typeName]

section Lines

variable {e : Entry}

theorem modLine_state (h : Language.rust.lexicon.Spells (moduleName e) [.word (moduleName e)]) :
    Lines.State .rust ["pub mod " ++ moduleName e ++ ";"] [modStatement e] := by
  have ha : Language.rust.lexicon.Reads .code "pub mod " [.word "pub", .word "mod"] .code :=
    .fixed rfl
  have hb : Language.rust.lexicon.Reads .code ";" [.mark ';'] .code := .fixed rfl
  have ho : scan (Scope.step .rust) {} [.word "pub", .word "mod"] = ([], {}) := rfl
  have hm : scan (Scope.step .rust) {} [.word (moduleName e), .mark ';'] = ([], {}) :=
    Scope.scan_word_mark .rust _ (by intro turn; cases turn <;> rfl)
  exact .of_spells (.code (ha.around h hb (startsApart_fixed rfl)))
    (scan_append (scan_append ho hm) rfl) rfl

theorem useLine_state (h : Language.rust.lexicon.Spells (moduleName e) [.word (moduleName e)])
    (hn : Language.rust.lexicon.Spells e.typeName [.word e.typeName]) :
    Lines.State .rust ["pub use " ++ moduleName e ++ "::" ++ e.typeName ++ ";"]
      [useStatement e] := by
  have ha : Language.rust.lexicon.Reads .code "pub use " [.word "pub", .word "use"] .code :=
    .fixed rfl
  have hb : Language.rust.lexicon.Reads .code "::" [.mark ':', .mark ':'] .code := .fixed rfl
  have hc : Language.rust.lexicon.Reads .code ";" [.mark ';'] .code := .fixed rfl
  have ho : scan (Scope.step .rust) {} [.word "pub", .word "use"] = ([], {}) := rfl
  have hm : scan (Scope.step .rust) {} [.word (moduleName e), .mark ':'] = ([], {}) :=
    Scope.scan_word_mark .rust _ (by intro turn; cases turn <;> rfl)
  have hd : scan (Scope.step .rust) {} [.mark ':'] = ([], {}) := rfl
  have ht : scan (Scope.step .rust) {} [.word e.typeName, .mark ';'] = ([], {}) :=
    Scope.scan_word_mark .rust _ (by intro turn; cases turn <;> rfl)
  have hl := (ha.around h hb (startsApart_fixed rfl)).around hn hc (startsApart_fixed rfl)
  have hs := scan_append (scan_append (scan_append ho hm) hd) ht
  exact .of_spells (.code hl) (scan_append hs rfl) rfl

end Lines

theorem index_state {es : List Entry}
    (h : ∀ e ∈ es, Language.rust.lexicon.Spells (moduleName e) [.word (moduleName e)] ∧
      Language.rust.lexicon.Spells e.typeName [.word e.typeName]) :
    (index es).State .rust (es.map modStatement ++ es.map useStatement) := by
  have hn : Lines.State .rust [""] [] := .fixed rfl
  have hh : Lines.State .rust ["//! Generated by schema_codegen. Do not edit."] [] := .fixed rfl
  have hm := Lines.State.map fun e he => modLine_state (h e he).1
  have hu := Lines.State.map fun e he => useLine_state (h e he).1 (h e he).2
  exact ((((hh.cons hn).append hm).append hn).append hu).of_eq rfl (by simp)

end Rust

namespace TypeScript

def exportStatement (e : Entry) : List Token :=
  [.word "export", .mark '*', .word "from", .literal ("./" ++ e.stem)]

theorem exportLine_state {e : Entry} (h : ∀ c ∈ e.stem.toList, isNameChar c) :
    Lines.State .typescript ["export * from \"./" ++ e.stem ++ "\";"] [exportStatement e] := by
  have ha : Language.typescript.lexicon.Reads .code "export * from "
      [.word "export", .mark '*', .word "from"] .code := .fixed rfl
  have hb : Language.typescript.lexicon.Reads .code ";" [.mark ';'] .code := .fixed rfl
  have hp : ∀ c ∈ ("./" ++ e.stem).toList, isNameChar c ∨ c ∈ ['.', '/'] := by
    rw [String.toList_append]
    exact List.forall_mem_append.mpr ⟨by simp, fun c hc => .inl (h c hc)⟩
  have hq : "export * from \"./" ++ e.stem ++ "\";" =
      "export * from " ++ Language.typescript.stringLiteral ("./" ++ e.stem) ++ ";" := by
    apply String.toList_injective
    simp [Language.stringLiteral_plain _ hp, Language.quote]
  have hl := Language.typescript.reads_stringLiteral ("./" ++ e.stem)
  rw [Language.spelled_plain _ hp] at hl
  rw [hq]
  exact .of_spells (.code ((ha.append hl).append hb)) rfl rfl

theorem index_state {es : List Entry} (h : ∀ e ∈ es, ∀ c ∈ e.stem.toList, isNameChar c) :
    (index es).State .typescript (es.map exportStatement) := by
  have hh : Lines.State .typescript ["// Generated by schema_codegen. Do not edit."] [] :=
    .fixed rfl
  have hn : Lines.State .typescript [""] [] := .fixed rfl
  have hx := Lines.State.map fun e he => exportLine_state (h e he)
  exact ((hh.cons hn).append hx).of_eq rfl (by simp)

end TypeScript

namespace Python

def importStatement (e : Entry) : List Token :=
  [.word "from", .mark '.', .word e.stem, .word "import", .word e.typeName]

theorem importLine_state {e : Entry} (hs : IsWord e.stem) (hn : IsWord e.typeName)
    (hs' : Language.python.declares e.stem = false)
    (hn' : Language.python.declares e.typeName = false) :
    Lines.State .python ["from ." ++ e.stem ++ " import " ++ e.typeName] [importStatement e] := by
  have ha : Language.python.lexicon.Reads .code "from ." [.word "from", .mark '.'] .code :=
    .fixed rfl
  have hb : Language.python.lexicon.Reads .code " import " [.word "import"] .code := .fixed rfl
  have hw : ∀ w, Language.python.declares w = false →
      scan (Scope.step .python) {} [.word w] = ([], {}) := by
    intro w hw
    simp [scan, Scope.step, Scope.atWord, Scope.leave, hw]
  have hf : scan (Scope.step .python) {} [.word "from", .mark '.'] = ([], {}) := rfl
  have hi : scan (Scope.step .python) {} [.word "import"] = ([], {}) := rfl
  exact .of_spells ((ha.around hs.spells hb (startsApart_fixed rfl)).ending hn.spells)
    (scan_append (scan_append (scan_append (scan_append hf (hw _ hs')) hi) (hw _ hn')) rfl) rfl

def allStatement (listing : List Token) : List Token :=
  [.word "__all__", .mark '=', .mark '['] ++ listing ++ [.mark ']']

theorem allLine_state (names : List String) :
    ∃ listing, Lines.State .python
      ["__all__ = [" ++ commaSeparated (names.map Language.python.stringLiteral) ++ "]"]
      [allStatement listing] := by
  obtain ⟨ts, ht, hs⟩ := reads_literals .python names
  have ha : Language.python.lexicon.Reads .code "__all__ = ["
      [.word "__all__", .mark '=', .mark '['] .code := .fixed rfl
  have hb : Language.python.lexicon.Reads .code "]" [.mark ']'] .code := .fixed rfl
  have ho : scan (Scope.step .python) {} [.word "__all__", .mark '=', .mark '['] =
      ([], { depth := 1 }) := rfl
  refine ⟨ts, .of_spells (.code ((ha.append ht).append hb))
    (scan_append (scan_append (scan_append ho (scan_listing hs none 1)) rfl) rfl) ?_⟩
  have hx : scan statementStep [] [.word "__all__", .mark '=', .mark '['] =
      ([], [.word "__all__", .mark '=', .mark '[']) := rfl
  have hy : scan statementStep ([.word "__all__", .mark '=', .mark '['] ++ ts)
      [.mark ']', .lineEnd] = ([allStatement ts], []) := rfl
  simpa using scan_append (scan_append hx (scan_statement_listing hs _)) hy

theorem index_state {es : List Entry} (h : ∀ e ∈ es, IsWord e.stem ∧ IsWord e.typeName ∧
      Language.python.declares e.stem = false ∧ Language.python.declares e.typeName = false) :
    ∃ listing, (index es).State .python (es.map importStatement ++ [allStatement listing]) := by
  have hh : Lines.State .python ["# Generated by schema_codegen. Do not edit."] [] := .fixed rfl
  have hn : Lines.State .python [""] [] := .fixed rfl
  have hi := Lines.State.map fun e he =>
    have ⟨hs, hn, hs', hn'⟩ := h e he
    importLine_state hs hn hs' hn'
  obtain ⟨listing, ha⟩ := allLine_state (es.map (·.typeName))
  refine ⟨listing, ((hh.append hi).append (hn.cons ha)).of_eq ?_ (by simp)⟩
  rw [index, List.map_map]
  rfl

end Python

namespace Php

def requireStatement (e : Entry) : List Token :=
  [.word "require_once", .word "__DIR__", .mark '.', .literal ("/" ++ e.fileName)]

theorem requireLine_state {e : Entry} (h : ∀ c ∈ e.fileName.toList, isNameChar c ∨ c ∈ ['.', '/']) :
    Lines.State .php
      ["require_once __DIR__ . " ++ Language.php.stringLiteral ("/" ++ e.fileName) ++ ";"]
      [requireStatement e] := by
  have ha : Language.php.lexicon.Reads .code "require_once __DIR__ . "
      [.word "require_once", .word "__DIR__", .mark '.'] .code := .fixed rfl
  have hb : Language.php.lexicon.Reads .code ";" [.mark ';'] .code := .fixed rfl
  have hp : ∀ c ∈ ("/" ++ e.fileName).toList, isNameChar c ∨ c ∈ ['.', '/'] := by
    rw [String.toList_append]
    exact List.forall_mem_append.mpr ⟨by simp, h⟩
  have hl := Language.php.reads_stringLiteral ("/" ++ e.fileName)
  rw [Language.spelled_plain _ hp] at hl
  exact .of_spells (.code ((ha.append hl).append hb)) rfl rfl

def strictStatement : List Token :=
  [.word "declare", .mark '(', .word "strict_types", .mark '=', .word "1", .mark ')']

-- The lines after the tag that opens the code.
theorem index_state {es : List Entry}
    (h : ∀ e ∈ es, ∀ c ∈ e.fileName.toList, isNameChar c ∨ c ∈ ['.', '/']) :
    Lines.State .php (index es).tail (strictStatement :: es.map requireStatement) := by
  have hn : Lines.State .php [""] [] := .fixed rfl
  have hs : Lines.State .php ["declare(strict_types=1);"] [strictStatement] := .fixed rfl
  have hh : Lines.State .php ["// Generated by schema_codegen. Do not edit."] [] := .fixed rfl
  have hr := Lines.State.map fun e he => requireLine_state (h e he)
  exact ((hn.cons (hs.cons (hn.cons (hh.cons hn)))).append hr).of_eq rfl (by simp)

end Php

namespace Go

theorem index_state {es : List Entry} (h : ∀ e ∈ es, ColumnAnnotation.Quoteless e.typeName) :
    (index es).State .go [[.word "package", .word package]] := by
  have hr : ∀ {a : String} {question : Bool},
      Language.go.lexicon.Reads .code a [] (.lineComment question) → Lines.State .go [a] [] :=
    fun h => ⟨_, .of_comment h, rfl, rfl⟩
  have hh : Lines.State .go [heading] [] := .fixed rfl
  have hn : Lines.State .go [""] [] := .fixed rfl
  have hs : Lines.State .go ["//"] [] := .fixed rfl
  have hc : Lines.State .go ["// Package " ++ package ++ " holds generated table models."] [] := by
    have ha : Language.go.lexicon.Reads .code "// Package " [] (.lineComment false) := .fixed rfl
    have hk : Language.go.lexicon.Reads (.lineComment false) package [] (.lineComment false) :=
      .fixed rfl
    have hb : Language.go.lexicon.Reads (.lineComment false) " holds generated table models." []
      (.lineComment false) := .fixed rfl
    exact hr ((ha.append hk).append hb)
  have ht : Lines.State .go ["// Types: " ++ commaSeparated (es.map (·.typeName))] [] := by
    have ha : Language.go.lexicon.Reads .code "// Types: " [] (.lineComment false) := .fixed rfl
    have hk : Language.go.lexicon.Keeps (commaSeparated (es.map (·.typeName))) :=
      Language.keeps_quoteless rfl (commaSeparated_quoteless (List.forall_mem_map.mpr h))
    obtain ⟨question, hq⟩ := hk.reads
    exact hr (ha.append hq)
  have hp : Lines.State .go ["package " ++ package] [[.word "package", .word package]] := by
    have ha : Language.go.lexicon.Reads .code "package " [.word "package"] .code := .fixed rfl
    exact .of_spells (ha.ending (.word (.fixed rfl))) rfl rfl
  exact (hh.cons (hn.cons (hc.cons (hs.cons (ht.cons hp))))).of_eq rfl rfl

end Go

section Entries

variable (l : Language) (t : Table)

theorem Entry.typeName_eq : (Entry.ofTable l t).typeName = l.identifier .pascal t.name :=
  rfl

theorem Entry.stem_eq : (Entry.ofTable l t).stem = l.fileStem t :=
  rfl

theorem Entry.fileName_eq : (Entry.ofTable l t).fileName = l.fileName t :=
  rfl

theorem Entry.stem_append {x : String} (hx : "." ++ l.extension = x) :
    (Entry.ofTable l t).stem ++ x = l.fileName t := by
  rw [stem_eq, Language.fileName_eq hx]

theorem Entry.spells_typeName :
    l.lexicon.Spells (Entry.ofTable l t).typeName [.word (Entry.ofTable l t).typeName] := by
  rw [typeName_eq]
  exact l.spells_identifier (by decide) t.name

theorem Entry.typeName_quoteless : ColumnAnnotation.Quoteless (Entry.ofTable l t).typeName := by
  rw [typeName_eq]
  exact quoteless_of_isNameChar (l.identifier_isNameChar _ t.name)

theorem Entry.stem_isNameChar : ∀ c ∈ (Entry.ofTable l t).stem.toList, isNameChar c := by
  rw [stem_eq]
  exact l.fileStem_isNameChar t

theorem Entry.fileName_plain :
    ∀ c ∈ (Entry.ofTable l t).fileName.toList, isNameChar c ∨ c ∈ ['.', '/'] := by
  have hd : ∀ c ∈ ("." ++ l.extension).toList, isNameChar c ∨ c ∈ ['.', '/'] := by
    cases l <;> simp [Language.extension, isNameChar, Identifier.isWordChar]
  rw [fileName_eq, Language.fileName_eq rfl, String.toList_append]
  exact List.forall_mem_append.mpr ⟨fun c hc => .inl (l.fileStem_isNameChar t c hc), hd⟩

theorem Entry.python_words : IsWord (Entry.ofTable .python t).stem ∧
    IsWord (Entry.ofTable .python t).typeName ∧
    Language.python.declares (Entry.ofTable .python t).stem = false ∧
    Language.python.declares (Entry.ofTable .python t).typeName = false := by
  obtain ⟨name, _, hw, hs⟩ := Language.python.fileStem_eq t
  have hk : Casing.pascal ≠ .kebab := by decide
  obtain ⟨word, hn, ht⟩ := Language.python.identifier_eq hk t.name
  rw [if_pos rfl] at hs
  rw [stem_eq, typeName_eq, hs, ht]
  exact ⟨Language.isWord_escapeKeyword (by decide) (hw (by decide)),
    Language.isWord_escapeKeyword (by decide) hn, Language.declares_escapeKeyword name,
    Language.declares_escapeKeyword word⟩

end Entries

section Index

variable (s : Schema)

theorem forall_mem_entries {l : Language} {p : Entry → Prop} (h : ∀ t, p (.ofTable l t)) :
    ∀ e ∈ s.tables.map (Entry.ofTable l), p e :=
  List.forall_mem_map.mpr fun t _ => h t

theorem index_rust : (index .rust s).statements .rust =
      (s.tables.map (Entry.ofTable .rust)).map Rust.modStatement ++
        (s.tables.map (Entry.ofTable .rust)).map Rust.useStatement ∧
    (index .rust s).declarations .rust = [] :=
  SourceUnit.statements_text rfl (Rust.index_state (forall_mem_entries s fun t =>
    ⟨Rust.spells_moduleName t, Entry.spells_typeName .rust t⟩)) _

theorem index_typescript : (index .typescript s).statements .typescript =
      (s.tables.map (Entry.ofTable .typescript)).map TypeScript.exportStatement ∧
    (index .typescript s).declarations .typescript = [] :=
  SourceUnit.statements_text rfl (TypeScript.index_state (forall_mem_entries s fun t =>
    Entry.stem_isNameChar .typescript t)) _

theorem index_python : ∃ listing, (index .python s).statements .python =
      (s.tables.map (Entry.ofTable .python)).map Python.importStatement ++
        [Python.allStatement listing] ∧
    (index .python s).declarations .python = [] := by
  obtain ⟨listing, h⟩ := Python.index_state (forall_mem_entries s Entry.python_words)
  exact ⟨listing, SourceUnit.statements_text rfl h _⟩

theorem index_php : (index .php s).statements .php = Php.strictStatement ::
      (s.tables.map (Entry.ofTable .php)).map Php.requireStatement ∧
    (index .php s).declarations .php = [] :=
  SourceUnit.statements_tagged (Php.index_state (forall_mem_entries s fun t =>
    Entry.fileName_plain .php t)) _

theorem index_go : (index .go s).statements .go = [[.word "package", .word Go.package]] ∧
    (index .go s).declarations .go = [] :=
  SourceUnit.statements_text rfl (Go.index_state (forall_mem_entries s fun t =>
    Entry.typeName_quoteless .go t)) _

theorem index_declarations (l : Language) : (index l s).declarations l = [] := by
  cases l
  case go => exact (index_go s).2
  case rust => exact (index_rust s).2
  case typescript => exact (index_typescript s).2
  case python => obtain ⟨_, _, h⟩ := index_python s; exact h
  case php => exact (index_php s).2

section Files

variable {l : Language} {statement : Entry → List Token} {of? : List Token → Option String}
  {es : List Entry}

theorem filterMap_files {file : Entry → String} (h : ∀ e, of? (statement e) = some (file e)) :
    (es.map statement).filterMap of? = es.map file := by
  rw [List.filterMap_map, ← List.filterMap_eq_map]
  exact List.filterMap_congr fun e _ => h e

theorem filterMap_others (h : ∀ e, of? (statement e) = none) :
    (es.map statement).filterMap of? = [] := by
  rw [List.filterMap_map]
  exact List.filterMap_eq_nil_iff.mpr fun e _ => h e

theorem ofExport?_exportStatement (e : Entry) :
    ofExport? (TypeScript.exportStatement e) = some (e.stem ++ ".ts") := by
  rw [TypeScript.exportStatement, ofExport?, after?_append]
  rfl

theorem ofRequire?_requireStatement (e : Entry) :
    ofRequire? (Php.requireStatement e) = some e.fileName := by
  rw [Php.requireStatement, ofRequire?, after?_append]

theorem referredFiles_rust : (index .rust s).referredFiles .rust = List.replicate 2
    ((s.tables.map (Entry.ofTable .rust)).map fun e => moduleFile (Rust.moduleName e)) := by
  have hm : ∀ e, ofModule? (Rust.modStatement e) = some (moduleFile (Rust.moduleName e)) :=
    fun _ => rfl
  have hu : ∀ e, ofUse? (Rust.useStatement e) = some (moduleFile (Rust.moduleName e)) :=
    fun _ => rfl
  have hm' : ∀ e, ofModule? (Rust.useStatement e) = none := fun _ => rfl
  have hu' : ∀ e, ofUse? (Rust.modStatement e) = none := fun _ => rfl
  unfold SourceUnit.referredFiles
  dsimp only
  rw [(index_rust s).1, List.filterMap_append, List.filterMap_append, filterMap_files hm,
    filterMap_files hu, filterMap_others hm', filterMap_others hu', List.append_nil,
    List.nil_append]
  rfl

theorem referredFiles_index (hr : l ≠ .rust) (hg : l ≠ .go) :
    (index l s).referredFiles l = [s.tables.map l.fileName] := by
  have hf : ∀ {file : Entry → String}, (∀ t, file (.ofTable l t) = l.fileName t) →
      (s.tables.map (Entry.ofTable l)).map file = s.tables.map l.fileName := by
    intro file h
    rw [List.map_map]
    exact List.map_congr_left fun t _ => h t
  unfold SourceUnit.referredFiles
  cases l
  case go => contradiction
  case rust => contradiction
  case typescript =>
    have hx : "." ++ Language.typescript.extension = ".ts" := rfl
    dsimp only
    rw [(index_typescript s).1, filterMap_files ofExport?_exportStatement, hf]
    exact fun t => Entry.stem_append _ t hx
  case python =>
    have hx : "." ++ Language.python.extension = ".py" := rfl
    have hi : ∀ e, ofImport? (Python.importStatement e) = some (e.stem ++ ".py") := fun _ => rfl
    obtain ⟨listing, hl, _⟩ := index_python s
    dsimp only
    rw [hl, List.filterMap_append, filterMap_files hi, hf]
    · exact congrArg (fun fs => [fs]) (List.append_nil _)
    · exact fun t => Entry.stem_append _ t hx
  case php =>
    dsimp only
    rw [(index_php s).1, List.filterMap_cons_none rfl, filterMap_files ofRequire?_requireStatement,
      hf]
    exact Entry.fileName_eq _

end Files

end Index

end Layout
end TypedRows
