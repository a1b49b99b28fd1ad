import Mathlib.Data.List.Perm.Basic
import TypedRows.Proofs.Definition.WellFormed
import TypedRows.Proofs.Schema.LastDefinition

namespace TypedRows.Ddl

open Diagnostics

-- What a parser makes of the statements of a script, each with the line of its text.
structure Parsed where
  line : Nat
  -- For a text that the parser rejects, what it says of it.
  statement : Except String Sql.Statement

namespace Parsed

def ofText (parse : StatementParser) (s : ScriptStatement) : List Parsed :=
  match parse s.text.toList with
  | .error cause => [⟨s.line, .error cause⟩]
  | .ok statements => statements.map fun x => ⟨s.line, .ok x⟩

def ofScript (parse : StatementParser) (d : Dialect) (script : List Char) : List Parsed :=
  (Script.statementsOf d script).flatMap (ofText parse)

-- A definition with columns of its own, which no other table and no query gives.
def definition? (p : Parsed) : Option Sql.TableDefinition :=
  match p.statement with
  | .ok (.createTable x) => if Reading.isDerived x then none else some x
  | _ => none

def result? (p : Parsed) : Option (Except Diagnostics Table) :=
  p.definition?.map (TableReading.ofDefinition · p.line)

def table? (p : Parsed) : Option Table :=
  match p.result? with
  | some (.ok t) => some t
  | _ => none

def errors (p : Parsed) : Diagnostics :=
  match p.result? with
  | some (.error errors) => errors
  | _ => []

-- Why a statement is passed over.
def passedOverText : Except String Sql.Statement → String
  | .error cause => "Skipping statement that could not be parsed: " ++ cause
  | .ok (.other text) =>
    "Skipping " ++ Reading.leadingWord text ++ " statement; only CREATE TABLE is used"
  | .ok (.createTable x) => "Skipping CREATE TABLE " ++ x.name.render ++
      " without column definitions; only explicit columns are used"

def passedOver (p : Parsed) : Diagnostic :=
  Reading.warning (passedOverText p.statement) { line := some p.line }

section Lists

variable (ps : List Parsed)

-- The tables that are built, in the order of the script.
def tables : List Table :=
  ps.filterMap table?

-- A warning for everything that is not a definition with columns of its own.
def passedOverWarnings : Diagnostics :=
  (ps.filter (·.definition?.isNone)).map passedOver

def redefined (t : Table) : Diagnostic :=
  Reading.warning ("Table '" ++ t.name ++ "' is defined more than once; the last definition is used")
    { table := some t.name, line := t.line }

-- A warning for each table that is replaced.
def redefinitionWarnings : Diagnostics :=
  (Table.replacements (tables ps)).map fun (_, t) => redefined t

end Lists

variable {p : Parsed} {ps : List Parsed}

theorem result?_eq_none_iff : p.result? = none ↔ p.definition? = none :=
  Option.map_eq_none_iff

-- Definitions become tables or errors.
theorem result?_of_definition {x : Sql.TableDefinition} (h : p.definition? = some x) :
    (TableReading.WellFormed x ∧ ∃ t, p.result? = some (.ok t)) ∨
      (¬TableReading.WellFormed x ∧ ∃ errors, p.result? = some (.error errors)) := by
  rw [result?, h, Option.map_some, ← TableReading.ofDefinition_eq_ok_iff x p.line]
  cases TableReading.ofDefinition x p.line
  case ok t => exact .inl ⟨⟨t, rfl⟩, t, rfl⟩
  case error found => exact .inr ⟨by simp, found, rfl⟩

theorem result?_eq_some {result : Except Diagnostics Table} (h : p.result? = some result) :
    ∃ x, p.statement = .ok (.createTable x) ∧ Reading.isDerived x = false ∧
      TableReading.ofDefinition x p.line = result := by
  obtain ⟨x, hx, hr⟩ := Option.map_eq_some_iff.mp h
  unfold definition? at hx
  split at hx
  case h_2 => contradiction
  case h_1 y hy =>
    cases hd : Reading.isDerived y
    case true => rw [hd] at hx; contradiction
    case false =>
      rw [hd] at hx
      cases hx
      exact ⟨x, hy, hd, hr⟩

theorem line_of_result {t : Table} (h : p.result? = some (.ok t)) : t.line = some p.line := by
  obtain ⟨x, _, _, hr⟩ := result?_eq_some h
  exact TableReading.ofDefinition_line hr

theorem refusal_of_result {errors : Diagnostics} (h : p.result? = some (.error errors)) :
    Refusal errors := by
  obtain ⟨x, _, _, hr⟩ := result?_eq_some h
  exact TableReading.ofDefinition_refusal hr

-- What is found in a statement after those that gave the tables `before`.
def found (before : List Table) (p : Parsed) : Diagnostics :=
  match p.result? with
  | none => [p.passedOver]
  | some (.ok t) => if t.key ∈ before.map Table.key then [redefined t] else []
  | some (.error errors) => errors

theorem tables_concat (ps : List Parsed) (p : Parsed) :
    tables (ps ++ [p]) = tables ps ++ p.table?.toList := by
  cases h : p.table? <;> simp [tables, h]

theorem passedOverWarnings_concat (ps : List Parsed) (p : Parsed) :
    passedOverWarnings (ps ++ [p]) =
      passedOverWarnings ps ++ if p.definition?.isNone then [p.passedOver] else [] := by
  cases h : p.definition? <;> simp [passedOverWarnings, h]

theorem redefinitionWarnings_concat (ps : List Parsed) {t : Table} (h : p.table? = some t) :
    (redefinitionWarnings (ps ++ [p])).Perm (redefinitionWarnings ps ++
      if t.key ∈ (tables ps).map Table.key then [redefined t] else []) := by
  have hr := (Table.replacements_concat (tables ps) t).map redefined
  rw [redefinitionWarnings, tables_concat, h]
  split_ifs at hr ⊢ <;> simpa [redefinitionWarnings, Function.comp_def] using hr

theorem found_warnings (ps : List Parsed) (p : Parsed) :
    (passedOverWarnings (ps ++ [p]) ++ redefinitionWarnings (ps ++ [p])).Perm
      ((passedOverWarnings ps ++ redefinitionWarnings ps) ++ (p.found (tables ps)).warnings) := by
  rw [passedOverWarnings_concat, List.append_assoc]
  cases h : p.result?
  case none =>
    have ht : p.table? = none := by rw [table?, h]
    have hf : (p.found (tables ps)).warnings = [p.passedOver] := by rw [found, h]; rfl
    have hr : redefinitionWarnings (ps ++ [p]) = redefinitionWarnings ps := by
      simp [redefinitionWarnings, tables_concat, ht]
    rw [result?_eq_none_iff.mp h, hf, hr, List.append_assoc]
    exact List.perm_append_comm.append_left _
  case some result =>
    have hd : p.definition?.isNone = false := by
      rw [Option.isNone_eq_false_iff, Option.isSome_iff_ne_none, ← result?_eq_none_iff.ne]
      simp [h]
    rw [hd]
    cases result
    case ok t =>
      have hf : (p.found (tables ps)).warnings =
          if t.key ∈ (tables ps).map Table.key then [redefined t] else [] := by
        rw [found, h]
        dsimp only
        split <;> rfl
      have ht : p.table? = some t := by rw [table?, h]
      simpa [hf] using (redefinitionWarnings_concat ps ht).append_left (passedOverWarnings ps)
    case error es =>
      have hf : (p.found (tables ps)).warnings = [] := by
        rw [found, h]
        exact List.filter_eq_nil_iff.mpr fun x hx => by simp [(refusal_of_result h).isError x hx]
      have ht : p.table? = none := by rw [table?, h]
      simp [hf, redefinitionWarnings, tables_concat, ht]

theorem found_errors (before : List Table) (p : Parsed) : (p.found before).errors = p.errors := by
  unfold found errors
  cases h : p.result?
  case none => rfl
  case some result =>
    cases result
    case ok t => dsimp only; split <;> rfl
    case error es =>
      exact List.filter_eq_self.mpr (refusal_of_result h).isError

end Parsed

namespace Reading

variable {r : Reading} {p : Parsed} {ps : List Parsed} {earlier : Diagnostics}

def addParsed (r : Reading) (p : Parsed) : Reading :=
  match p.statement with
  | .error cause => r.skip p.line (rejectedText cause)
  | .ok s => r.addStatement p.line s

theorem addText_eq (parse : StatementParser) (r : Reading) (s : ScriptStatement) :
    r.addText parse s = (Parsed.ofText parse s).foldl addParsed r := by
  unfold addText Parsed.ofText
  cases parse s.text.toList
  case error => rfl
  case ok ss => dsimp only; rw [List.foldl_map]; rfl

theorem addTexts_eq (parse : StatementParser) (r : Reading) (ss : List ScriptStatement) :
    ss.foldl (addText parse) r = (ss.flatMap (Parsed.ofText parse)).foldl addParsed r := by
  induction ss generalizing r
  case nil => rfl
  case cons s ss hi => rw [List.foldl_cons, hi, addText_eq, List.flatMap_cons, List.foldl_append]

theorem addParsed_passedOver (r : Reading) (h : p.definition? = none) :
    r.addParsed p = r.skip p.line (Parsed.passedOverText p.statement) := by
  obtain ⟨line, statement⟩ := p
  unfold Parsed.definition? at h
  unfold addParsed
  cases statement
  case error => rfl
  case ok s =>
    cases s
    case other => rfl
    case createTable x =>
      dsimp only at h ⊢
      cases hx : Reading.isDerived x
      case true => rw [addStatement, if_pos hx]; rfl
      case false => rw [hx] at h; contradiction

theorem addParsed_result (r : Reading) {result : Except Diagnostics Table}
    (h : p.result? = some result) :
    r.addParsed p = match result with
      | .ok t => r.addTable p.line t
      | .error errors => { r with diagnostics := r.diagnostics ++ errors } := by
  obtain ⟨x, hs, hx, hr⟩ := Parsed.result?_eq_some h
  rw [addParsed, hs]
  dsimp only
  rw [addStatement, hx, hr]
  cases result <;> rfl

-- What a reading holds once it took everything in `ps`.
structure Accounts (earlier : Diagnostics) (ps : List Parsed) (r : Reading) : Prop where
  tables : r.schema.tables = Table.lastOfEach (Parsed.tables ps)
  diagnostics : ∃ new, r.diagnostics = earlier ++ new ∧
    new.warnings.Perm (Parsed.passedOverWarnings ps ++ Parsed.redefinitionWarnings ps) ∧
    new.errors = ps.flatMap Parsed.errors

theorem addParsed_schema (h : r.Accounts earlier ps) (p : Parsed) :
    (r.addParsed p).schema.tables = Table.lastOfEach (Parsed.tables (ps ++ [p])) := by
  rw [Parsed.tables_concat]
  unfold Parsed.table?
  cases hr : p.result?
  case none =>
    rw [addParsed_passedOver r (Parsed.result?_eq_none_iff.mp hr)]
    exact (List.append_nil (Parsed.tables ps)).symm ▸ h.tables
  case some result =>
    rw [addParsed_result r hr]
    cases result
    case ok t => exact Schema.add_lastOfEach h.tables
    case error => simpa using h.tables

theorem addParsed_diagnostics (h : r.Accounts earlier ps) (p : Parsed) :
    (r.addParsed p).diagnostics = r.diagnostics ++ p.found (Parsed.tables ps) := by
  unfold Parsed.found
  cases hr : p.result?
  case none => rw [addParsed_passedOver r (Parsed.result?_eq_none_iff.mp hr)]; rfl
  case some result =>
    rw [addParsed_result r hr]
    cases result
    case error => rfl
    case ok t =>
      have hk : (r.schema.table? t.name).isSome ↔ t.key ∈ (Parsed.tables ps).map Table.key := by
        rw [Schema.isSome_table?, h.tables, Table.key_mem_lastOfEach]
      have hw : Parsed.redefined t = warning
          ("Table '" ++ t.name ++ "' is defined more than once; the last definition is used")
          (.ofTable t.name (some p.line)) := by
        rw [Parsed.redefined, Parsed.line_of_result hr]
        rfl
      simp only [addTable, Schema.addReplacing, hk, hw]

theorem Accounts.concat (h : r.Accounts earlier ps) (p : Parsed) :
    (r.addParsed p).Accounts earlier (ps ++ [p]) := by
  obtain ⟨new, hd, hw, he⟩ := h.diagnostics
  refine ⟨addParsed_schema h p, new ++ p.found (Parsed.tables ps), ?_, ?_, ?_⟩
  case refine_1 => rw [addParsed_diagnostics h, hd, List.append_assoc]
  case refine_2 =>
    rw [warnings, List.filter_append]
    exact (hw.append_right _).trans (Parsed.found_warnings ps p).symm
  case refine_3 =>
    rw [Diagnostics.errors, List.filter_append, ← Diagnostics.errors, he, ← Diagnostics.errors,
      Parsed.found_errors]
    simp

theorem Accounts.addAll (h : r.Accounts earlier ps) (qs : List Parsed) :
    (qs.foldl addParsed r).Accounts earlier (ps ++ qs) := by
  induction qs generalizing r ps
  case nil => simpa using h
  case cons q qs hi => simpa using hi (h.concat q)

theorem accounts_ofScript (earlier : Diagnostics) (parse : StatementParser) (d : Dialect)
    (script : List Char) :
    ((Script.statementsOf d script).foldl (addText parse) { diagnostics := earlier }).Accounts
      earlier (Parsed.ofScript parse d script) := by
  have hs : Accounts earlier [] { diagnostics := earlier } :=
    ⟨rfl, [], (List.append_nil earlier).symm, .refl _, rfl⟩
  rw [addTexts_eq]
  exact hs.addAll (Parsed.ofScript parse d script)

-- The error for a script without any table.
theorem emptyError_cases (r : Reading) : r.emptyError = [] ∨
    r.schema.isEmpty ∧ ∃ x, r.emptyError = [x] ∧ x.isError := by
  unfold emptyError
  cases hs : r.schema.isEmpty
  case false => exact .inl rfl
  case true =>
    cases r.diagnostics.hasErrors
    case true => exact .inl rfl
    case false => exact .inr ⟨rfl, _, rfl, rfl⟩

end Reading

-- How the schema and the problems that come from a script answer to everything in it.
structure Answered (ps : List Parsed) (schema : Schema) (new : Diagnostics) : Prop where
  tables : schema.tables = Table.lastOfEach (Parsed.tables ps)
  warnings : new.warnings.Perm (Parsed.passedOverWarnings ps ++ Parsed.redefinitionWarnings ps)
  built : ∀ p ∈ ps, ∀ x, p.definition? = some x → TableReading.WellFormed x →
    p.errors = [] ∧ ∃ t, p.table? = some t
  refused : ∀ p ∈ ps, ∀ x, p.definition? = some x → ¬TableReading.WellFormed x →
    p.errors ≠ [] ∧ p.table? = none
  -- One more error tells that there is no table at all.
  errors : new.errors = ps.flatMap Parsed.errors ∨
    schema.isEmpty ∧ ∃ last, new.errors = ps.flatMap Parsed.errors ++ [last]
  hasErrors_of_isEmpty : schema.isEmpty → new.hasErrors

theorem Parsed.built_or_refused {p : Parsed} {x : Sql.TableDefinition} (h : p.definition? = some x) :
    (TableReading.WellFormed x ∧ p.errors = [] ∧ ∃ t, p.table? = some t) ∨
      (¬TableReading.WellFormed x ∧ p.errors ≠ [] ∧ p.table? = none) := by
  rcases result?_of_definition h with ⟨hw, t, ht⟩ | ⟨hw, es, he⟩
  case inl => exact .inl ⟨hw, by rw [errors, ht], t, by rw [table?, ht]⟩
  case inr =>
    have hn : p.errors ≠ [] := by
      rw [errors, he]
      exact (refusal_of_result he).ne_nil
    exact .inr ⟨hw, hn, by rw [table?, he]⟩

theorem Reading.Accounts.answered {r : Reading} {earlier : Diagnostics} {ps : List Parsed}
    (h : r.Accounts earlier ps) (he : earlier.hasErrors = false) :
    ∃ new, r.diagnostics ++ r.emptyError = earlier ++ new ∧ Answered ps r.schema new := by
  obtain ⟨found, hd, hw, hf⟩ := h.diagnostics
  refine ⟨found ++ r.emptyError, by rw [hd, List.append_assoc], ?_⟩
  constructor
  case tables => exact h.tables
  case warnings =>
    have hn : r.emptyError.warnings = [] := by
      rcases r.emptyError_cases with hx | ⟨_, x, hx, hxe⟩
      case inl => rw [hx]; rfl
      case inr => simp [hx, Diagnostics.warnings, hxe]
    rw [Diagnostics.warnings, List.filter_append, ← Diagnostics.warnings, ← Diagnostics.warnings, hn]
    simpa using hw
  case built =>
    intro p _ x hx hwf
    exact (Parsed.built_or_refused hx).elim (·.2) fun hr => absurd hwf hr.1
  case refused =>
    intro p _ x hx hwf
    exact (Parsed.built_or_refused hx).elim (fun hb => absurd hb.1 hwf) (·.2)
  case errors =>
    rcases r.emptyError_cases with hx | ⟨hs, x, hx, hxe⟩
    case inl => exact .inl (by rw [hx, List.append_nil, hf])
    case inr =>
      refine .inr ⟨hs, x, ?_⟩
      rw [hx, Diagnostics.errors, List.filter_append, ← Diagnostics.errors, hf]
      simp [hxe]
  case hasErrors_of_isEmpty =>
    intro hs
    have ha : (r.diagnostics ++ r.emptyError).hasErrors := hasErrors_of_isEmpty hs
    rw [hd, List.append_assoc, hasErrors, List.any_append, ← hasErrors, he] at ha
    exact ha

theorem read_tables (parse : StatementParser) (d : Dialect) (script : List Char) :
    (read parse d script).1.tables =
      Table.lastOfEach (Parsed.tables (Parsed.ofScript parse d script)) :=
  (Reading.accounts_ofScript [] parse d script).tables

-- Every table of a script stays, is replaced with a warning, or is refused with errors, and all the
-- rest is passed over with a warning.
theorem readAfter_answered {earlier : Diagnostics} (h : earlier.hasErrors = false)
    (parse : StatementParser) (d : Dialect) (script : List Char) :
    ∃ schema new, readAfter earlier parse d script = (schema, earlier ++ new) ∧
      Answered (Parsed.ofScript parse d script) schema new := by
  obtain ⟨new, hn, ha⟩ := (Reading.accounts_ofScript earlier parse d script).answered h
  exact ⟨_, new, by rw [readAfter, hn], ha⟩

-- A table that is defined again, after a warning from elsewhere.
theorem readAfter_answered_redefined :
    let earlier : Diagnostics := [Reading.warning "" .nowhere]
    let parse := Sql.Statement.ofChars .sqlite
    let script := "CREATE TABLE a (x INT); DROP TABLE b; CREATE TABLE A (y INT)".toList
    earlier.hasErrors = false ∧
    (readAfter earlier parse .sqlite script).1.tableNames = ["A"] ∧
    ∃ schema new, readAfter earlier parse .sqlite script = (schema, earlier ++ new) ∧
      Answered (Parsed.ofScript parse .sqlite script) schema new :=
  ⟨rfl, by decide +kernel, readAfter_answered rfl _ _ _⟩

end TypedRows.Ddl
