import TypedRows.Proofs.Definition.Script
import TypedRows.Proofs.Script.Concatenation

namespace TypedRows

def Location.moved (lines : Nat) (l : Location) : Location :=
  { l with line := l.line.map (· + lines) }

def Diagnostic.moved (lines : Nat) (x : Diagnostic) : Diagnostic :=
  { x with location := x.location.moved lines }

theorem Diagnostics.hasErrors_append (a b : Diagnostics) :
    hasErrors (a ++ b) = (hasErrors a || hasErrors b) :=
  List.any_append

theorem Diagnostics.hasErrors_moved (lines : Nat) (ds : Diagnostics) :
    hasErrors (ds.map (.moved lines)) = hasErrors ds :=
  List.any_map

namespace Table

def moved (lines : Nat) (t : Table) : Table :=
  { t with line := t.line.map (· + lines) }

theorem map_key_moved (lines : Nat) (ts : List Table) :
    (ts.map (moved lines)).map key = ts.map key := by
  rw [List.map_map]
  rfl

theorem lastOfEach_moved (lines : Nat) (ts : List Table) :
    lastOfEach (ts.map (moved lines)) = (lastOfEach ts).map (moved lines) := by
  induction ts
  case nil => rfl
  case cons t ts hi =>
    have hk : (t.moved lines).key = t.key := rfl
    rw [List.map_cons, lastOfEach, lastOfEach, map_key_moved, hk, hi]
    split <;> rfl

theorem lastOfEach_append (ts us : List Table) :
    lastOfEach (ts ++ us) = (lastOfEach ts).filter (·.key ∉ us.map key) ++ lastOfEach us := by
  induction ts
  case nil => rfl
  case cons t ts hi =>
    rw [List.cons_append, lastOfEach, lastOfEach, hi, List.map_append]
    simp only [List.mem_append]
    by_cases ht : t.key ∈ ts.map key
    case pos => rw [if_pos ht, if_pos (.inl ht)]
    case neg =>
      rw [if_neg ht]
      by_cases hu : t.key ∈ us.map key
      case pos => rw [if_pos (.inr hu), List.filter_cons_of_neg (by simpa using hu)]
      case neg =>
        rw [if_neg (not_or.mpr ⟨ht, hu⟩), List.filter_cons_of_pos (by simpa using hu),
          List.cons_append]

theorem isEmpty_lastOfEach (ts : List Table) : (lastOfEach ts).isEmpty = ts.isEmpty := by
  cases ts
  case nil => rfl
  case cons t ts =>
    have hk : t.key ∈ (lastOfEach (t :: ts)).map key := key_mem_lastOfEach.mpr List.mem_cons_self
    obtain ⟨u, hu, _⟩ := List.mem_map.mp hk
    simpa using List.ne_nil_of_mem hu

end Table

namespace Ddl

namespace TableReading

-- A definition reads the same on every line, which only its places tell.
def movedResult (lines : Nat) : Except Diagnostics Table → Except Diagnostics Table
  | .ok t => .ok (t.moved lines)
  | .error errors => .error (errors.map (.moved lines))

theorem addColumns_moved (lines : Nat) (t : Table) (cs : List Column) :
    addColumns (t.moved lines) cs =
      ((addColumns t cs).1.moved lines, (addColumns t cs).2.map (.moved lines)) := by
  induction cs generalizing t
  case nil => rfl
  case cons c cs hi =>
    have hc : (t.moved lines).column? c.name = t.column? c.name := rfl
    unfold addColumns
    rw [hc]
    split_ifs
    case pos => rw [hi]; rfl
    case pos => rw [hi]; rfl
    case neg => exact hi (t.addColumn c)

theorem markKeys_moved (lines : Nat) (t : Table) (names : List String) :
    markKeys (t.moved lines) names =
      ((markKeys t names).1.moved lines, (markKeys t names).2.map (.moved lines)) := by
  have hk : names.foldl Table.markKey (t.moved lines) =
      (names.foldl Table.markKey t).moved lines :=
    List.foldl_hom (Table.moved lines) fun _ _ => rfl
  have he : missingKey (t.moved lines) = Diagnostic.moved lines ∘ missingKey t := rfl
  rw [markKeys, markKeys, hk, he, List.map_map]
  rfl

theorem ofDefinition_moved (x : Sql.TableDefinition) (line lines : Nat) :
    ofDefinition x (line + lines) = movedResult lines (ofDefinition x line) := by
  cases hn : isBlankName (nameOf x)
  case true =>
    rw [ofDefinition, ofDefinition, if_pos hn, if_pos hn]
    rfl
  case false =>
    by_cases hc : x.columns = []
    case pos =>
      have he : x.columns.isEmpty := by simp [hc]
      rw [ofDefinition, ofDefinition, hn, he]
      rfl
    case neg =>
      have hw : withColumns x (line + lines) =
          ((withColumns x line).1.moved lines, (withColumns x line).2.map (.moved lines)) :=
        addColumns_moved lines { name := nameOf x, line := some line } _
      rw [ofDefinition_eq x _ hn hc, ofDefinition_eq x line hn hc, hw, markKeys_moved]
      dsimp only
      rw [← List.map_append]
      cases (withColumns x line).2 ++ (markKeys (withColumns x line).1 (keyNames x)).2 <;> rfl

end TableReading

namespace Parsed

def moved (lines : Nat) (p : Parsed) : Parsed :=
  { p with line := p.line + lines }

-- What is found in statements one after the other, behind those that gave the tables `before`.
def foundIn (before : List Table) : List Parsed → Diagnostics
  | [] => []
  | p :: ps => p.found before ++ foundIn (before ++ p.table?.toList) ps

variable {p : Parsed} {ps : List Parsed} {before : List Table}

theorem map_moved_moved (lines more : Nat) (ps : List Parsed) :
    (ps.map (moved lines)).map (moved more) = ps.map (moved (lines + more)) := by
  simp [moved, Function.comp_def, Nat.add_assoc]

theorem result?_moved (lines : Nat) (p : Parsed) :
    (p.moved lines).result? = p.result?.map (TableReading.movedResult lines) := by
  have hd : (p.moved lines).definition? = p.definition? := rfl
  have ho : (TableReading.ofDefinition · (p.moved lines).line) =
      TableReading.movedResult lines ∘ (TableReading.ofDefinition · p.line) := by
    funext x
    exact TableReading.ofDefinition_moved x p.line lines
  rw [result?, result?, hd, ho, Option.map_map]

theorem table?_moved (lines : Nat) (p : Parsed) :
    (p.moved lines).table? = p.table?.map (.moved lines) := by
  rw [table?, table?, result?_moved]
  cases p.result?
  case none => rfl
  case some result => cases result <;> rfl

theorem tables_moved (lines : Nat) (ps : List Parsed) :
    tables (ps.map (moved lines)) = (tables ps).map (.moved lines) := by
  have ht : table? ∘ moved lines = fun p => p.table?.map (.moved lines) := by
    funext p
    exact table?_moved lines p
  rw [tables, tables, List.filterMap_map, ht, List.map_filterMap]

-- Of the earlier tables only the keys matter.
theorem found_moved {before' : List Table} (h : before'.map Table.key = before.map Table.key)
    (lines : Nat) (p : Parsed) :
    (p.moved lines).found before' = (p.found before).map (.moved lines) := by
  rw [found, found, result?_moved]
  cases p.result?
  case none => rfl
  case some result =>
    cases result
    case error => rfl
    case ok t =>
      have hk : (t.moved lines).key = t.key := rfl
      simp only [Option.map_some, TableReading.movedResult, hk, h]
      split <;> rfl

theorem foundIn_moved {before' : List Table} (h : before'.map Table.key = before.map Table.key)
    (lines : Nat) (ps : List Parsed) :
    foundIn before' (ps.map (moved lines)) = (foundIn before ps).map (.moved lines) := by
  induction ps generalizing before before'
  case nil => rfl
  case cons p ps hi =>
    have hb : (before' ++ (p.moved lines).table?.toList).map Table.key =
        (before ++ p.table?.toList).map Table.key := by
      rw [List.map_append, List.map_append, h, table?_moved]
      cases p.table? <;> rfl
    rw [List.map_cons, foundIn, foundIn, found_moved h, hi hb, List.map_append]

theorem foundIn_append (before : List Table) (ps qs : List Parsed) :
    foundIn before (ps ++ qs) = foundIn before ps ++ foundIn (before ++ tables ps) qs := by
  induction ps generalizing before
  case nil => simp [foundIn, tables]
  case cons p ps hi =>
    have ht : tables (p :: ps) = p.table?.toList ++ tables ps := by
      rw [tables, List.filterMap_cons]
      cases p.table? <;> rfl
    rw [List.cons_append, foundIn, foundIn, hi, ht, List.append_assoc, List.append_assoc]

theorem tables_append (ps qs : List Parsed) : tables (ps ++ qs) = tables ps ++ tables qs :=
  List.filterMap_append

theorem ofText_moved (parse : StatementParser) (lines : Nat) (s : ScriptStatement) :
    ofText parse (s.moved lines) = (ofText parse s).map (moved lines) := by
  unfold ofText
  have ht : (s.moved lines).text = s.text := rfl
  rw [ht]
  cases parse s.text.toList
  case error => rfl
  case ok statements => dsimp only; rw [List.map_map]; rfl

theorem ofScript_append_semicolon (parse : StatementParser) {d : Dialect} {a : List Char}
    (h : (Script.Reader.run d {} a).place.isOutside) (b : List Char) :
    ofScript parse d (a ++ ';' :: b) =
      ofScript parse d a ++ (ofScript parse d b).map (moved (a.count '\n')) := by
  have ht : ofText parse ∘ ScriptStatement.moved (a.count '\n') =
      fun s => (ofText parse s).map (moved (a.count '\n')) := by
    funext s
    exact ofText_moved parse _ s
  unfold ofScript
  rw [Script.statementsOf_append_semicolon h, List.flatMap_append, List.flatMap_map,
    List.map_flatMap]
  exact congrArg (_ ++ List.flatMap · _) ht

-- A text that the parser rejects, on its line.
def rejected (line : Nat) (cause : String) : Parsed :=
  ⟨line, .error cause⟩

theorem ofScript_rejected {parse : StatementParser} {d : Dialect} {s : List Char}
    {x : ScriptStatement} {cause : String} (hs : Script.statementsOf d s = [x])
    (hx : parse x.text.toList = .error cause) : ofScript parse d s = [rejected x.line cause] := by
  rw [ofScript, hs, List.flatMap_singleton, ofText, hx]
  rfl

end Parsed

namespace Reading

variable {r : Reading} {ps : List Parsed} {earlier : Diagnostics}

theorem Accounts.addAll_diagnostics (h : r.Accounts earlier ps) (qs : List Parsed) :
    (qs.foldl addParsed r).diagnostics = r.diagnostics ++ Parsed.foundIn (Parsed.tables ps) qs := by
  induction qs generalizing r ps
  case nil => exact (List.append_nil _).symm
  case cons q qs hi =>
    rw [List.foldl_cons, hi (h.concat q), addParsed_diagnostics h, Parsed.tables_concat,
      Parsed.foundIn, List.append_assoc]

theorem addParsed_skipped (r : Reading) (p : Parsed) :
    (r.addParsed p).skipped = r.skipped + if p.definition?.isNone then 1 else 0 := by
  cases h : p.result?
  case none =>
    have hd : p.definition? = none := Parsed.result?_eq_none_iff.mp h
    rw [addParsed_passedOver r hd, hd]
    rfl
  case some result =>
    have hd : p.definition?.isNone = false := by
      rw [Option.isNone_eq_false_iff, Option.isSome_iff_ne_none, ← Parsed.result?_eq_none_iff.ne]
      simp [h]
    rw [addParsed_result r h, hd]
    cases result <;> rfl

theorem addAll_skipped (r : Reading) (ps : List Parsed) :
    (ps.foldl addParsed r).skipped = r.skipped + ps.countP (·.definition?.isNone) := by
  induction ps generalizing r
  case nil => rfl
  case cons p ps hi => rw [List.foldl_cons, hi, addParsed_skipped, List.countP_cons]; omega

end Reading

-- What is told of a script that has no table, and nothing that is wrong with one.
def noTable (skipped : Nat) : Diagnostic :=
  TableReading.error
    (if skipped = 0 then "No CREATE TABLE statement found"
      else "No CREATE TABLE statement could be read (" ++ toString skipped ++
        " statement(s) skipped)") .nowhere

namespace Parsed

def lacking (ps : List Parsed) : Diagnostics :=
  if (tables ps).isEmpty && !(foundIn [] ps).hasErrors then
    [noTable (ps.countP (·.definition?.isNone))]
  else []

-- What is wrong with a table keeps the error away, wherever it stands.
theorem lacking_between (ps qs : List Parsed) (lines : Nat) {between : List Parsed}
    (ht : tables between = []) (he : (foundIn (tables ps) between).hasErrors = false) :
    lacking (ps ++ between ++ qs.map (moved lines)) =
      if (tables (ps ++ qs)).isEmpty && !(foundIn [] (ps ++ qs)).hasErrors then
        [noTable ((ps ++ qs).countP (·.definition?.isNone) +
          between.countP (·.definition?.isNone))]
      else [] := by
  have hm : foundIn (tables ps) (qs.map (moved lines)) =
      (foundIn (tables ps) qs).map (.moved lines) := foundIn_moved rfl lines qs
  have hf : (foundIn [] (ps ++ between ++ qs.map (moved lines))).hasErrors =
      (foundIn [] (ps ++ qs)).hasErrors := by
    simp only [foundIn_append, List.nil_append, tables_append, ht, List.append_nil, hm,
      Diagnostics.hasErrors_append, he, Bool.or_false, Diagnostics.hasErrors_moved]
  have hc : (qs.map (moved lines)).countP (·.definition?.isNone) =
      qs.countP (·.definition?.isNone) := List.countP_map
  have hn : (tables (ps ++ between ++ qs.map (moved lines))).isEmpty =
      (tables (ps ++ qs)).isEmpty := by
    rw [Bool.eq_iff_iff]
    simp [tables_append, tables_moved, ht]
  rw [lacking, hf, hn]
  simp only [List.countP_append, hc, Nat.add_right_comm]

end Parsed

theorem read_diagnostics (parse : StatementParser) (d : Dialect) (script : List Char) :
    (read parse d script).2 = Parsed.foundIn [] (Parsed.ofScript parse d script) ++
      Parsed.lacking (Parsed.ofScript parse d script) := by
  let ps := Parsed.ofScript parse d script
  let r : Reading := ps.foldl Reading.addParsed {}
  have hs : Reading.Accounts [] [] {} := ⟨rfl, [], rfl, .refl _, rfl⟩
  have hr : (Script.statementsOf d script).foldl (Reading.addText parse) {} = r :=
    Reading.addTexts_eq parse {} _
  have hd : r.diagnostics = Parsed.foundIn [] ps := hs.addAll_diagnostics ps
  have hk : r.skipped = ps.countP (·.definition?.isNone) := by
    rw [Reading.addAll_skipped, Nat.zero_add]
  have ht : r.schema.isEmpty = (Parsed.tables ps).isEmpty := by
    rw [Schema.isEmpty, (hs.addAll ps).tables, Table.isEmpty_lastOfEach]
    rfl
  have he : r.emptyError = Parsed.lacking ps := by
    rw [Parsed.lacking, ← hk, ← ht, ← hd]
    rfl
  rw [read, readAfter, hr, ← hd, ← he]

-- What the halves of a script give to what comes from it. The second half has its own lines.
structure Halves where
  kept : List Table
  added : List Table
  found : Diagnostics
  after : Diagnostics

namespace Halves

-- The tables of the first script that the second one does not define again, and all of the second.
def of (parse : StatementParser) (d : Dialect) (a b : List Char) : Halves where
  kept := (read parse d a).1.tables.filter (·.key ∉ (read parse d b).1.tables.map Table.key)
  added := (read parse d b).1.tables
  found := Parsed.foundIn [] (Parsed.ofScript parse d a)
  after := Parsed.foundIn (Parsed.tables (Parsed.ofScript parse d a)) (Parsed.ofScript parse d b)

-- What comes from a script whose second half begins after `lines` lines, with more that is told
-- between the halves and behind them.
def Make (h : Halves) (lines : Nat) (between last : Diagnostics)
    (result : Schema × Diagnostics) : Prop :=
  result.1.tables = h.kept ++ h.added.map (.moved lines) ∧
  result.2 = h.found ++ between ++ h.after.map (.moved lines) ++ last

variable {parse : StatementParser} {d : Dialect} {a b script : List Char} {lines : Nat}

-- Whatever stands between the halves and gives no table leaves their shares as they are.
theorem make_of_parsed {between : List Parsed}
    (hs : Parsed.ofScript parse d script = Parsed.ofScript parse d a ++ between ++
      (Parsed.ofScript parse d b).map (.moved lines))
    (hb : Parsed.tables between = []) :
    (of parse d a b).Make lines
      (Parsed.foundIn (Parsed.tables (Parsed.ofScript parse d a)) between)
      (Parsed.lacking (Parsed.ofScript parse d script)) (read parse d script) := by
  have ht : Parsed.tables (Parsed.ofScript parse d script) =
      Parsed.tables (Parsed.ofScript parse d a) ++
        (Parsed.tables (Parsed.ofScript parse d b)).map (.moved lines) := by
    rw [hs, Parsed.tables_append, Parsed.tables_append, hb, List.append_nil, Parsed.tables_moved]
  constructor
  case left =>
    have hk : (Table.lastOfEach (Parsed.tables (Parsed.ofScript parse d a))).filter
        (·.key ∉ (Parsed.tables (Parsed.ofScript parse d b)).map Table.key) =
        (of parse d a b).kept := by
      simp only [of, read_tables, Table.key_mem_lastOfEach]
    rw [read_tables, ht, Table.lastOfEach_append, Table.map_key_moved, Table.lastOfEach_moved, hk,
      ← read_tables]
    rfl
  case right =>
    have hm : Parsed.foundIn (Parsed.tables (Parsed.ofScript parse d a))
        ((Parsed.ofScript parse d b).map (.moved lines)) =
          (of parse d a b).after.map (.moved lines) :=
      Parsed.foundIn_moved rfl lines _
    rw [read_diagnostics, hs, Parsed.foundIn_append, Parsed.foundIn_append, Parsed.tables_append,
      hb, List.append_nil, List.nil_append, hm]
    rfl

end Halves

-- What is told of a statement that the parser rejects.
def rejection (cause : String) (line : Nat) : Diagnostic where
  severity := .warning
  kind := .parse
  message := "Skipping statement that could not be parsed: " ++ cause
  location := { line := some line }

-- A rejected statement is told with its line, behind what is found before it and in front of what
-- is found after it. Where there is no table and nothing wrong with one, the error that tells so
-- counts one statement more.
theorem read_insert_rejected (parse : StatementParser) (d : Dialect) {a s : List Char}
    {x : ScriptStatement} {cause : String} (ha : (Script.Reader.run d {} a).place.isOutside)
    (hs : (Script.Reader.run d {} s).place.isOutside) (hx : Script.statementsOf d s = [x])
    (hr : parse x.text.toList = .error cause) (b : List Char) :
    ∃ last last',
      (Halves.of parse d a b).Make (a.count '\n') [] last (read parse d (a ++ ';' :: b)) ∧
      (Halves.of parse d a b).Make (s.count '\n' + a.count '\n')
        [rejection cause (x.line + a.count '\n')] last'
        (read parse d (a ++ ';' :: s ++ ';' :: b)) ∧
      ((last = [] ∧ last' = []) ∨
        (read parse d (a ++ ';' :: b)).1.isEmpty ∧
        ((Halves.of parse d a b).found ++ (Halves.of parse d a b).after).hasErrors = false ∧
        ∃ skipped, last = [noTable skipped] ∧ last' = [noTable (skipped + 1)]) := by
  let A := Parsed.ofScript parse d a
  let B := Parsed.ofScript parse d b
  have hp : Parsed.ofScript parse d (a ++ ';' :: b) = A ++ [] ++ B.map (.moved (a.count '\n')) := by
    rw [Parsed.ofScript_append_semicolon parse ha, List.append_nil]
  have hq : Parsed.ofScript parse d (a ++ ';' :: s ++ ';' :: b) =
      A ++ [Parsed.rejected (x.line + a.count '\n') cause] ++
        B.map (.moved (s.count '\n' + a.count '\n')) := by
    rw [List.append_assoc, List.cons_append, Parsed.ofScript_append_semicolon parse ha,
      Parsed.ofScript_append_semicolon parse hs, Parsed.ofScript_rejected hx hr, List.map_append,
      Parsed.map_moved_moved, List.append_assoc]
    rfl
  refine ⟨_, _, Halves.make_of_parsed hp rfl, Halves.make_of_parsed hq rfl, ?_⟩
  rw [hp, hq, Parsed.lacking_between A B _ rfl rfl, Parsed.lacking_between A B _ rfl rfl]
  have hf : Parsed.foundIn [] (A ++ B) =
      (Halves.of parse d a b).found ++ (Halves.of parse d a b).after := Parsed.foundIn_append ..
  rw [hf]
  split
  case isFalse => exact .inl ⟨rfl, rfl⟩
  case isTrue h =>
    obtain ⟨ht, he⟩ := Bool.and_eq_true_iff.mp h
    have hn : (read parse d (a ++ ';' :: b)).1.isEmpty := by
      rw [Schema.isEmpty, read_tables, Table.isEmpty_lastOfEach, hp]
      simpa [Parsed.tables_append, Parsed.tables_moved] using ht
    exact .inr ⟨hn, by simpa using he, _, rfl, rfl⟩

-- The statement stands between two definitions of one table.
theorem read_insert_rejected_redefined :
    let parse := Sql.Statement.ofChars .mysql
    let a := "CREATE TABLE a (x INT);\n# ;\n".toList
    let s := "\nTHIS IS NOT SQL".toList
    let b := "\nCREATE TABLE A (y INT)".toList
    (Script.Reader.run .mysql {} a).place.isOutside ∧
    (Script.Reader.run .mysql {} s).place.isOutside ∧
    Script.statementsOf .mysql s = [⟨"THIS IS NOT SQL", 2⟩] ∧
    parse "THIS IS NOT SQL".toList = .error "sql parser error: unexpected token" ∧
    (read parse .mysql (a ++ ';' :: b)).1.tableNames = ["A"] ∧
    (Halves.of parse .mysql a b).Make 2 [] [] (read parse .mysql (a ++ ';' :: b)) ∧
    (Halves.of parse .mysql a b).Make 3 [rejection "sql parser error: unexpected token" 4] []
      (read parse .mysql (a ++ ';' :: s ++ ';' :: b)) := by
  intro parse a s b
  have ha : (Script.Reader.run .mysql {} a).place.isOutside := by decide +kernel
  have hs : (Script.Reader.run .mysql {} s).place.isOutside := by decide +kernel
  have hx : Script.statementsOf .mysql s = [⟨"THIS IS NOT SQL", 2⟩] := by decide +kernel
  have hr : parse "THIS IS NOT SQL".toList = .error "sql parser error: unexpected token" := by
    decide +kernel
  have hn : (read parse .mysql (a ++ ';' :: b)).1.tableNames = ["A"] := by decide +kernel
  obtain ⟨last, last', hp, hq, ⟨rfl, rfl⟩ | ⟨he, _⟩⟩ :=
    read_insert_rejected parse .mysql ha hs hx hr b
  case inl => exact ⟨ha, hs, hx, hr, hn, hp, hq⟩
  case inr =>
    rw [Schema.isEmpty, List.isEmpty_iff] at he
    simp [Schema.tableNames, he] at hn

-- Where there is no table at all, the error that tells so counts the statement too.
theorem read_insert_rejected_recounted :
    ¬∀ (parse : StatementParser) (d : Dialect) (a s b : List Char) (x : ScriptStatement)
        (cause : String),
      (Script.Reader.run d {} a).place.isOutside → (Script.Reader.run d {} s).place.isOutside →
      Script.statementsOf d s = [x] → parse x.text.toList = .error cause →
      ((read parse d (a ++ ';' :: b)).1.tables ≠ [] ∨
        (read parse d (a ++ ';' :: b)).2.hasErrors) →
      ∃ h : Halves, h.Make (a.count '\n') [] [] (read parse d (a ++ ';' :: b)) ∧
        h.Make (s.count '\n' + a.count '\n')
          [rejection cause (x.line + a.count '\n')] []
          (read parse d (a ++ ';' :: s ++ ';' :: b)) := by
  intro h
  obtain ⟨halves, ⟨_, hp⟩, _, hq⟩ := h (fun _ => .error "") .sqlite [] ['x'] [] ⟨"x", 1⟩ ""
    (by decide) (by decide) (by decide) rfl (.inr (by decide))
  have hf : [noTable 0] = halves.found ++ [] ++ halves.after.map (.moved 0) ++ [] := hp
  have hg : [rejection "" 1, noTable 1] =
      halves.found ++ [rejection "" 1] ++
        halves.after.map (.moved 0) ++ [] := hq
  have hm : noTable 0 ∈ halves.found ∨ noTable 0 ∈ halves.after.map (.moved 0) := by
    have hm : noTable 0 ∈ [noTable 0] := List.mem_singleton_self _
    rw [hf] at hm
    simpa only [List.append_nil, List.mem_append] using hm
  have hn : noTable 0 ∈ [rejection "" 1, noTable 1] := by
    rw [hg, List.append_nil, List.mem_append, List.mem_append]
    exact hm.imp_left .inl
  exact absurd hn (by decide)

end Ddl
end TypedRows
