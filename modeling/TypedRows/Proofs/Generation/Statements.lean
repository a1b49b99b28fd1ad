import TypedRows.Proofs.Generation.Emission
import TypedRows.Proofs.Sql.Cutting

namespace TypedRows.Statements

open Sql Sql.Lexer

-- What commands are made of. A value is bound to every parameter.
inductive Part
  | keyword (word : String)
  | name (s : String)
  | mark (s : String)
  | parameter
  deriving DecidableEq, Repr

namespace Part

-- The tokens that spell these parts. `first` is the number of the first parameter.
def tokens (d : Dialect) (first : Nat) : List Part → List Token
  | [] => []
  | keyword word :: ps => bareWord word :: tokens d first ps
  | name s :: ps => .word ⟨s, some d.quoteChar⟩ "" :: tokens d first ps
  | mark s :: ps => .symbol s :: tokens d first ps
  | parameter :: ps => .placeholder (d.bindVariable first) :: tokens d (first + 1) ps

def arity (ps : List Part) : Nat :=
  ps.count parameter

end Part

inductive Command
  | select (table : String) (columns keys : List String)
  | insert (table : String) (columns : List String)
  | update (table : String) (columns keys : List String)
  | delete (table : String) (keys : List String)

namespace Command

def list (items : List (List Part)) : List Part :=
  [.mark ","].intercalate items

def names (columns : List String) : List Part :=
  list (columns.map fun c => [.name c])

def equation (column : String) : List Part :=
  [.name column, .mark "=", .parameter]

-- Without keys a command is about all rows.
def filter : List String → List Part
  | [] => []
  | keys => .keyword "WHERE" :: [.keyword "AND"].intercalate (keys.map equation)

-- A row that is all left to the database has a form of its own in each dialect.
def emptyRow : Dialect → List Part
  | .mysql => [.mark "(", .mark ")", .keyword "VALUES", .mark "(", .mark ")"]
  | .postgresql | .sqlite => [.keyword "DEFAULT", .keyword "VALUES"]

def row (d : Dialect) : List String → List Part
  | [] => emptyRow d
  | columns =>
    [.mark "("] ++ names columns ++ [.mark ")", .keyword "VALUES", .mark "("] ++
      list (columns.map fun _ => [.parameter]) ++ [.mark ")"]

def parts (d : Dialect) : Command → List Part
  | select table columns keys =>
    [.keyword "SELECT"] ++ names columns ++ [.keyword "FROM", .name table] ++ filter keys
  | insert table columns => [.keyword "INSERT", .keyword "INTO", .name table] ++ row d columns
  | update table columns keys =>
    [.keyword "UPDATE", .name table, .keyword "SET"] ++ list (columns.map equation) ++ filter keys
  | delete table keys => [.keyword "DELETE", .keyword "FROM", .name table] ++ filter keys

-- The columns that values are bound to, in the order of their parameters.
def bound : Command → List String
  | select _ _ keys => keys
  | insert _ columns => columns
  | update _ columns keys => columns ++ keys
  | delete _ keys => keys

end Command

-- The placeholders in a text, in their order.
def placeholders? (d : Dialect) (sql : String) : Option (List String) :=
  (tokens? d sql.toList).map (·.filterMap Token.placeholder?)

-- A text that a database reads as this command.
structure Asks (d : Dialect) (sql : String) (c : Command) : Prop where
  tokens : tokens? d sql.toList = some (Part.tokens d 1 (c.parts d))
  numbered : d = .postgresql →
    placeholders? d sql = some ((List.range c.bound.length).map fun i => "$" ++ toString (i + 1))
  unnumbered : d ≠ .postgresql →
    placeholders? d sql = some (List.replicate c.bound.length "?")

-- A statement that is there in this case only.
structure AsksIf (p : Prop) (d : Dialect) (sql : Option String) (c : Command) : Prop where
  isSome_iff : sql.isSome ↔ p
  asks : ∀ x ∈ sql, Asks d x c

def columnNames (columns : List Column) : List String :=
  columns.map (·.name)

-- What is asked for a table with this key.
structure Commands (d : Dialect) (t : Table) (keys : List String) (s : Statements) : Prop where
  selectAll : Asks d s.selectAll (.select t.name (columnNames t.columns) [])
  insert : Asks d s.insert (.insert t.name (columnNames (t.columns.filter (!·.autoIncrement))))
  selectByKey : AsksIf (keys ≠ []) d s.selectByKey (.select t.name (columnNames t.columns) keys)
  updateByKey : AsksIf (keys ≠ [] ∧ t.columns.filter (!·.primaryKey) ≠ []) d s.updateByKey
    (.update t.name (columnNames (t.columns.filter (!·.primaryKey))) keys)
  deleteByKey : AsksIf (keys ≠ []) d s.deleteByKey (.delete t.name keys)

namespace Part

variable {d : Dialect} {first : Nat} {ps qs us : List Part} {a b g : String}

theorem arity_append (ps qs : List Part) : arity (ps ++ qs) = arity ps + arity qs :=
  List.count_append

theorem arity_parameter (ps : List Part) : arity (parameter :: ps) = arity ps + 1 :=
  List.count_cons_self

theorem tokens_append (d : Dialect) (first : Nat) (ps qs : List Part) :
    tokens d first (ps ++ qs) = tokens d first ps ++ tokens d (first + arity ps) qs := by
  induction ps generalizing first
  case nil => rfl
  case cons p ps hi =>
    cases p
    case parameter =>
      rw [arity_parameter, Nat.add_comm (arity ps), ← Nat.add_assoc, List.cons_append, tokens,
        tokens, hi, List.cons_append]
    all_goals
      rw [List.cons_append, tokens, tokens, hi]
      rfl

-- Parameters are numbered as they follow each other.
theorem placeholders_tokens (d : Dialect) (first : Nat) (ps : List Part) :
    (tokens d first ps).filterMap Token.placeholder? =
      (List.range' first (arity ps)).map d.bindVariable := by
  induction ps generalizing first
  case nil => rfl
  case cons p ps hi =>
    cases p
    case parameter =>
      rw [arity_parameter, List.range'_succ, List.map_cons, ← hi]
      rfl
    all_goals exact hi first

-- A text of these parts, in which `first` is the number of the first parameter.
def Spells (d : Dialect) (first : Nat) (s : String) (ps : List Part) : Prop :=
  Reads d s (tokens d first ps)

-- A fixed text in front of other ones.
structure Opens (d : Dialect) (s : String) (ps : List Part) : Prop where
  whole : ∀ first, Whole d s (tokens d first ps)
  arity_eq : arity ps = 0

-- A fixed text behind other ones.
structure Closes (d : Dialect) (s : String) (ps : List Part) : Prop where
  reads : ∀ first, Reads d s (tokens d first ps)
  starts : startsWithBreak s

theorem Opens.append (ha : Opens d a ps) (hb : Spells d first b qs) :
    Spells d first (a ++ b) (ps ++ qs) := by
  rw [Spells, tokens_append, ha.arity_eq]
  exact (ha.whole first).append hb

theorem Spells.between (ha : Spells d first a ps) (hg : Opens d g us) (hs : startsWithBreak g)
    (hb : Spells d (first + arity ps) b qs) : Spells d first (a ++ g ++ b) (ps ++ us ++ qs) := by
  rw [Spells, tokens_append, tokens_append, arity_append, hg.arity_eq]
  exact (ha.append_whole (hg.whole _) hs).append hb

theorem Spells.closed (ha : Spells d first a ps) (hg : Closes d g us) :
    Spells d first (a ++ g) (ps ++ us) := by
  rw [Spells, tokens_append]
  exact ha.append (hg.reads _) hg.starts

theorem Opens.blank (cs : List Char) (n : Nat) (hs : a.toList = cs ++ [' ']) (hn : n ≤ cs.length)
    (h : ∀ first rest, cuts? d n (cs ++ ' ' :: rest) = some (tokens d first ps, ' ' :: rest))
    (ha : arity ps = 0) : Opens d a ps where
  whole first := .blank cs n hs hn (h first)
  arity_eq := ha

-- Texts that follow each other, each with parts of its own.
inductive SpellsAll (d : Dialect) : (first : Nat) → List String → List (List Part) → Prop
  | nil {first : Nat} : SpellsAll d first [] []
  | cons {first : Nat} {s : String} {ps : List Part} {ss : List String} {pss : List (List Part)}
    (h : Spells d first s ps) (hs : SpellsAll d (first + arity ps) ss pss) :
    SpellsAll d first (s :: ss) (ps :: pss)

theorem SpellsAll.intercalate {ss : List String} {pss : List (List Part)}
    (h : SpellsAll d first ss pss) (hg : Opens d g us) (hs : startsWithBreak g) :
    Spells d first (g.intercalate ss) (us.intercalate pss) := by
  induction h
  case nil => exact reads_empty
  case cons first s ps ss pss h hss hi =>
    cases hss
    case nil => simpa using h
    case cons h' hs' =>
      rw [List.intercalate_cons_cons, String.intercalate_cons_cons]
      exact h.between hg hs hi

end Part

section Texts

open Statements.Part Statements.Command

variable (d : Dialect) (first : Nat)

theorem spells_name (name : String) : Spells d first (d.quoteIdentifier name) [.name name] :=
  reads_quoteIdentifier d name

theorem spells_parameter : Spells d first (d.bindVariable first) [.parameter] :=
  reads_bindVariable d first

theorem opens_select : Opens d "SELECT " [.keyword "SELECT"] :=
  .blank "SELECT".toList 1 rfl (by decide) (fun _ _ => by cases d <;> rfl) rfl

theorem opens_from : Opens d " FROM " [.keyword "FROM"] :=
  .blank " FROM".toList 2 rfl (by decide) (fun _ _ => by cases d <;> rfl) rfl

theorem opens_where : Opens d " WHERE " [.keyword "WHERE"] :=
  .blank " WHERE".toList 2 rfl (by decide) (fun _ _ => by cases d <;> rfl) rfl

theorem opens_and : Opens d " AND " [.keyword "AND"] :=
  .blank " AND".toList 2 rfl (by decide) (fun _ _ => by cases d <;> rfl) rfl

theorem opens_insert : Opens d "INSERT INTO " [.keyword "INSERT", .keyword "INTO"] :=
  .blank "INSERT INTO".toList 3 rfl (by decide) (fun _ _ => by cases d <;> rfl) rfl

theorem opens_update : Opens d "UPDATE " [.keyword "UPDATE"] :=
  .blank "UPDATE".toList 1 rfl (by decide) (fun _ _ => by cases d <;> rfl) rfl

theorem opens_set : Opens d " SET " [.keyword "SET"] :=
  .blank " SET".toList 2 rfl (by decide) (fun _ _ => by cases d <;> rfl) rfl

theorem opens_delete : Opens d "DELETE FROM " [.keyword "DELETE", .keyword "FROM"] :=
  .blank "DELETE FROM".toList 3 rfl (by decide) (fun _ _ => by cases d <;> rfl) rfl

theorem opens_comma : Opens d ", " [.mark ","] :=
  .blank [','] 1 rfl (by decide) (fun _ _ => by cases d <;> rfl) rfl

theorem opens_equals : Opens d " = " [.mark "="] :=
  .blank [' ', '='] 2 rfl (by decide) (fun _ _ => by cases d <;> rfl) rfl

theorem opens_columns : Opens d " (" [.mark "("] where
  whole _ :=
    have h : Whole d " (" ([] ++ [.symbol "("]) :=
      .parenthesis [' '] 1 rfl (by decide) fun _ => by cases d <;> rfl
    h
  arity_eq := rfl

theorem opens_values : Opens d ") VALUES (" [.mark ")", .keyword "VALUES", .mark "("] where
  whole _ :=
    have h : Whole d ") VALUES (" ([.symbol ")", bareWord "VALUES"] ++ [.symbol "("]) :=
      .parenthesis ") VALUES ".toList 4 rfl (by decide) fun _ => by cases d <;> rfl
    h
  arity_eq := rfl

theorem closes_values : Closes d ")" [.mark ")"] where
  reads _ := .fixed 1 (by decide) (by cases d <;> rfl) fun _ => by cases d <;> exact ⟨rfl, rfl, rfl⟩
  starts := rfl

theorem closes_emptyRow : Closes .mysql " () VALUES ()" (emptyRow .mysql) where
  reads _ := .fixed 8 (by decide) rfl fun _ => ⟨rfl, rfl, rfl⟩
  starts := rfl

theorem closes_defaultRow (hd : d ≠ .mysql) : Closes d " DEFAULT VALUES" (emptyRow d) where
  reads _ := by
    cases d
    case mysql => contradiction
    all_goals exact .fixed 4 (by decide) rfl fun _ => ⟨rfl, rfl, rfl⟩
  starts := rfl

section Lists

variable (columns : List Column)

theorem equations_cons (c : Column) :
    equations d first (c :: columns) =
      (d.quoteIdentifier c.name ++ " = " ++ d.bindVariable first) ::
        equations d (first + 1) columns := by
  simp only [equations, List.mapIdx_cons, Nat.add_zero, Nat.add_comm, Nat.add_left_comm]

theorem spellsAll_names :
    SpellsAll d first (columns.map fun c => d.quoteIdentifier c.name)
      ((columnNames columns).map fun c => [.name c]) := by
  induction columns
  case nil => exact .nil
  case cons c columns hi => exact .cons (spells_name d first c.name) hi

theorem spells_equation (name : String) :
    Spells d first (d.quoteIdentifier name ++ " = " ++ d.bindVariable first) (equation name) :=
  (spells_name d first name).between (opens_equals d) rfl (spells_parameter d first)

theorem spellsAll_equations :
    SpellsAll d first (equations d first columns) ((columnNames columns).map equation) := by
  induction columns generalizing first
  case nil => exact .nil
  case cons c columns hi =>
    rw [equations_cons]
    exact .cons (spells_equation d first c.name) (hi (first + 1))

theorem spellsAll_parameters :
    SpellsAll d first (columns.mapIdx fun i _ => d.bindVariable (i + first))
      ((columnNames columns).map fun _ => [.parameter]) := by
  induction columns generalizing first
  case nil => exact .nil
  case cons c columns hi =>
    rw [List.mapIdx_cons, Nat.zero_add]
    simp only [Nat.succ_add_eq_add_succ]
    exact .cons (spells_parameter d first) (hi (first + 1))

theorem spells_names :
    Spells d first (columnList d columns) (names (columnNames columns)) :=
  (spellsAll_names d first columns).intercalate (opens_comma d) rfl

theorem spells_assignments :
    Spells d first (", ".intercalate (equations d first columns))
      (list ((columnNames columns).map equation)) :=
  (spellsAll_equations d first columns).intercalate (opens_comma d) rfl

theorem spells_parameters :
    Spells d first (", ".intercalate (columns.mapIdx fun i _ => d.bindVariable (i + first)))
      (list ((columnNames columns).map fun _ => [.parameter])) :=
  (spellsAll_parameters d first columns).intercalate (opens_comma d) rfl

theorem Part.Spells.filtered {a : String} {ps : List Part} (ha : Spells d first a ps)
    (hn : columns ≠ []) :
    Spells d first (a ++ " WHERE " ++ keyFilter d (first + arity ps) columns)
      (ps ++ filter (columnNames columns)) := by
  have hf : filter (columnNames columns) =
      [.keyword "WHERE"] ++ [.keyword "AND"].intercalate ((columnNames columns).map equation) := by
    obtain ⟨c, cs, rfl⟩ := List.exists_cons_of_ne_nil hn
    rfl
  have hk : Spells d (first + arity ps) (keyFilter d (first + arity ps) columns)
      ([.keyword "AND"].intercalate ((columnNames columns).map equation)) :=
    (spellsAll_equations d _ columns).intercalate (opens_and d) rfl
  rw [hf, ← List.append_assoc]
  exact ha.between (opens_where d) rfl hk

end Lists

section Arity

theorem arity_list {us : List Part} (h : arity us = 0) (f : String → List Part) (k : Nat)
    (hf : ∀ c, arity (f c) = k) (columns : List String) :
    arity (us.intercalate (columns.map f)) = columns.length * k := by
  induction columns
  case nil => rw [List.length_nil, Nat.zero_mul]; rfl
  case cons c columns hi =>
    cases columns
    case nil => simp [hf]
    case cons b columns =>
      rw [List.map_cons] at hi ⊢
      have hl : (c :: b :: columns).length = (b :: columns).length + 1 := rfl
      rw [List.map_cons, List.intercalate_cons_cons, arity_append, arity_append, h, hf, hi,
        Nat.add_zero, hl, Nat.succ_mul, Nat.add_comm]

theorem arity_names (columns : List String) : arity (names columns) = 0 :=
  arity_list rfl (fun c => [.name c]) 0 (fun _ => rfl) columns

theorem arity_equations {us : List Part} (h : arity us = 0) (columns : List String) :
    arity (us.intercalate (columns.map equation)) = columns.length := by
  rw [arity_list h equation 1 fun _ => rfl, Nat.mul_one]

theorem arity_parameters (columns : List String) :
    arity (list (columns.map fun _ => [.parameter])) = columns.length := by
  rw [list, arity_list rfl (fun _ => [.parameter]) 1 fun _ => rfl, Nat.mul_one]

theorem arity_filter (keys : List String) : arity (filter keys) = keys.length := by
  cases keys
  case nil => rfl
  case cons key keys =>
    have hw : arity [.keyword "WHERE"] = 0 := rfl
    rw [filter, ← List.singleton_append, arity_append, hw, arity_equations rfl, Nat.zero_add]
    exact List.cons_ne_nil key keys

theorem arity_row (columns : List String) : arity (row d columns) = columns.length := by
  cases columns
  case nil => cases d <;> rfl
  case cons c columns =>
    simp only [row, arity_append, arity_names, arity_parameters]
    simp [arity]

-- There is a parameter for every value that is bound.
theorem arity_parts (c : Command) : arity (c.parts d) = c.bound.length := by
  cases c
  case select table columns keys =>
    simp only [parts, bound, arity_append, arity_names, arity_filter]
    simp [arity]
  case insert table columns =>
    simp only [parts, bound, arity_append, arity_row]
    simp [arity]
  case update table columns keys =>
    have hm : arity [.mark ","] = 0 := rfl
    simp only [parts, bound, arity_append, list, arity_equations hm, arity_filter,
      List.length_append]
    simp [arity]
  case delete table keys =>
    simp only [parts, bound, arity_append, arity_filter]
    simp [arity]

end Arity

theorem asks_of_spells {sql : String} {c : Command} (h : Spells d 1 sql (c.parts d)) :
    Asks d sql c := by
  have ht : tokens? d sql.toList = some (Part.tokens d 1 (c.parts d)) := Reads.tokens? h
  have hp : placeholders? d sql = some ((List.range' 1 c.bound.length).map d.bindVariable) := by
    rw [placeholders?, ht, Option.map_some, placeholders_tokens, arity_parts]
  refine ⟨ht, ?numbered, ?unnumbered⟩
  case numbered =>
    rintro rfl
    rw [hp, List.range'_eq_map_range, List.map_map]
    simp [Function.comp_def, Dialect.bindVariable, Nat.add_comm]
  case unnumbered =>
    intro hd
    have hb : d.bindVariable = fun _ => "?" := by cases d <;> first | rfl | contradiction
    rw [hp, hb, List.map_const', List.length_range']

section Tables

variable (t : Table)

theorem spells_selectAll :
    Spells d 1 (selectAllOf d t) (parts d (.select t.name (columnNames t.columns) [])) := by
  have h : Spells d 1 (selectAllOf d t)
      ([Part.keyword "SELECT"] ++ names (columnNames t.columns) ++ [Part.keyword "FROM"] ++
        [Part.name t.name]) :=
    ((opens_select d).append (spells_names d 1 t.columns)).between (opens_from d) rfl
      (spells_name d _ t.name)
  simpa [parts, filter] using h

theorem spells_insert :
    Spells d 1 (insertOf d t)
      (parts d (.insert t.name (columnNames (t.columns.filter (!·.autoIncrement))))) := by
  have ht : Spells d 1 ("INSERT INTO " ++ d.quoteIdentifier t.name)
      [.keyword "INSERT", .keyword "INTO", .name t.name] :=
    (opens_insert d).append (spells_name d 1 t.name)
  unfold insertOf
  cases hc : t.columns.filter (!·.autoIncrement)
  case nil =>
    cases d
    case mysql => exact ht.closed closes_emptyRow
    all_goals exact ht.closed (closes_defaultRow _ Dialect.noConfusion)
  case cons c columns =>
    have hl := ht.between (opens_columns d) rfl (spells_names d _ (c :: columns))
    have ha : arity ([Part.keyword "INSERT", .keyword "INTO", .name t.name] ++ [Part.mark "("] ++
        names (columnNames (c :: columns))) = 0 := by
      rw [arity_append, arity_names]
      rfl
    have hp := spells_parameters d 1 (c :: columns)
    have hv := hl.between (opens_values d) rfl (by rw [ha]; exact hp)
    simpa [parts, row, columnNames] using hv.closed (closes_values d)

theorem spells_selectByKey (hk : t.primaryKey ≠ []) :
    Spells d 1 (selectAllOf d t ++ " WHERE " ++ keyFilter d 1 t.primaryKey)
      (parts d (.select t.name (columnNames t.columns) (columnNames t.primaryKey))) := by
  have h := (spells_selectAll d t).filtered d 1 t.primaryKey hk
  rw [arity_parts] at h
  simpa [parts, bound, filter] using h

theorem spells_deleteByKey (hk : t.primaryKey ≠ []) :
    Spells d 1 ("DELETE FROM " ++ d.quoteIdentifier t.name ++ " WHERE " ++
      keyFilter d 1 t.primaryKey) (parts d (.delete t.name (columnNames t.primaryKey))) :=
  ((opens_delete d).append (spells_name d 1 t.name)).filtered d 1 t.primaryKey hk

theorem updateOf_eq_none (ha : t.columns.filter (!·.primaryKey) = []) : updateOf d t = none := by
  rw [updateOf, ha]

theorem spells_updateByKey (hk : t.primaryKey ≠ []) (ha : t.columns.filter (!·.primaryKey) ≠ []) :
    ∃ sql, updateOf d t = some sql ∧ Spells d 1 sql (parts d (.update t.name
      (columnNames (t.columns.filter (!·.primaryKey))) (columnNames t.primaryKey))) := by
  unfold updateOf
  cases hc : t.columns.filter (!·.primaryKey)
  case nil => contradiction
  case cons c columns =>
    refine ⟨_, rfl, ?_⟩
    have hs : Spells d 1 ("UPDATE " ++ d.quoteIdentifier t.name ++ " SET " ++
        ", ".intercalate (equations d 1 (c :: columns)))
        ([Part.keyword "UPDATE"] ++ [Part.name t.name] ++ [Part.keyword "SET"] ++
          list ((columnNames (c :: columns)).map equation)) :=
      ((opens_update d).append (spells_name d 1 t.name)).between (opens_set d) rfl
        (spells_assignments d 1 (c :: columns))
    have hn : 1 + arity ([Part.keyword "UPDATE"] ++ [Part.name t.name] ++ [Part.keyword "SET"] ++
        list ((columnNames (c :: columns)).map equation)) = (c :: columns).length + 1 := by
      rw [arity_append, list, arity_equations rfl, columnNames, List.length_map, Nat.add_comm]
      simp [arity]
    have h := hs.filtered d 1 t.primaryKey hk
    rw [hn] at h
    exact h

theorem AsksIf.absent {p : Prop} {c : Command} (hp : ¬p) : AsksIf p d none c where
  isSome_iff := iff_of_false Bool.false_ne_true hp
  asks := by simp

theorem AsksIf.present {p : Prop} {sql : String} {c : Command} (hp : p)
    (h : Spells d 1 sql (parts d c)) : AsksIf p d (some sql) c where
  isSome_iff := iff_of_true rfl hp
  asks := by simpa using asks_of_spells d h

theorem commands_keyless (hk : t.primaryKey = []) : Commands d t [] (ofTable d t) := by
  have he : ofTable d t = { selectAll := selectAllOf d t, insert := insertOf d t } := by
    rw [ofTable, hk]
  rw [he]
  exact {
    selectAll := asks_of_spells d (spells_selectAll d t)
    insert := asks_of_spells d (spells_insert d t)
    selectByKey := .absent d fun h => h rfl
    updateByKey := .absent d fun h => h.1 rfl
    deleteByKey := .absent d fun h => h rfl }

theorem commands_keyed (hk : t.primaryKey ≠ []) :
    Commands d t (columnNames t.primaryKey) (ofTable d t) := by
  have he : ofTable d t =
      { selectAll := selectAllOf d t
        insert := insertOf d t
        selectByKey := some (selectAllOf d t ++ " WHERE " ++ keyFilter d 1 t.primaryKey)
        updateByKey := updateOf d t
        deleteByKey := some
          ("DELETE FROM " ++ d.quoteIdentifier t.name ++ " WHERE " ++ keyFilter d 1 t.primaryKey) } := by
    unfold ofTable
    split
    case h_1 h => contradiction
    case h_2 => rfl
  have hn : columnNames t.primaryKey ≠ [] := by simpa [columnNames] using hk
  have hu : AsksIf (columnNames t.primaryKey ≠ [] ∧ t.columns.filter (!·.primaryKey) ≠ []) d
      (updateOf d t) (.update t.name (columnNames (t.columns.filter (!·.primaryKey)))
        (columnNames t.primaryKey)) := by
    by_cases ha : t.columns.filter (!·.primaryKey) = []
    case pos => rw [updateOf_eq_none d t ha]; exact .absent d fun h => h.2 ha
    case neg =>
      obtain ⟨sql, hs, h⟩ := spells_updateByKey d t hk ha
      rw [hs]
      exact .present d ⟨hn, ha⟩ h
  rw [he]
  exact {
    selectAll := asks_of_spells d (spells_selectAll d t)
    insert := asks_of_spells d (spells_insert d t)
    selectByKey := .present d hn (spells_selectByKey d t hk)
    updateByKey := hu
    deleteByKey := .present d hn (spells_deleteByKey d t hk) }

end Tables
end Texts

-- Every statement asks for what it is there for, and the key of the model is the one that the
-- statements filter by.
theorem ofTable_commands (d : Dialect) (t : Table) :
    let keys := (t.columns.filter (·.primaryKey)).map (·.name)
    Commands d t keys (ofTable d t) ∧
      ∀ l m, TableModel.ofTable l d t = .ok m → m.primaryKey = keys ∧ m.statements = ofTable d t := by
  intro keys
  constructor
  case left =>
    by_cases hk : t.primaryKey = []
    case pos =>
      have he : keys = [] := List.map_eq_nil_iff.mpr hk
      exact he ▸ commands_keyless d t hk
    case neg => exact commands_keyed d t hk
  case right =>
    intro l m hm
    obtain ⟨_, rfl⟩ := TableModel.ofTable_ok hm
    exact ⟨rfl, rfl⟩

-- Names that look like placeholders and hold quotes.
theorem ofTable_commands_quotes :
    let t : Table :=
      { name := "a\"b"
        columns := [
          { name := "$1", canonical := some .boolean, primaryKey := true },
          { name := "x = ?", canonical := some .date }] }
    ∃ m, TableModel.ofTable .go .postgresql t = .ok m ∧ m.primaryKey = ["$1"] ∧
      ∃ sql ∈ m.statements.updateByKey, tokens? .postgresql sql.toList = some [
        bareWord "UPDATE", .word ⟨"a\"b", some '\x22'⟩ "",
        bareWord "SET", .word ⟨"x = ?", some '\x22'⟩ "", .symbol "=", .placeholder "$1",
        bareWord "WHERE", .word ⟨"$1", some '\x22'⟩ "", .symbol "=", .placeholder "$2"] := by
  intro t
  obtain ⟨hc, hm⟩ := ofTable_commands .postgresql t
  have ho : ∃ m, TableModel.ofTable .go .postgresql t = .ok m := ⟨_, rfl⟩
  obtain ⟨m, ho⟩ := ho
  obtain ⟨hk, hs⟩ := hm .go m ho
  obtain ⟨sql, hu⟩ := Option.isSome_iff_exists.mp (hc.updateByKey.isSome_iff.mpr (by decide))
  exact ⟨m, ho, hk, sql, hs ▸ hu, (hc.updateByKey.asks sql hu).tokens⟩

end TypedRows.Statements
