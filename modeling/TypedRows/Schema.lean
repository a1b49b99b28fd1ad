import TypedRows.Schema.Table

namespace TypedRows

structure Schema where
  tables : List Table := []
  keys_nodup : (tables.map Table.key).Nodup := by simp

namespace Schema

def empty : Schema := {}

def table? (s : Schema) (name : String) : Option Table :=
  s.tables.find? fun t => t.key = Text.lower name

-- A table takes the place of the one with its key, and goes to the end.
def add (s : Schema) (t : Table) : Schema where
  tables := s.tables.filter (·.key ≠ t.key) ++ [t]
  keys_nodup := by
    rw [List.map_append, List.nodup_append]
    refine ⟨?_, by simp, ?_⟩
    · exact s.keys_nodup.sublist (List.filter_sublist.map _)
    · intro a ha b hb
      simp only [List.mem_map, List.mem_filter, decide_eq_true_eq] at ha
      obtain ⟨x, ⟨_, hx⟩, rfl⟩ := ha
      simp only [List.map_cons, List.map_nil, List.mem_singleton] at hb
      exact hb ▸ hx

-- Adds a table, and tells which one it takes the place of.
def addReplacing (s : Schema) (t : Table) : Option Table × Schema :=
  (s.table? t.name, s.add t)

-- Changes tables but not their names.
def mapTables (s : Schema) (f : Table → Table) (key_f : ∀ t, (f t).key = t.key) : Schema where
  tables := s.tables.map f
  keys_nodup := by
    have : (s.tables.map f).map Table.key = s.tables.map Table.key := by
      simp [Function.comp_def, key_f]
    exact this ▸ s.keys_nodup

def markKey (s : Schema) (table column : String) : Schema :=
  s.mapTables (fun t => if t.key = Text.lower table then t.markKey column else t) (by
    intro t; split <;> simp)

-- Only the named table changes.
theorem table?_markKey (s : Schema) (table column name : String) :
    (s.markKey table column).table? name =
      if Text.lower name = Text.lower table then (s.table? name).map (·.markKey column)
      else s.table? name := by
  have hk : ((fun t : Table => decide (t.key = Text.lower name)) ∘ fun t =>
      if t.key = Text.lower table then t.markKey column else t) =
        fun t => decide (t.key = Text.lower name) := by
    funext t
    rw [Function.comp_apply]
    split <;> rfl
  rw [markKey, mapTables, table?, List.find?_map, hk, ← table?]
  cases hf : s.table? name
  case none => simp
  case some t =>
    have ht : t.key = Text.lower name := by simpa using List.find?_some hf
    rw [Option.map_some, ht]
    split <;> rfl

def isEmpty (s : Schema) : Bool :=
  s.tables.isEmpty

def tableNames (s : Schema) : List String :=
  s.tables.map (·.name)

end Schema
end TypedRows
