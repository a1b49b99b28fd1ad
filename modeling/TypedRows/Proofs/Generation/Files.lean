import TypedRows.Proofs.Definition.Script
import TypedRows.Proofs.Generation.Answer

namespace TypedRows

-- A name and the bytes under it.
abbrev NamedBytes := String × List UInt8

def SourceUnit.named (u : SourceUnit) : NamedBytes :=
  (u.fileName, u.content.toUTF8.toList)

namespace Artifact

-- What someone finds who opens an artifact.
def files (a : Artifact) : List NamedBytes :=
  match a with
  | file _ => [(a.fileName, a.content.toBytes)]
  | archive _ z => z.entries.map SourceUnit.named

def IsFile (a : Artifact) : Prop :=
  ∃ u, a = file u

variable {archiveName : String} {stamp : Stamp} {units : List SourceUnit} {a : Artifact}

theorem ofUnits_files (h : ofUnits archiveName stamp units = .ok a) :
    a.files = units.map SourceUnit.named ∧ (a.IsFile ↔ units.length = 1) := by
  unfold ofUnits at h
  split at h
  case h_1 => contradiction
  case h_2 u => cases h; exact ⟨rfl, by simp [IsFile]⟩
  case h_3 hn hs =>
    unfold Archive.ofUnits at h
    split at h
    case isFalse => contradiction
    case isTrue hd =>
      cases h
      have hl : units.length ≠ 1 := by
        intro hl
        obtain ⟨u, hu⟩ := List.length_eq_one_iff.mp hl
        exact hs u hu
      exact ⟨rfl, by simp [IsFile, hl]⟩

end Artifact

namespace Generator

-- The tables that an input leaves, before their types are resolved: the last definitions of a
-- script, or the only table of a sample.
def tablesLeft (g : Generator) (d : Dialect) (r : Request) : List Table :=
  match r.kind with
  | .ddl =>
    match Text.Utf8.decode (Text.Utf8.dropByteOrderMark r.input) with
    | .error _ => []
    | .ok script => Table.lastOfEach (Ddl.Parsed.tables (Ddl.Parsed.ofScript (g.parse d) d script))
  | .csv =>
    let records := Csv.RawRecord.ofBytes g.settings.csvOptions.delimiter
      (Text.Utf8.dropByteOrderMark r.input)
    match Csv.readTable g.settings.csvOptions (Identifier.tableName r.source) records with
    | .error _ => []
    | .ok t => [t]

theorem input_tables (g : Generator) (d : Dialect) (r : Request) :
    (g.input d r).1.tables = g.tablesLeft d r := by
  unfold input tablesLeft Schema.ofBytesWith
  cases r.kind
  case ddl =>
    dsimp only
    unfold Ddl.readBytes
    cases Text.Utf8.decode (Text.Utf8.dropByteOrderMark r.input)
    case error => rfl
    case ok script => exact Ddl.read_tables (g.parse d) d script
  case csv =>
    dsimp only
    unfold Csv.read Csv.readRecords
    cases Csv.readTable g.settings.csvOptions (Identifier.tableName r.source)
      (Csv.RawRecord.ofBytes g.settings.csvOptions.delimiter (Text.Utf8.dropByteOrderMark r.input))
    case error => rfl
    case ok => rfl

theorem schemaOf_tables (g : Generator) (d : Dialect) (r : Request) :
    (g.schemaOf d r).1.tables = (g.tablesLeft d r).map d.resolveTable := by
  rw [schemaOf_eq, ← input_tables]
  rfl

variable {g : Generator} {stamp : Stamp} {r : Request} {a : Artifact}

theorem generate_ok (h : g.generate stamp r = .ok a) :
    ∃ units, g.emit r = .ok units ∧
      Artifact.ofUnits g.settings.archiveName stamp units = .ok a := by
  unfold generate at h
  split at h
  case h_1 => contradiction
  case h_2 units hu =>
    split at h
    case h_1 => contradiction
    case h_2 ha => cases h; exact ⟨units, hu, ha⟩

-- What an artifact has to do with the request that it answers.
structure Brings (g : Generator) (r : Request) (a : Artifact) (l : Language) (d : Dialect)
    (units : List SourceUnit) : Prop where
  language : Language.ofName r.language = .ok l
  dialect : Dialect.ofName r.dialect = .ok d
  tables : (g.schemaOf d r).1.tables = (g.tablesLeft d r).map d.resolveTable
  emitted : (g.schemaOf d r).1.tables.map (g.emitter l d).unitOf = units.map .ok
  -- There is nothing but the units and the index.
  files : a.files = units.map SourceUnit.named ++
    if g.settings.withIndex then [(Layout.index l (g.schemaOf d r).1).named] else []
  isFile_iff : a.IsFile ↔ a.files.length = 1

-- An artifact holds the unit of each table that is left, in the order of their definitions, and the
-- index after them.
theorem generate_brings (h : g.generate stamp r = .ok a) : ∃ l d units, g.Brings r a l d units := by
  obtain ⟨all, he, ha⟩ := generate_ok h
  obtain ⟨l, d, hacc, _, hu⟩ := emit_eq_ok he
  obtain ⟨units, hus, rfl, _⟩ := Emitter.emit_ok hu
  obtain ⟨hl, hd⟩ := accept_ok hacc
  obtain ⟨hf, hi⟩ := Artifact.ofUnits_files ha
  refine ⟨l, d, units, hl, hd, schemaOf_tables g d r, hus, ?_, ?_⟩
  case refine_1 =>
    rw [hf, List.map_append]
    unfold Emitter.indexUnit emitter
    dsimp only
    split <;> rfl
  case refine_2 => rw [hi, hf, List.length_map]

-- Two tables, of which the first is defined again after the second.
theorem generate_brings_redefined :
    let g : Generator := { settings := { withIndex := true }, settings_ok := by decide }
    let script := "CREATE TABLE a (x INT); CREATE TABLE b (y INT); CREATE TABLE A (z INT)"
    let r : Request :=
      { input := script.toList.map (·.toNat.toUInt8), kind := .ddl, source := ""
        language := "rs", dialect := "sqlite" }
    ∃ a, g.generate ⟨0, ""⟩ r = .ok a ∧ a.files.map (·.1) = ["b.rs", "a.rs", "mod.rs"] ∧
      ∃ l d units, g.Brings r a l d units := by
  intro g script r
  have hn : (g.generate ⟨0, ""⟩ r).toOption.map (fun a => a.files.map (·.1)) =
      some ["b.rs", "a.rs", "mod.rs"] := by decide +kernel
  cases hg : g.generate ⟨0, ""⟩ r
  case error => rw [hg] at hn; contradiction
  case ok a =>
    rw [hg] at hn
    exact ⟨a, rfl, Option.some.inj hn, generate_brings hg⟩

end Generator
end TypedRows
