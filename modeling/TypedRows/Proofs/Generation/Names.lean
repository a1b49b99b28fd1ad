import Mathlib.Data.List.Perm.Subperm
import TypedRows.Proofs.Code.Index
import TypedRows.Proofs.Code.Models

namespace TypedRows

open Code

namespace Emitter

variable {e : Emitter} {s : Schema} {t : Table} {u : SourceUnit} {units : List SourceUnit}

theorem unitOf_declarations (h : e.unitOf t = .ok u) (hk : e.language.KeepsComments t.name) :
    ∃ m, m.typeName = e.language.typeName t ∧ m.statements = .ofTable e.dialect t ∧
      u.declarations e.language = Layout.declared e.language m := by
  obtain ⟨m, hm, rfl⟩ := unitOf_ok h
  have hl := TableModel.ofTable_legible hm
  obtain ⟨_, rfl⟩ := TableModel.ofTable_ok hm
  exact ⟨_, rfl, rfl, Layout.unit_declarations hl hk⟩

theorem unitOf_typeNames (h : e.unitOf t = .ok u) (hk : e.language.KeepsComments t.name) :
    u.typeNames e.language = [e.language.typeName t] := by
  obtain ⟨m, hn, _, hd⟩ := unitOf_declarations h hk
  rw [SourceUnit.typeNames, hd, Layout.declared_types, hn]

theorem unitOf_exportedNames (hl : e.language = .typescript) (h : e.unitOf t = .ok u)
    (hk : e.language.KeepsComments t.name) : u.exportedNames .typescript = e.declaredNames t := by
  obtain ⟨m, hn, _, hd⟩ := unitOf_declarations h hk
  rw [hl] at hn hd
  rw [SourceUnit.exportedNames, hd, declaredNames, declaredSuffixes, hl, ← hn]
  rfl

theorem unitOf_packageNames (hl : e.language = .go) (h : e.unitOf t = .ok u) :
    (u.packageNames .go).Perm (e.declaredNames t) := by
  have hk : e.language.KeepsComments t.name := by
    rw [hl]
    exact fun _ h => absurd h List.not_mem_nil
  obtain ⟨m, hn, hs, hd⟩ := unitOf_declarations h hk
  rw [hl] at hn hd
  rw [SourceUnit.packageNames, hd, declaredNames, declaredSuffixes, hl, ← hn, ← hs]
  have hc : ((Layout.Go.constants m).map fun p => Declaration.mk false "const" p.1).map
      Declaration.name =
      (m.statements.named.map fun p => Casing.pascal.apply p.1).map (m.typeName ++ ·) := by
    simp [Layout.Go.constants, Function.comp_def]
  simp only [Layout.declared, List.map_cons, List.map_append, hc]
  exact ((List.perm_append_singleton _ _).cons _).cons _

theorem flatMap_subperm {names : SourceUnit → List String} {ts : List Table}
    {us : List SourceUnit} (h : ts.map e.unitOf = us.map .ok)
    (hn : ∀ t ∈ ts, ∀ u, e.unitOf t = .ok u → (names u).Subperm (e.declaredNames t)) :
    (us.flatMap names).Subperm (ts.flatMap e.declaredNames) := by
  induction ts generalizing us
  case nil =>
    rw [List.map_eq_nil_iff.mp h.symm]
    exact .refl _
  case cons t ts hi =>
    obtain ⟨u, us, rfl, hu, hus⟩ := List.map_eq_cons_iff.mp h.symm
    have ⟨ht, hts⟩ := List.forall_mem_cons.mp hn
    exact (ht u hu.symm).append (hi hus.symm hts)

-- Names that each unit has from what its table declares are different in all units.
theorem emit_nodup {names : SourceUnit → List String} (h : e.emit s = .ok units)
    (hx : names (Layout.index e.language s) = [])
    (hn : ∀ t ∈ s.tables, ∀ u, e.unitOf t = .ok u → (names u).Subperm (e.declaredNames t)) :
    (units.flatMap names).Nodup := by
  obtain ⟨us, hus, rfl, _⟩ := emit_ok h
  obtain ⟨l, hp, hl⟩ := flatMap_subperm hus hn
  have hi : (e.indexUnit s).flatMap names = [] := by
    unfold indexUnit
    split
    case isTrue => rw [List.flatMap_singleton, hx]
    case isFalse => rfl
  rw [List.flatMap_append, hi, List.append_nil]
  exact hp.nodup_iff.mp ((emit_declaredNames_nodup h).sublist hl)

-- Files, package names, exports and types: no two units share one. Exports and types are told from
-- the text of the units, where a table can bring others with a name that ends its comment.
theorem emit_names_distinct (h : e.emit s = .ok units) :
    ((units.map SourceUnit.fileName).map Text.lower).Nodup ∧
    (e.language = .go → (units.flatMap (SourceUnit.packageNames .go)).Nodup) ∧
    ((∀ t ∈ s.tables, e.language.KeepsComments t.name) →
      (e.language = .typescript → (units.flatMap (SourceUnit.exportedNames .typescript)).Nodup) ∧
      (units.flatMap (SourceUnit.typeNames e.language)).Nodup) := by
  have hx : (Layout.index e.language s).declarations e.language = [] :=
    Layout.index_declarations s e.language
  refine ⟨emit_lowerFileNames_nodup h, ?_, fun hk => ⟨?_, ?_⟩⟩
  case refine_1 =>
    intro hl
    apply emit_nodup h
    case hx => rw [SourceUnit.packageNames, ← hl, hx]; rfl
    case hn => exact fun t _ u hu => (unitOf_packageNames hl hu).subperm
  case refine_2 =>
    intro hl
    apply emit_nodup h
    case hx => rw [SourceUnit.exportedNames, ← hl, hx]; rfl
    case hn =>
      intro t ht u hu
      rw [unitOf_exportedNames hl hu (hk t ht)]
  case refine_3 =>
    apply emit_nodup h
    case hx => rw [SourceUnit.typeNames, hx, List.filter_nil, List.map_nil]
    case hn =>
      intro t ht u hu
      rw [unitOf_typeNames hu (hk t ht)]
      exact (List.singleton_sublist.mpr List.mem_cons_self).subperm

end Emitter

def Table.keyed (name : String) : Table where
  name := name
  columns := [
    { name := "id", canonical := some (.integer 64), nullable := false, primaryKey := true }]

theorem Emitter.emit_names_distinct_orders :
    let e : Emitter := ⟨.typescript, .mysql, true⟩
    let s : Schema := { tables := [.keyed "order", .keyed "order items"], keys_nodup := by decide }
    ∃ units, e.emit s = .ok units ∧
      (units.flatMap (SourceUnit.exportedNames .typescript)).Nodup ∧
      (units.flatMap (SourceUnit.typeNames .typescript)).Nodup := by
  intro e s
  have hs : (e.emit s).isOk := by decide +kernel
  cases he : e.emit s
  case error => rw [he] at hs; contradiction
  case ok units =>
    have ⟨hx, ht⟩ := (emit_names_distinct he).2.2 (by decide +kernel)
    exact ⟨units, rfl, hx rfl, ht⟩

-- The name of the first table goes on after the line of its comment, with a type of its own.
def Schema.overlong : Schema where
  tables := [.keyed "a\u2028export interface Users \x7b\x7d //", .keyed "users"]
  keys_nodup := by
    have hn : ∀ {a b : String},
        (Text.lowerChars a.toList).head? ≠ (Text.lowerChars b.toList).head? →
        Text.lower a ≠ Text.lower b := by
      intro a b hd h
      have hl := congrArg (·.toList.head?) h
      simp only [Text.lower, String.toList_ofList] at hl
      exact hd hl
    have hk : Text.lower "a\u2028export interface Users \x7b\x7d //" ≠ Text.lower "users" :=
      hn (by decide +kernel)
    simpa [Table.key, Table.keyed] using hk

theorem Layout.overlong_typeNames {m : TableModel} (h : Legible .typescript m)
    (hm : m.table = "a\u2028export interface Users \x7b\x7d //") :
    "Users" ∈ (unit .typescript m).typeNames .typescript := by
  have hc : Language.typescript.lexicon.Reads (.lineComment false) (commentName m)
      [.lineEnd, .word "export", .word "interface", .word "Users", .mark '{', .mark '}']
      (.lineComment false) := by
    rw [Lexicon.Reads, commentName, hm, Text.Escape.comment, String.toList_ofList]
    decide +kernel
  have ha : Language.typescript.lexicon.Reads .code "// Generated by schema_codegen from the " []
    (.lineComment false) := .fixed rfl
  have hb : Language.typescript.lexicon.Reads (.lineComment false) " table. Do not edit." []
    (.lineComment false) := .fixed rfl
  have hh : Lines.Declare .typescript {} [header m] [⟨true, "interface", "Users"⟩] {} :=
    .of_comment ((ha.append hc).append hb) rfl
  have hd : (unit .typescript m).declarations .typescript = _ :=
    SourceUnit.declarations_text rfl (TypeScript.unit_declare h hh) _
  rw [SourceUnit.typeNames, hd]
  exact List.mem_cons_self

theorem Emitter.emit_names_repeated :
    ¬∀ (e : Emitter) (s : Schema) (units : List SourceUnit), e.emit s = .ok units →
      ((units.map SourceUnit.fileName).map Text.lower).Nodup ∧
      (e.language = .go → (units.flatMap (SourceUnit.packageNames .go)).Nodup) ∧
      (e.language = .typescript → (units.flatMap (SourceUnit.exportedNames .typescript)).Nodup) ∧
      (units.flatMap (SourceUnit.typeNames e.language)).Nodup := by
  intro h
  have hs : (emit ⟨.typescript, .mysql, false⟩ .overlong).isOk := by decide +kernel
  cases he : emit ⟨.typescript, .mysql, false⟩ .overlong
  case error => rw [he] at hs; contradiction
  case ok units =>
    have hn := (h _ _ units he).2.2.2
    obtain ⟨us, hus, rfl, _⟩ := emit_ok he
    obtain ⟨u, us, rfl, hu, hus⟩ := List.map_eq_cons_iff.mp hus.symm
    obtain ⟨v, us, rfl, hv, _⟩ := List.map_eq_cons_iff.mp hus
    have hx : "Users" ∈ u.typeNames .typescript := by
      obtain ⟨m, hm, rfl⟩ := unitOf_ok hu.symm
      have hl := TableModel.ofTable_legible hm
      obtain ⟨_, rfl⟩ := TableModel.ofTable_ok hm
      exact Layout.overlong_typeNames hl rfl
    have hy : "Users" ∈ v.typeNames .typescript := by
      rw [unitOf_typeNames hv.symm (by decide +kernel)]
      decide +kernel
    simp only [List.cons_append, List.flatMap_cons] at hn
    exact List.disjoint_of_nodup_append hn hx (List.mem_append_left _ hy)

end TypedRows
