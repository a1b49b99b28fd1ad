import TypedRows.Proofs.Generation.Names

namespace TypedRows

open Code Layout

namespace Emitter

variable {e : Emitter} {s : Schema} {units : List SourceUnit}

theorem index_refers_iff (hl : e.language ≠ .go) (s : Schema) :
    (∀ files ∈ (Layout.index e.language s).referredFiles e.language,
        files = s.tables.map e.language.fileName) ↔
      (e.language = .rust → ∀ t ∈ s.tables, ¬Language.hasNoRawForm (Language.rust.fileStem t)) := by
  by_cases hr : e.language = .rust
  case neg => simp [referredFiles_index s hr hl, hr]
  case pos =>
    have hm : ∀ {fs gs : List String}, (∀ files ∈ List.replicate 2 fs, files = gs) ↔ fs = gs := by
      simp
    rw [hr, referredFiles_rust, List.map_map, hm, List.map_inj_left,
      forall_prop_of_true rfl]
    exact forall₂_congr fun t _ => Rust.moduleFile_moduleName t

-- Each list of references has every unit once, in the order of the schema, and resolves to its
-- file. Modules of Rust do not if their name is a reserved word that has no raw form.
theorem emit_references_iff (h : e.emit s = .ok units) (hx : e.withIndex) (hl : e.language ≠ .go) :
    ∃ us index, units = us ++ [index] ∧ s.tables.map e.unitOf = us.map .ok ∧
      index.fileName = e.language.indexFileName ∧
      (index.referredFiles e.language).length = (if e.language = .rust then 2 else 1) ∧
      ((∀ files ∈ index.referredFiles e.language, files = us.map SourceUnit.fileName) ↔
        (e.language = .rust →
          ∀ t ∈ s.tables, ¬Language.hasNoRawForm (Language.rust.fileStem t))) := by
  obtain ⟨us, hus, rfl, _⟩ := emit_ok h
  have hi : e.indexUnit s = [Layout.index e.language s] := if_pos hx
  refine ⟨us, Layout.index e.language s, by rw [hi], hus, rfl, ?_, ?_⟩
  case refine_1 =>
    split_ifs with hr
    case pos => rw [hr, referredFiles_rust, List.length_replicate]
    case neg => rw [referredFiles_index s hr hl, List.length_singleton]
  case refine_2 => rw [unitOf_fileNames hus, index_refers_iff hl]

-- A table that is named like a reserved word with a raw form.
theorem emit_references_type :
    let e : Emitter := ⟨.rust, .sqlite, true⟩
    let s : Schema := { tables := [.keyed "type", .keyed "users"], keys_nodup := by decide }
    ∃ us index, e.emit s = .ok (us ++ [index]) ∧
      ∀ files ∈ index.referredFiles .rust, files = us.map SourceUnit.fileName := by
  intro e s
  have hs : (e.emit s).isOk := by decide +kernel
  cases he : e.emit s
  case error => rw [he] at hs; contradiction
  case ok units =>
    obtain ⟨us, index, rfl, _, _, _, hr⟩ := emit_references_iff he rfl (by decide)
    exact ⟨us, index, rfl, hr.mpr fun _ => by decide +kernel⟩

theorem emit_references_self :
    ¬∀ (e : Emitter) (s : Schema) (us : List SourceUnit) (index : SourceUnit),
      e.emit s = .ok (us ++ [index]) → e.withIndex → e.language ≠ .go →
      ∀ files ∈ index.referredFiles e.language, files = us.map SourceUnit.fileName := by
  intro h
  let e : Emitter := ⟨.rust, .sqlite, true⟩
  let s : Schema := { tables := [.keyed "self"], keys_nodup := by decide }
  have hs : (e.emit s).isOk := by decide +kernel
  cases he : e.emit s
  case error => rw [he] at hs; contradiction
  case ok units =>
    obtain ⟨us, hus, rfl, _⟩ := emit_ok he
    have hf := h e s us (Layout.index e.language s) he rfl (by decide)
    rw [unitOf_fileNames hus] at hf
    have hn := (index_refers_iff (by decide) s).mp hf rfl _ List.mem_cons_self
    exact absurd hn (by decide +kernel)

end Emitter
end TypedRows
