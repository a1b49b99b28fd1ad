import TypedRows.Proofs.Files.Path
import TypedRows.Proofs.Generation.Files
import TypedRows.Proofs.Text.Numeral

namespace TypedRows

open Text

namespace Calendar

-- Digits and signs, of which the stamps of times are made.
def isStampChar (c : Char) : Bool :=
  c.isDigit || c = '-' || c = '+'

theorem padded_isStampChar (width n : Nat) : ∀ c ∈ (padded width n).toList, isStampChar c := by
  intro c hc
  simp [isStampChar, isDigit_of_mem_padded hc]

theorem yearText_isStampChar (year : Int) : ∀ c ∈ (yearText year).toList, isStampChar c := by
  unfold yearText
  split
  case isTrue => exact padded_isStampChar _ _
  case isFalse =>
    rw [String.toList_append, List.forall_mem_append]
    refine ⟨?_, padded_isStampChar _ _⟩
    split <;> exact List.all_eq_true.mp rfl

theorem stampText_isStampChar (seconds : Int) :
    ∀ c ∈ (stampText seconds).toList, isStampChar c := by
  have hm : ∀ c ∈ "-".toList, isStampChar c := List.all_eq_true.mp rfl
  have hp := padded_isStampChar
  unfold stampText
  simp only [String.toList_append, List.forall_mem_append]
  exact ⟨⟨⟨⟨⟨⟨yearText_isStampChar _, hp _ _⟩, hp _ _⟩, hm⟩, hp _ _⟩, hp _ _⟩, hp _ _⟩

end Calendar

-- Random parts of names are drawn from letters and digits.
def Stamp.Drawn (s : Stamp) : Prop :=
  ∀ c ∈ s.suffix.toList, c.isAlphanum

namespace Identifier

theorem isFileNameMark_of_mem {name : String} {c : Char} (h : c ∈ (fileName name).toList) :
    isFileNameMark c = false := by
  rw [fileName, String.toList_ofList] at h
  obtain ⟨x, _, rfl⟩ := List.mem_map.mp h
  split
  case isTrue => rfl
  case isFalse hx => simpa using hx

theorem isFileNameMark_of_isAlpha {c : Char} (h : c.isAlpha) : isFileNameMark c = false := by
  have hd : ∀ m ∈ [' ', '/', '\\', ':', '*', '?', '\x22', '<', '>', '|'], !m.isAlpha :=
    List.all_eq_true.mp rfl
  cases hm : isFileNameMark c
  case false => rfl
  case true => simpa [h] using hd c (List.contains_iff_mem.mp hm)

theorem not_mem_fileName {name : String} {c : Char} (h : isFileNameMark c) :
    c ∉ (fileName name).toList := by
  intro hc
  rw [isFileNameMark_of_mem hc] at h
  contradiction

-- A letter in a name keeps it from being a way up.
theorem isName_fileName {name : String} {c : Char} (hc : c ∈ name.toList) (ha : c.isAlpha) :
    Path.IsName (fileName name).toList := by
  have hm : c ∈ (fileName name).toList := by
    rw [fileName, String.toList_ofList]
    exact List.mem_map.mpr ⟨c, hc, by rw [isFileNameMark_of_isAlpha ha]; rfl⟩
  have hd : c ≠ '.' := by rintro rfl; contradiction
  exact .of_mem hm hd (not_mem_fileName rfl) (not_mem_fileName rfl)

end Identifier

-- The sign between its pieces keeps the stem of a name from being a way up.
theorem Stamp.isName_stem {s : Stamp} (h : s.Drawn) (archiveName : String) :
    Path.IsName (s.stem archiveName).toList := by
  have hc : (s.stem archiveName).toList = (Identifier.fileName archiveName).toList ++
      '-' :: ((Calendar.stampText s.seconds).toList ++ '-' :: s.suffix.toList) := by
    simp [stem]
  have hn : ∀ c, Identifier.isFileNameMark c → Calendar.isStampChar c = false →
      c.isAlphanum = false → c ∉ (s.stem archiveName).toList := by
    intro c hm ht ha
    have hd : c ≠ '-' := by rintro rfl; exact absurd ht (by decide)
    have hs : c ∉ (Calendar.stampText s.seconds).toList := by
      intro hc
      simp [Calendar.stampText_isStampChar _ c hc] at ht
    have hx : c ∉ s.suffix.toList := by
      intro hc
      simp [h c hc] at ha
    simp [hc, Identifier.not_mem_fileName hm, hd, hs, hx]
  refine .of_mem (c := '-') ?_ (by decide) (hn _ rfl rfl rfl) (hn _ rfl rfl rfl)
  simp [hc]

-- What the names of artifacts end in.
def artifactExtensions : List String :=
  "zip" :: Language.all.map Language.extension

theorem Language.extension_mem (l : Language) : l.extension ∈ artifactExtensions :=
  List.mem_cons_of_mem _ (List.mem_map_of_mem (by cases l <;> decide))

theorem Emitter.exists_extension {e : Emitter} {s : Schema} {name : String}
    (h : name ∈ e.fileNames s) : ∃ stem, name = stem ++ "." ++ e.language.extension := by
  rcases List.mem_append.mp h with h | h
  case inl =>
    obtain ⟨t, _, rfl⟩ := List.mem_map.mp h
    exact ⟨e.language.fileStem t, rfl⟩
  case inr =>
    have hi : ∀ l : Language, ∃ stem, l.indexFileName = stem ++ "." ++ l.extension
      | .go => ⟨"doc", rfl⟩
      | .rust => ⟨"mod", rfl⟩
      | .typescript => ⟨"index", rfl⟩
      | .python => ⟨"__init__", rfl⟩
      | .php => ⟨"bootstrap", rfl⟩
    split at h
    case isTrue => exact List.mem_singleton.mp h ▸ hi e.language
    case isFalse => contradiction

theorem Artifact.ofUnits_cases {archiveName : String} {s : Stamp} {units : List SourceUnit}
    {a : Artifact} (h : ofUnits archiveName s units = .ok a) :
    (∃ u, units = [u] ∧ a = file u) ∨ ∃ z, a = archive (s.stem archiveName ++ ".zip") z := by
  unfold ofUnits at h
  split at h
  case h_1 => contradiction
  case h_2 u => cases h; exact .inl ⟨u, rfl, rfl⟩
  case h_3 =>
    cases hz : Archive.ofUnits units
    case error => rw [hz] at h; contradiction
    case ok z => rw [hz] at h; cases h; exact .inr ⟨z, rfl⟩

-- The parts of the path under which an artifact is kept.
def Artifact.pathParts (archiveName : String) (s : Stamp) (a : Artifact) : List (List Char) :=
  let name := (Identifier.fileName a.fileName).toList
  match a with
  | archive _ _ => [name]
  | file _ => [(s.stem archiveName).toList, name]

theorem Artifact.split_relativePath {archiveName : String} {s : Stamp} {a : Artifact}
    (ht : Path.IsName (s.stem archiveName).toList)
    (hn : Path.IsName (Identifier.fileName a.fileName).toList) :
    splitAtChar '/' (a.relativePath archiveName s).toList = a.pathParts archiveName s := by
  cases a with
  | archive name z => exact splitAtChar_of_not_mem hn.no_slash
  | file u =>
    have hp : ((file u).relativePath archiveName s).toList =
        (s.stem archiveName).toList ++ '/' :: (Identifier.fileName (file u).fileName).toList := by
      simp [relativePath]
    rw [hp, splitAtChar_append, splitAtChar_of_not_mem ht.no_slash,
      splitAtChar_of_not_mem hn.no_slash]
    rfl

section Writing

variable {seconds : Int} {m m' : Machine} {path : String} {content : FileContent}

theorem Shell.inMemory_write_ok (h : m.write path content = .ok m') :
    ((inMemory seconds).write path content).run m = (.ok (), m') := by
  simp only [inMemory, StateT.run_bind, StateT.run_get, pure_bind, h]
  rfl

theorem Shell.inMemory_write_error {fault : FileFault} (h : m.write path content = .error fault) :
    ((inMemory seconds).write path content).run m = (.error fault, m) := by
  simp only [inMemory, StateT.run_bind, StateT.run_get, pure_bind, h]
  rfl

end Writing

theorem Store.put_run (seconds : Int) (root archiveName : String) (s : Stamp) (a : Artifact)
    (m : Machine) :
    let store := inDirectory (Shell.inMemory seconds) root archiveName
    let path := a.relativePath archiveName s
    (∃ m', m.write (Path.join root path) a.content = .ok m' ∧
      (store.put s a).run m = (.ok path, m')) ∨
      ∃ fault, (store.put s a).run m = (.error fault, m) := by
  intro store path
  simp only [store, inDirectory, StateT.run_bind]
  cases h : m.write (Path.join root path) a.content
  case error fault =>
    right
    rw [Shell.inMemory_write_error h]
    exact ⟨fault, rfl⟩
  case ok m' =>
    left
    rw [Shell.inMemory_write_ok h]
    exact ⟨m', rfl, rfl⟩

-- A file is written where its path leads, or not at all.
theorem Store.put_inDirectory (seconds : Int) (root archiveName : String) (s : Stamp) (a : Artifact)
    (m : Machine) :
    let store := inDirectory (Shell.inMemory seconds) root archiveName
    let path := a.relativePath archiveName s
    (store.put s a).run m =
        (.ok path, m.setFile (Machine.placeOf (Path.join root path)) a.content) ∨
      ∃ fault, (store.put s a).run m = (.error fault, m) := by
  intro store path
  refine (Store.put_run seconds root archiveName s a m).imp_left fun ⟨m', hw, hp⟩ => ?_
  rw [hp, (Machine.write_eq_ok hw).2]

namespace Generator

variable {g : Generator} {stamp stamp' : Stamp} {r : Request} {a : Artifact}

theorem exists_extension (h : g.generate stamp r = .ok a) :
    ∃ stem, ∃ e ∈ artifactExtensions, a.fileName = stem ++ "." ++ e := by
  obtain ⟨units, hu, ha⟩ := generate_ok h
  obtain ⟨l, d, _, _, he⟩ := emit_eq_ok hu
  rcases Artifact.ofUnits_cases ha with ⟨u, rfl, rfl⟩ | ⟨z, rfl⟩
  case inl =>
    have hm : u.fileName ∈ (g.emitter l d).fileNames (g.schemaOf d r).1 :=
      Emitter.emit_fileNames he ▸ List.mem_singleton_self _
    obtain ⟨stem, hs⟩ := Emitter.exists_extension hm
    exact ⟨stem, l.extension, l.extension_mem, hs⟩
  case inr =>
    refine ⟨stamp.stem g.settings.archiveName, "zip", List.mem_cons_self, ?_⟩
    rw [String.append_assoc]
    rfl

theorem isName_artifact (h : g.generate stamp r = .ok a) :
    Path.IsName (Identifier.fileName a.fileName).toList := by
  have ha : ∀ e ∈ artifactExtensions, e.toList.any Char.isAlpha := by decide
  obtain ⟨stem, e, he, hn⟩ := exists_extension h
  obtain ⟨c, hc, hl⟩ := List.any_eq_true.mp (ha e he)
  refine Identifier.isName_fileName (c := c) ?_ hl
  rw [hn, String.toList_append]
  exact List.mem_append_right _ hc

-- An archive is kept in the directory of the store, and a single file in a directory of its own in
-- there. No name in the request and no setting leads out of it.
theorem relativePath_below (h : g.generate stamp r = .ok a) (hs : stamp'.Drawn)
    (archiveName root : String) :
    let path := a.relativePath archiveName stamp'
    let parts := splitAtChar '/' path.toList
    (a.IsFile → parts.length = 2) ∧ (¬a.IsFile → parts.length = 1) ∧
    (∀ p ∈ parts, Path.IsName p) ∧
    ∀ seconds m,
      let store := Store.inDirectory (Shell.inMemory seconds) root archiveName
      (store.put stamp' a).run m =
          (.ok path, m.setFile (Machine.placeOf root ++ parts.map String.ofList) a.content) ∨
        ∃ fault, (store.put stamp' a).run m = (.error fault, m) := by
  intro path parts
  have ht : Path.IsName (stamp'.stem archiveName).toList := Stamp.isName_stem hs archiveName
  have ha : Path.IsName (Identifier.fileName a.fileName).toList := isName_artifact h
  have hp : parts = a.pathParts archiveName stamp' := Artifact.split_relativePath ht ha
  have hn : ∀ p ∈ parts, Path.IsName p := by
    rw [hp]
    cases a <;> simp [Artifact.pathParts, ha, ht]
  refine ⟨?_, ?_, hn, ?_⟩
  case refine_1 =>
    rintro ⟨u, rfl⟩
    rw [hp]
    rfl
  case refine_2 =>
    intro hf
    cases a with
    | file u => exact absurd ⟨u, rfl⟩ hf
    | archive => rw [hp]; rfl
  case refine_3 =>
    intro seconds m store
    rw [← Machine.placeOf_join root hn]
    exact Store.put_inDirectory seconds root archiveName stamp' a m

-- Neither the source of an uploaded table nor the name for archives leads up.
theorem relativePath_below_uploaded :
    let g : Generator := { settings := { archiveName := "../x" }, settings_ok := by decide }
    let r : Request :=
      { input := "x\n1".toList.map (·.toNat.toUInt8), kind := .csv, source := "../..\\etc/pass.csv"
        language := "go", dialect := "sqlite" }
    let stamp : Stamp := ⟨0, "k3v9"⟩
    ∃ a, g.generate stamp r = .ok a ∧
      a.relativePath "../x" stamp = ".._x-19700101-000000-k3v9/pass.go" ∧
      ∀ p ∈ splitAtChar '/' (a.relativePath "../x" stamp).toList, Path.IsName p := by
  intro g r stamp
  have hp : (g.generate stamp r).map (·.relativePath "../x" stamp) =
      .ok ".._x-19700101-000000-k3v9/pass.go" := by
    decide +kernel
  have hs : stamp.Drawn := List.all_eq_true.mp (by decide)
  cases h : g.generate stamp r
  case error => rw [h] at hp; contradiction
  case ok a =>
    rw [h] at hp
    exact ⟨a, rfl, Except.ok.inj hp, (relativePath_below h hs "../x" "").2.2.1⟩

end Generator

end TypedRows
