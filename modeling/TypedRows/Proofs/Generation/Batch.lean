import TypedRows.CommandLine
import TypedRows.Proofs.Files.Tree
import TypedRows.Proofs.Generation.Session
import TypedRows.Proofs.Generation.Storage

namespace TypedRows

open Text CommandLine

section Names

-- The kind of the files of that name.
def InputKind.ofName? (name : String) : Option InputKind :=
  (Path.extensionOfName? name.toList).bind fun e => ofExtension (String.ofList e)

theorem artifactExtensions_plain : ∀ e ∈ artifactExtensions,
    '.' ∉ e.toList ∧ InputKind.ofExtension e = none ∧ Identifier.fileName e = e := by
  decide +kernel

theorem Path.extensionOfName?_append {stem extension : List Char} (h : '.' ∉ extension) :
    extensionOfName? (stem ++ '.' :: extension) = if stem = [] then none else some extension := by
  have hr : (stem ++ '.' :: extension).reverse = extension.reverse ++ '.' :: stem.reverse := by simp
  have hn : '.' ∉ extension.reverse := by simpa using h
  rw [extensionOfName?, hr, dropWhile_ne_append hn, takeWhile_ne_append hn]
  cases hs : stem.reverse
  case nil => simp [List.reverse_eq_nil_iff.mp hs]
  case cons c cs =>
    have hne : stem ≠ [] := by rintro rfl; simp at hs
    simp [hne]

theorem Identifier.fileName_append (a b : String) :
    fileName (a ++ b) = fileName a ++ fileName b := by
  simp [fileName, String.toList_append, List.map_append, String.ofList_append]

-- No artifact is an input to a later run.
theorem Generator.ofName?_artifact {g : Generator} {stamp : Stamp} {r : Request} {a : Artifact}
    (h : g.generate stamp r = .ok a) :
    InputKind.ofName? (Identifier.fileName a.fileName) = none := by
  obtain ⟨stem, e, he, hn⟩ := exists_extension h
  obtain ⟨hd, hk, hp⟩ := artifactExtensions_plain e he
  have hdot : Identifier.fileName "." = "." := by decide
  have hf : (Identifier.fileName a.fileName).toList =
      (Identifier.fileName stem).toList ++ '.' :: e.toList := by
    rw [hn, Identifier.fileName_append, Identifier.fileName_append, hp, hdot]
    simp
  rw [InputKind.ofName?, hf, Path.extensionOfName?_append hd]
  split
  case isTrue => rfl
  case isFalse => simpa using hk

end Names

-- A file that holds an input.
structure BatchInput where
  place : Place
  path : String
  kind : InputKind
  bytes : List UInt8

-- The kind of a file there, if its name matches.
def inputKindAt? (pattern : Option Glob) (place : Place) : Option InputKind :=
  place.getLast?.bind fun name =>
    if pattern.all (·.matchesName name) then InputKind.ofName? name else none

namespace Machine

structure Holds (m : Machine) (i : BatchInput) : Prop where
  located : m.locate i.path = .ok i.place
  content : (m.file? i.place).map FileContent.toBytes = some i.bytes

variable {m m' : Machine} {i : BatchInput} {q : Place} {content : FileContent}

theorem Holds.read (h : m.Holds i) : m.read i.path = .ok i.bytes := by
  obtain ⟨c, hc, hb⟩ := Option.map_eq_some_iff.mp h.content
  rw [Machine.read, h.located]
  simp only [bind, Except.bind, hc, hb]
  rfl

theorem Holds.setFile (h : m.Holds i) (hq : m.isDirectory q = false) (hne : i.place ≠ q) :
    (m.setFile q content).Holds i where
  located := locate_setFile hq hne h.located
  content := by rw [file?_setFile_of_ne hne, h.content]

theorem follow_congr (hf : m'.isFile = m.isFile) (hd : m'.isDirectory = m.isDirectory)
    (place : Place) (parts : List String) : m'.follow place parts = m.follow place parts := by
  induction parts generalizing place
  case nil => rfl
  case cons part parts hi => rw [follow, follow, hf, hd, hi]

-- What is shown on the screen is no file.
theorem Holds.congr (h : m.Holds i) (hf : m'.files = m.files) (hl : m'.links = m.links) :
    m'.Holds i := by
  have hc : m'.file? = m.file? := by funext place; rw [file?, file?, hf]
  have hi : m'.isFile = m.isFile := by funext place; rw [isFile, isFile, hc]
  have hd : m'.isDirectory = m.isDirectory := by
    funext place
    rw [isDirectory, isDirectory, taken, taken, hf, hl]
  constructor
  case located => rw [locate_eq, follow_congr hi hd, hi, ← locate_eq, h.located]
  case content => rw [hc, h.content]

end Machine

variable {g : Generator} {m : Machine} {i : BatchInput}

-- A response leaves a machine as it is, or with one more artifact.
theorem Generator.answer_run (now : Int) (root archiveName : String) (c : Call) (m : Machine) :
    let store := Store.inDirectory (Shell.inMemory now) root archiveName
    let m' := ((g.answer store c).run m).2
    m' = m ∨ ∃ a, g.generate c.stamp c.request = .ok a ∧
      m.write (Path.join root (a.relativePath archiveName c.stamp)) a.content = .ok m' := by
  intro store m'
  cases h : g.generate c.stamp c.request
  case error => exact .inl (congrArg Prod.snd (answer_refused h))
  case ok a =>
    rcases Store.put_run now root archiveName c.stamp a m with ⟨w, hw, hp⟩ | ⟨fault, hp⟩
    case inl =>
      have hm : m' = w := congrArg Prod.snd (answer_stored h hp)
      exact .inr ⟨a, rfl, hm ▸ hw⟩
    case inr => exact .inl (congrArg Prod.snd (answer_notStored h hp))

theorem Generator.getLast?_placeOf {stamp : Stamp} {r : Request} {a : Artifact}
    (h : g.generate stamp r = .ok a) (hs : stamp.Drawn) (root archiveName : String) :
    (Machine.placeOf (Path.join root (a.relativePath archiveName stamp))).getLast? =
      some (Identifier.fileName a.fileName) := by
  have ht := Stamp.isName_stem hs archiveName
  have ha := isName_artifact h
  have hp := Artifact.split_relativePath ht ha
  have hn : ∀ p ∈ a.pathParts archiveName stamp, Path.IsName p := by
    cases a <;> simp [Artifact.pathParts, ha, ht]
  rw [Machine.placeOf_join root (hp ▸ hn), hp]
  cases a <;> simp [Artifact.pathParts]

namespace Machine

theorem drawn_suffix (now : Int) (n : Nat) : Stamp.Drawn ⟨now, suffix n⟩ := by
  intro c hc
  have hd : c.isDigit := isDigit_of_mem_padded hc
  simp [Char.isAlphanum, hd]

-- An artifact never takes the place of an input.
theorem Holds.answer_run (now : Int) (g : Generator) {pattern : Option Glob} (h : m.Holds i)
    (hk : (inputKindAt? pattern i.place).isSome) {c : Call} (hs : c.stamp.Drawn) :
    ((g.answer (storeOf (Shell.inMemory now) g) c).run m).2.Holds i := by
  rcases Generator.answer_run now g.settings.outputDirectory g.settings.archiveName c m with
    hm | ⟨a, ha, hw⟩
  case inl => exact hm.symm ▸ h
  case inr =>
    obtain ⟨hd, hm⟩ := write_eq_ok hw
    have hl := Generator.getLast?_placeOf ha hs g.settings.outputDirectory g.settings.archiveName
    have hne : i.place ≠ placeOf (Path.join g.settings.outputDirectory
        (a.relativePath g.settings.archiveName c.stamp)) := by
      intro he
      rw [he, inputKindAt?, hl, Option.bind_some, Generator.ofName?_artifact ha] at hk
      simp at hk
    exact hm.symm ▸ h.setFile hd hne

end Machine

section Runs

-- A step that succeeds is followed by the rest of the run.
theorem run_bind_ok {σ ε α β : Type} {x : ExceptT ε (StateM σ) α} {s s' : σ} {a : α}
    (h : x.run.run s = (.ok a, s')) (f : α → ExceptT ε (StateM σ) β) :
    (x >>= f).run.run s = (f a).run.run s' := by
  rw [ExceptT.run_bind, StateT.run_bind, h]
  rfl

theorem run_bind_liftM {σ ε α β : Type} {x : StateM σ α} {s s' : σ} {a : α}
    (h : x.run s = (a, s')) (f : α → ExceptT ε (StateM σ) β) :
    (liftM x >>= f : ExceptT ε (StateM σ) β).run.run s = (f a).run.run s' := by
  refine run_bind_ok ?_ f
  rw [ExceptT.run_liftM, StateT.run_map, h]
  rfl

-- The call that an input makes.
def BatchInput.call (t : Target) (i : BatchInput) (stamp : Stamp) : Call :=
  let endpoint := Endpoint.ofKind i.kind
  ⟨endpoint, stamp, requestOf endpoint i.path t i.bytes⟩

theorem BatchInput.call_kind (t : Target) (i : BatchInput) (stamp : Stamp) :
    (i.call t stamp).endpoint.kind = i.kind ∧ (i.call t stamp).request.kind = i.kind :=
  ⟨Endpoint.kind_ofKind i.kind, Endpoint.kind_ofKind i.kind⟩

variable (now : Int) (g : Generator) (t : Target)

-- What a command does with an input that it was told of.
def answerInput (i : BatchInput) : StateM Machine Response := do
  let shell := Shell.inMemory now
  let stamp ← shell.stamp
  let response ← g.answer (storeOf shell g) (i.call t stamp)
  shell.printLine response.body
  return response

-- What a command does with an input.
def runInput (i : BatchInput) : StateM Machine Response := do
  (Shell.inMemory now).reportLine i.path
  answerInput now g t i

variable {j : BatchInput} {inputs : List BatchInput} {pattern : Option Glob}

theorem runInput_holds (i : BatchInput) (h : m.Holds j)
    (hk : (inputKindAt? pattern j.place).isSome) :
    ((runInput now g t i).run m).2.Holds j := by
  let m₁ := { m with reported := m.reported ++ [i.path], stamps := m.stamps + 1 }
  let c := i.call t ⟨now, Machine.suffix m.stamps⟩
  have h₁ : m₁.Holds j := h.congr rfl rfl
  have h₂ : ((g.answer (storeOf (Shell.inMemory now) g) c).run m₁).2.Holds j :=
    h₁.answer_run now g hk (Machine.drawn_suffix now m.stamps)
  exact h₂.congr rfl rfl

theorem runFile_run (h : m.Holds i) :
    (runFile (Shell.inMemory now) g (.ofKind i.kind) i.path t).run.run m =
      let r := (answerInput now g t i).run m
      (.ok r.1.isSuccess, r.2) := by
  have hread : ((Shell.inMemory now).read i.path).run m = (.ok i.bytes, m) :=
    congrArg (·, m) h.read
  rw [runFile, run_bind_liftM hread]
  rfl

-- Induction along the inputs. No run of one takes what another holds.
theorem runFiles_run (h : ∀ i ∈ inputs, m.Holds i)
    (hk : ∀ i ∈ inputs, (inputKindAt? pattern i.place).isSome) :
    (runFiles (Shell.inMemory now) g t (inputs.map fun i => (i.path, i.kind))).run.run m =
      let r := (inputs.mapM (runInput now g t)).run m
      (.ok (r.1.all (·.isSuccess)), r.2) := by
  induction inputs generalizing m
  case nil => rfl
  case cons i inputs hi =>
    obtain ⟨hh, ht⟩ := List.forall_mem_cons.mp h
    obtain ⟨-, hkt⟩ := List.forall_mem_cons.mp hk
    let m₁ := { m with reported := m.reported ++ [i.path] }
    have hreport : ((Shell.inMemory now).reportLine i.path).run m = ((), m₁) := rfl
    have hinput : (runInput now g t i).run m = (answerInput now g t i).run m₁ := rfl
    have hfirst := runFile_run now g t (hh.congr rfl rfl : m₁.Holds i)
    have hrest := hi (fun j hj => runInput_holds now g t i (ht j hj) (hkt j hj)) hkt
    rw [hinput] at hrest
    rw [List.map_cons, runFiles, run_bind_liftM hreport, run_bind_ok hfirst, run_bind_ok hrest,
      List.mapM_cons, StateT.run_bind, hinput]
    rfl

end Runs

section Selection

variable {pattern : Option Glob} {directory : String} {start below place : Place}

namespace Machine

def inputAt? (m : Machine) (pattern : Option Glob) (directory : String) (start place : Place) :
    Option BatchInput := do
  let content ← m.file? place
  let kind ← inputKindAt? pattern place
  return ⟨place, pathBelow directory start place, kind, content.toBytes⟩

def batchInputs (m : Machine) (pattern : Option Glob) (directory : String) (start : Place) :
    List BatchInput :=
  (m.placesBelow start).filterMap (m.inputAt? pattern directory start)

theorem inputAt?_spec (h : m.inputAt? pattern directory start below = some i) :
    i.place = below ∧ i.path = pathBelow directory start below ∧
      (m.file? below).map FileContent.toBytes = some i.bytes ∧
      inputKindAt? pattern below = some i.kind := by
  obtain ⟨content, hc, h⟩ := Option.bind_eq_some_iff.mp h
  obtain ⟨kind, hk, h⟩ := Option.bind_eq_some_iff.mp h
  cases h
  exact ⟨rfl, rfl, by rw [hc]; rfl, hk⟩

theorem exists_inputAt? (hf : m.isFile below) (hk : (inputKindAt? pattern below).isSome) :
    ∃ i, m.inputAt? pattern directory start below = some i := by
  obtain ⟨content, hc⟩ := Option.isSome_iff_exists.mp hf
  obtain ⟨kind, hk⟩ := Option.isSome_iff_exists.mp hk
  exact ⟨_, by rw [inputAt?, hc, hk]; rfl⟩

theorem IsTree.kindOf?_pathBelow (h : m.IsTree) (hb : below ∈ m.placesBelow start)
    (directory : String) :
    kindOf? pattern (pathBelow directory start below) = inputKindAt? pattern below := by
  have hn := h.fileName?_pathBelow hb directory
  obtain ⟨names, rfl, hne, -⟩ := h.exists_names hb
  obtain ⟨name, hname⟩ : ∃ name, (start ++ names).getLast? = some name :=
    Option.isSome_iff_exists.mp (by simp [hne])
  rw [kindOf?, Path.extension?, inputKindAt?, hn, hname]
  simp only [Option.getD_some, Option.bind_some, InputKind.ofName?, Option.bind_map]
  rfl

theorem regular_iff : m.typeOf place = .regular ↔ m.isFile place := by
  rw [typeOf]
  split_ifs with hf <;> simp [hf]

-- What is selected of a walk are the inputs.
theorem IsTree.select_walk (h : m.IsTree) :
    select pattern (⟨directory, .directory⟩ ::
        (m.placesBelow start).map (m.entryBelow directory start)) =
      (m.batchInputs pattern directory start).map fun i => (i.path, i.kind) := by
  rw [select, List.filter_cons_of_neg (by simp), List.filterMap_filter, List.filterMap_map,
    batchInputs, List.map_filterMap]
  refine List.filterMap_congr fun b hb => ?_
  simp only [Function.comp_apply, entryBelow, decide_eq_true_eq, regular_iff,
    h.kindOf?_pathBelow hb]
  rw [inputAt?, isFile]
  cases m.file? b
  case none => rfl
  case some => cases inputKindAt? pattern b <;> rfl

theorem batchInputs_ascend (m : Machine) (pattern : Option Glob) (directory : String)
    (start : Place) :
    ((m.batchInputs pattern directory start).map (·.place)).Pairwise (· < ·) := by
  refine List.pairwise_map.mpr ((m.placesBelow_ascend start).filterMap _ ?_)
  intro a b hab i hi j hj
  rwa [(inputAt?_spec hi).1, (inputAt?_spec hj).1]

theorem IsTree.batchInputs_spec (h : m.IsTree) (hl : m.locate directory = .ok start)
    (hi : i ∈ m.batchInputs pattern directory start) :
    isBelow start i.place ∧ m.Holds i ∧ inputKindAt? pattern i.place = some i.kind := by
  obtain ⟨below, hb, hi⟩ := List.mem_filterMap.mp hi
  obtain ⟨rfl, hp, hc, hk⟩ := inputAt?_spec hi
  refine ⟨(mem_placesBelow.mp hb).1, ⟨?_, hc⟩, hk⟩
  rw [hp]
  exact h.locate_pathBelow hl hb

theorem exists_batchInput (hf : m.isFile place) (hb : isBelow start place)
    (hk : (inputKindAt? pattern place).isSome) :
    ∃ i ∈ m.batchInputs pattern directory start, i.place = place := by
  obtain ⟨i, hi⟩ := exists_inputAt? hf hk
  have hm : place ∈ m.placesBelow start :=
    mem_placesBelow.mpr ⟨hb, place, mem_taken_of_isFile hf, List.prefix_rfl⟩
  exact ⟨i, List.mem_filterMap.mpr ⟨place, hm, hi⟩, (inputAt?_spec hi).1⟩

-- The inputs below a directory, in the order in which a walk meets them.
structure AreInputs (m : Machine) (pattern : Option Glob) (start : Place)
    (inputs : List BatchInput) : Prop where
  -- None comes twice.
  ascend : (inputs.map (·.place)).Pairwise (· < ·)
  selected : ∀ i ∈ inputs, isBelow start i.place ∧ m.Holds i ∧
    inputKindAt? pattern i.place = some i.kind
  complete : ∀ place, m.isFile place → isBelow start place →
    (inputKindAt? pattern place).isSome → ∃ i ∈ inputs, i.place = place

theorem IsTree.areInputs (h : m.IsTree) (hl : m.locate directory = .ok start) :
    m.AreInputs pattern start (m.batchInputs pattern directory start) where
  ascend := m.batchInputs_ascend pattern directory start
  selected _ := h.batchInputs_spec hl
  complete _ := exists_batchInput

end Machine

end Selection

section Batches

-- What a command does with the inputs below a directory.
def runInputs (now : Int) (g : Generator) (t : Target) (directory : String)
    (inputs : List BatchInput) (m : Machine) : Except Complaint Bool × Machine :=
  if inputs = [] then
    let line := "No .sql, .ddl or .csv files found in " ++ directory
    (.ok false, { m with reported := m.reported ++ [line] })
  else
    let (responses, m) := (inputs.mapM (runInput now g t)).run m
    (.ok (responses.all (·.isSuccess)), m)

variable {pattern : Option String} {glob : Option Glob} {directory : String} {start : Place}

theorem runBatch_batchInputs (now : Int) (g : Generator) (t : Target) (h : m.IsTree)
    (hl : m.locate directory = .ok start) (hd : m.isDirectory start)
    (hp : patternOf pattern = .ok glob) :
    (runBatch (Shell.inMemory now) g directory pattern t).run.run m =
      runInputs now g t directory (m.batchInputs glob directory start) m := by
  have hspec : ∀ i ∈ m.batchInputs glob directory start, m.Holds i ∧
      inputKindAt? glob i.place = some i.kind :=
    fun _ hi => (h.batchInputs_spec hl hi).2
  have hglob : (MonadExcept.ofExcept (patternOf pattern) : Run (StateM Machine) _).run.run m =
      (.ok glob, m) := by
    rw [hp]
    rfl
  have hwalk : (walk (Shell.inMemory now) directory).run.run m =
      (.ok (⟨directory, .directory⟩ ::
        (m.placesBelow start).map (m.entryBelow directory start)), m) := by
    have hw : ((Shell.inMemory now).walk directory).run m = (.ok _, m) :=
      congrArg (·, m) (h.walk_eq hl hd)
    rw [walk, run_bind_liftM hw]
    rfl
  rw [runBatch, run_bind_ok hglob, run_bind_ok hwalk, h.select_walk]
  cases hi : m.batchInputs glob directory start
  case nil => rfl
  case cons i inputs =>
    rw [hi] at hspec
    exact runFiles_run now g t (fun i hi => (hspec i hi).1)
      fun i hi => Option.isSome_iff_exists.mpr ⟨i.kind, (hspec i hi).2⟩

-- A text that is no pattern stops the command before it looks at any file.
theorem runBatch_refused (now : Int) (g : Generator) (directory : String) (t : Target) (m : Machine)
    {complaint : Complaint} (hp : patternOf pattern = .error complaint) :
    (runBatch (Shell.inMemory now) g directory pattern t).run.run m = (.error complaint, m) := by
  rw [runBatch, hp]
  rfl

-- Every file below the directory that holds an input is answered once, at the endpoint of its kind,
-- whatever becomes of others.
theorem runBatch_eq (now : Int) (g : Generator) (t : Target) (h : m.IsTree)
    (hl : m.locate directory = .ok start) (hd : m.isDirectory start)
    (hp : patternOf pattern = .ok glob) :
    ∃ inputs, m.AreInputs glob start inputs ∧
      (∀ i ∈ inputs, ∀ stamp, (i.call t stamp).endpoint.kind = i.kind ∧
        (i.call t stamp).request.kind = i.kind) ∧
      (runBatch (Shell.inMemory now) g directory pattern t).run.run m =
        runInputs now g t directory inputs m :=
  ⟨m.batchInputs glob directory start, h.areInputs hl, fun i _ stamp => i.call_kind t stamp,
    runBatch_batchInputs now g t h hl hd hp⟩

-- Two files fail, and the two after them are stored. A directory, a link, and a name that does not
-- match are passed over.
theorem runBatch_eq_nested :
    let m : Machine := {
      files := [(["in", "B.SQL"], .plain []), (["in", "a.csv"], .plain []),
        (["in", "k.sql"], .plain []), (["in", "notes.txt"], .plain []),
        (["in", "old.sql", "c.ddl"], .ofText "CREATE TABLE c (y INT)"),
        (["in", "p.csv"], .ofText "x\n1")]
      links := [["in", "z.sql"]] }
    let g : Generator := { settings := { outputDirectory := "in" }, settings_ok := by decide }
    let t : Target := ⟨"go", "sqlite"⟩
    let glob : Glob := [.noneOf [⟨'k', 'k'⟩], .anyText]
    let run := (runBatch (Shell.inMemory 0) g "in" (some "[!k]*") t).run.run m
    m.IsTree ∧ m.locate "in" = .ok ["in"] ∧ m.isDirectory ["in"] ∧
      patternOf (some "[!k]*") = .ok (some glob) ∧
      (∃ inputs, m.AreInputs (some glob) ["in"] inputs ∧
        (∀ i ∈ inputs, ∀ stamp, (i.call t stamp).endpoint.kind = i.kind ∧
          (i.call t stamp).request.kind = i.kind) ∧
        run = runInputs 0 g t "in" inputs m) ∧
      run.1 = .ok false ∧
      run.2.reported = ["in/B.SQL", "in/a.csv", "in/old.sql/c.ddl", "in/p.csv"] ∧
      run.2.printed.length = 4 ∧ run.2.files.length = 8 ∧
      run.2.printed.getLast? =
        some (Response.stored .csv "codegen-19700101-000000-0000000003/p.go").body := by
  intro m g t glob run
  have h : m.IsTree := ⟨by decide +kernel, by decide +kernel⟩
  have hl : m.locate "in" = .ok ["in"] := by decide +kernel
  have hd : m.isDirectory ["in"] := by decide +kernel
  have hp : patternOf (some "[!k]*") = .ok (some glob) := by decide +kernel
  refine ⟨h, hl, hd, hp, runBatch_eq 0 g t h hl hd hp, ?_⟩
  -- The places stand in order already.
  have hs : m.placesBelow ["in"] = [["in", "B.SQL"], ["in", "a.csv"], ["in", "k.sql"],
      ["in", "notes.txt"], ["in", "old.sql"], ["in", "old.sql", "c.ddl"], ["in", "p.csv"],
      ["in", "z.sql"]] :=
    List.mergeSort_of_pairwise (by decide +kernel)
  have hrun : run = runInputs 0 g t "in" (m.batchInputs (some glob) "in" ["in"]) m :=
    runBatch_batchInputs 0 g t h hl hd hp
  rw [hrun, Machine.batchInputs, hs]
  decide +kernel

end Batches

end TypedRows
