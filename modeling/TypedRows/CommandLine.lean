import TypedRows.CommandLine.Invocation
import TypedRows.Files.Glob
import TypedRows.Response
import TypedRows.Settings.Reading
import TypedRows.Shell

namespace TypedRows

-- Why a command gave up.
structure Complaint where
  headline : String
  cause : Option String := none
  deriving DecidableEq, Repr

namespace Complaint

def ofFailure (f : Failure) : Complaint :=
  { headline := f.message }

def lines (c : Complaint) : List String :=
  ("Error: " ++ c.headline) ::
    match c.cause with
    | none => []
    | some cause => ["", "Caused by:", "    " ++ cause]

end Complaint

namespace CommandLine

def defaultConfig : String := "codegen.toml"

-- The exit code of arguments that spell no command.
def usageError : Nat := 2

section Selection

-- The kind of a file, if its name matches.
def kindOf? (pattern : Option Glob) (path : String) : Option InputKind :=
  let name := (Path.fileName? path).getD path
  if pattern.all (·.matchesName name) then (Path.extension? path).bind InputKind.ofExtension
  else none

-- The files that hold inputs, in the order of a walk.
def select (pattern : Option Glob) (entries : List WalkEntry) : List (String × InputKind) :=
  (entries.filter (·.type = .regular)).filterMap fun e => (kindOf? pattern e.path).map (e.path, ·)

end Selection

section Logs

-- What is logged unless the settings say otherwise.
def quiet : Logging :=
  { level := "warn" }

def withVerbosity (verbose : Bool) (s : Settings) : Settings :=
  if verbose then { s with logging := some { s.logging.getD {} with level := "debug" } }
  else { s with logging := some (s.logging.getD quiet) }

end Logs

variable {m : Type → Type} [Monad m] (shell : Shell m)

-- A run of a command, which may give up.
abbrev Run (m : Type → Type) := ExceptT Complaint m

def loadSettings (path : String) : m (Except Failure Settings) := do
  match ← shell.read path with
  | .error fault => return .error (Settings.unreadable fault.message)
  | .ok bytes => return Settings.ofBytes (Settings.Format.ofExtension (Path.extension? path)) bytes

-- The settings of a file that was asked for, else of the usual file, else the defaults.
def settings (config : Option String) : Run m Settings := do
  match config with
  | some path =>
    match ← ExceptT.lift (loadSettings shell path) with
    | .ok s => return s
    | .error f =>
      throw { headline := "Failed to load config from " ++ path, cause := some f.message }
  | none =>
    if ← shell.isThere defaultConfig then
      match ← ExceptT.lift (loadSettings shell defaultConfig) with
      | .ok s => return s
      | .error f => throw (.ofFailure f)
    else return {}

-- Begins the log file, if there is one.
def startLog (s : Settings) : Run m Unit := do
  match s.logging.bind (·.file) with
  | none => return ()
  | some path =>
    match ← shell.write path (.plain []) with
    | .ok () => return ()
    | .error fault =>
      throw { headline := (Failure.io fault.message).message, cause := some fault.message }

def requestOf (endpoint : Endpoint) (path : String) (t : Target) (input : List UInt8) :
    Request where
  input := input
  kind := endpoint.kind
  source := (Path.fileName? path).getD ""
  language := t.language
  dialect := t.dialect

variable (g : Generator)

def storeOf : Store m :=
  .inDirectory shell g.settings.outputDirectory g.settings.archiveName

-- Answers the request that a file makes, and says whether it succeeds.
def runFile (endpoint : Endpoint) (path : String) (t : Target) : Run m Bool := do
  match ← shell.read path with
  | .error fault => throw { headline := "Failed to read " ++ path, cause := some fault.message }
  | .ok input =>
    let stamp ← shell.stamp
    let request := requestOf endpoint path t input
    let response ← ExceptT.lift (g.respond (storeOf shell g) endpoint stamp request)
    shell.printLine response.body
    return response.isSuccess

-- Answers for every file, whatever became of earlier ones.
def runFiles (t : Target) : List (String × InputKind) → Run m Bool
  | [] => return true
  | (path, kind) :: files => do
    shell.reportLine path
    let first ← runFile shell g (.ofKind kind) path t
    let rest ← runFiles t files
    return first && rest

def patternOf (pattern : Option String) : Except Complaint (Option Glob) :=
  match pattern with
  | none => .ok none
  | some text =>
    match Glob.ofText text with
    | .ok glob => .ok (some glob)
    | .error fault => .error { headline := "Invalid --pattern", cause := some fault.message }

def walk (directory : String) : Run m (List WalkEntry) := do
  match ← shell.walk directory with
  | .ok entries => return entries
  | .error fault =>
    throw {
      headline := "IO error for operation on " ++ directory ++ ": " ++ fault.message
      cause := some fault.message }

def runBatch (directory : String) (pattern : Option String) (t : Target) : Run m Bool := do
  let glob ← MonadExcept.ofExcept (patternOf pattern)
  match select glob (← walk shell directory) with
  | [] =>
    shell.reportLine ("No .sql, .ddl or .csv files found in " ++ directory)
    return false
  | files => runFiles shell g t files

def aliasLine (name : String) (aliases : List String) : String :=
  "  " ++ Layout.padRight 12 name ++ " " ++ ", ".intercalate aliases

def targetLines : List String :=
  "Languages:" :: Language.all.map (fun l => aliasLine l.id l.aliases) ++
    "RDBMS:" :: Dialect.all.map (fun d => aliasLine d.id d.aliases)

def runCommand (command : Command) : Run m Bool := do
  match command with
  | .generate script t => runFile shell g .generate script t
  | .csv file t => runFile shell g .csv file t
  | .batch directory pattern t => runBatch shell g directory pattern t
  | .targets =>
    targetLines.forM (fun line => shell.printLine line)
    return true

def runInvocation (i : Invocation) : Run m Bool := do
  let s := withVerbosity i.verbose (← settings shell i.config)
  startLog shell s
  match Generator.ofSettings s with
  | .error f => throw (.ofFailure f)
  | .ok g => runCommand shell g i.command

-- Runs what the arguments ask for, and gives the exit code.
def run (arguments : List String) : m Nat := do
  match Invocation.ofArguments? arguments with
  | none =>
    shell.reportLine "error: no command; the commands are generate, csv, batch and targets"
    return usageError
  | some i =>
    match ← (runInvocation shell i).run with
    | .ok true => return 0
    | .ok false => return 1
    | .error complaint =>
      complaint.lines.forM shell.reportLine
      return 1

end CommandLine
end TypedRows
