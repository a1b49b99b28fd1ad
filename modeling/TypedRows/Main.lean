import Std.Time.DateTime.Timestamp
import TypedRows.CommandLine

namespace TypedRows.Program

-- The number of an error of the system, and what the system says about it.
def codeAndText : IO.Error → UInt32 × String
  | .alreadyExists _ c t | .interrupted _ c t | .noFileOrDirectory _ c t | .invalidArgument _ c t
  | .permissionDenied _ c t | .resourceExhausted _ c t | .inappropriateType _ c t
  | .noSuchThing _ c t => (c, t)
  | .otherError c t | .resourceBusy c t | .resourceVanished c t | .unsupportedOperation c t
  | .hardwareFault c t | .unsatisfiedConstraints c t | .illegalOperation c t | .protocolError c t
  | .timeExpired c t => (c, t)
  | .unexpectedEof => (0, "unexpected end of file")
  | .userError t => (0, t)

-- Some numbers come negated.
def positive (code : UInt32) : Nat :=
  code.toInt32.toInt.natAbs

def faultOf (e : IO.Error) : FileFault :=
  let (code, text) := codeAndText e
  match positive code with
  | 2 => .notFound
  | 13 => .denied
  | 17 => .alreadyThere
  | 20 => .notDirectory
  | 21 => .isDirectory
  | code => .other code text

def attempt {α : Type} (action : IO α) : IO (Except FileFault α) := do
  match ← action.toBaseIO with
  | .ok a => return .ok a
  | .error e => return .error (faultOf e)

def isThere (path : String) : IO Bool := do
  match ← (IO.FS.realPath path).toBaseIO with
  | .ok _ => return true
  | .error _ => return false

def read (path : String) : IO (List UInt8) := do
  return (← IO.FS.readBinFile path).toList

def fileType : IO.FS.FileType → FileType
  | .file => .regular
  | .dir => .directory
  | _ => .other

-- All that stands at or below a path. Links on the way are not followed.
partial def walkFrom (path : String) (type : FileType) : IO (List WalkEntry) := do
  if type ≠ .directory then return [⟨path, type⟩]
  let entries ← (← IO.FS.realPath path).readDir
  let sorted := entries.toList.mergeSort fun a b => decide (a.fileName ≤ b.fileName)
  let below ← sorted.mapM fun entry => do
    walkFrom (Path.join path entry.fileName) (fileType (← entry.path.symlinkMetadata).type)
  return ⟨path, type⟩ :: below.flatten

def walk (path : String) : IO (List WalkEntry) := do
  walkFrom path (fileType (← (← IO.FS.realPath path).metadata).type)

-- What precedes the last slash.
def directoryOf (path : String) : String :=
  String.ofList ((path.toList.reverse.dropWhile (· ≠ '/')).drop 1).reverse

def write (path : String) (content : FileContent) : IO Unit := do
  if directoryOf path ≠ "" then IO.FS.createDirAll (directoryOf path)
  IO.FS.writeBinFile path ⟨content.toBytes.toArray⟩

def suffixChars : List Char :=
  "abcdefghijklmnopqrstuvwxyz0123456789".toList

def randomChar : IO Char := do
  return suffixChars.getD (← IO.rand 0 (suffixChars.length - 1)) 'a'

def stamp : IO Stamp := do
  let now ← Std.Time.Timestamp.now
  let suffix ← (List.range 10).mapM fun _ => randomChar
  return ⟨now.toSecondsSinceUnixEpoch.val, String.ofList suffix⟩

def shell : Shell IO where
  isThere := isThere
  read path := attempt (read path)
  walk path := attempt (walk path)
  write path content := attempt (write path content)
  printLine line := IO.println line
  reportLine line := IO.eprintln line
  stamp := stamp

end TypedRows.Program

def main (arguments : List String) : IO UInt32 := do
  return (← TypedRows.CommandLine.run TypedRows.Program.shell arguments).toUInt32
