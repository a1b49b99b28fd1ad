import TypedRows.Artifact
import TypedRows.Files.Fault
import TypedRows.Files.Path
import TypedRows.Store

namespace TypedRows

inductive FileType
  | regular
  | directory
  -- Links, which a walk does not follow, devices and the like.
  | other
  deriving DecidableEq, Repr

-- What a walk meets.
structure WalkEntry where
  path : String
  type : FileType
  deriving DecidableEq, Repr

structure Shell (m : Type → Type) where
  isThere : (path : String) → m Bool
  read : (path : String) → m (Except FileFault (List UInt8))
  -- All that stands at or below a path, directory by directory, entries by their names.
  walk : (path : String) → m (Except FileFault (List WalkEntry))
  -- Writes a file, and makes the directories that it stands in.
  write : (path : String) → FileContent → m (Except FileFault Unit)
  printLine : String → m Unit
  -- Tells the user something that is no result.
  reportLine : String → m Unit
  -- A stamp that differs from all earlier ones.
  stamp : m Stamp

-- Keeps artifacts as files below a directory.
def Store.inDirectory {m : Type → Type} [Monad m] (shell : Shell m) (root archiveName : String) :
    Store m where
  put stamp a := do
    let path := a.relativePath archiveName stamp
    match ← shell.write (Path.join root path) a.content with
    | .ok () => return .ok path
    | .error fault => return .error fault

end TypedRows
