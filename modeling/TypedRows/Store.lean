import TypedRows.Artifact
import TypedRows.Files.Fault

namespace TypedRows

-- Paths are seen from the store and have slashes between their parts.
structure Store (m : Type → Type) where
  put : Stamp → Artifact → m (Except FileFault String)

-- An artifact and the path under which it is kept.
structure StoredArtifact where
  path : String
  artifact : Artifact

namespace Store

-- Keeps artifacts in the order in which they come, under their own names.
def inMemory : Store (StateM (List StoredArtifact)) where
  put _ a := do
    modify (· ++ [⟨a.fileName, a⟩])
    return .ok a.fileName

-- A store that can keep nothing.
def broken {m : Type → Type} [Monad m] (fault : FileFault) : Store m where
  put _ _ := return .error fault

end Store

namespace Artifact

-- The path of an artifact in a directory. An archive has a name of its own; a single file keeps the
-- name of its unit, inside a directory that is named for the archives.
def relativePath (archiveName : String) (stamp : Stamp) (a : Artifact) : String :=
  let name := Identifier.fileName a.fileName
  match a with
  | archive _ _ => name
  | file _ => stamp.stem archiveName ++ "/" ++ name

end Artifact
end TypedRows
