import TypedRows.Artifact.Encoding
import TypedRows.Naming.Identifier

namespace TypedRows

-- What keeps apart names that are given at different times, or at the same time.
structure Stamp where
  -- Seconds since 1970.
  seconds : Int
  suffix : String
  deriving DecidableEq, Repr

namespace Stamp

-- `models-20240131-235959-k3v9x0a7qp`, with a name that a file can have.
def stem (s : Stamp) (name : String) : String :=
  Identifier.fileName name ++ "-" ++ Calendar.stampText s.seconds ++ "-" ++ s.suffix

end Stamp

inductive FileContent
  | plain (bytes : List UInt8)
  | packed (archive : Archive)

namespace FileContent

def ofText (text : String) : FileContent :=
  plain text.toUTF8.toList

def toBytes : FileContent → List UInt8
  | plain bytes => bytes
  | packed archive => archive.toBytes

end FileContent

inductive Artifact
  | file (unit : SourceUnit)
  | archive (fileName : String) (archive : Archive)

namespace Artifact

def fileName : Artifact → String
  | file u => u.fileName
  | archive name _ => name

-- The units in the order in which they were packed.
def units : Artifact → List SourceUnit
  | file u => [u]
  | archive _ a => a.entries

def content : Artifact → FileContent
  | file u => .ofText u.content
  | archive _ a => .packed a

def ofUnits (archiveName : String) (s : Stamp) (units : List SourceUnit) :
    Except Failure Artifact :=
  match units with
  | [] => .error (.emissionInvariant "No source units to package")
  | [u] => .ok (file u)
  | units => (Archive.ofUnits units).map (archive (s.stem archiveName ++ ".zip"))

end Artifact
end TypedRows
