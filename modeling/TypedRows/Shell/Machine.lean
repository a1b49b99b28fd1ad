import TypedRows.Shell

namespace TypedRows

-- The parts of a path, seen from the working directory or from the root of the file system.
abbrev Place := List String

structure Machine where
  files : List (Place × FileContent) := []
  -- Links into directories that are not there.
  links : List Place := []
  printed : List String := []
  reported : List String := []
  -- How many stamps were taken.
  stamps : Nat := 0

namespace Machine

def root : String := "/"

def file? (m : Machine) (place : Place) : Option FileContent :=
  m.files.lookup place

def isFile (m : Machine) (place : Place) : Bool :=
  (m.file? place).isSome

def isProperPrefix (place other : Place) : Bool :=
  place.isPrefixOf other && place.length < other.length

-- Places that no file is needed for: the working directory, those around it, and the root.
def isAlwaysThere (place : Place) : Bool :=
  place.all (· = Path.parent) || place = [root]

-- Where files and links stand.
def taken (m : Machine) : List Place :=
  m.files.map (·.1) ++ m.links

-- A directory is there as long as something stands in it, and some always are.
def isDirectory (m : Machine) (place : Place) : Bool :=
  isAlwaysThere place || m.taken.any (isProperPrefix place)

-- One step from a directory.
def enter (place : Place) (part : String) : Place :=
  if part ≠ Path.parent then place ++ [part]
  else match place.getLast? with
    | none => [part]
    | some last =>
      if last = Path.parent then place ++ [part]
      else if last = root then place
      else place.dropLast

def startOf (path : String) : Place :=
  if Path.isAbsolute path then [root] else []

def endsInSlash (path : String) : Bool :=
  path.toList.getLast? = some '/'

-- Follows a path; everything before its last part has to be a directory.
def follow (m : Machine) (place : Place) : List String → Except FileFault Place
  | [] => .ok place
  | part :: parts =>
    if m.isFile place then .error .notDirectory
    else if !m.isDirectory place then .error .notFound
    else follow m (enter place part) parts

def locate (m : Machine) (path : String) : Except FileFault Place := do
  if path = "" then throw .notFound
  let place ← m.follow (startOf path) (Path.parts path)
  if endsInSlash path && m.isFile place then throw .notDirectory
  return place

def read (m : Machine) (path : String) : Except FileFault (List UInt8) := do
  let place ← m.locate path
  match m.file? place with
  | some content => return content.toBytes
  | none => throw (if m.isDirectory place then .isDirectory else .notFound)

def typeOf (m : Machine) (place : Place) : FileType :=
  if m.isFile place then .regular else if m.isDirectory place then .directory else .other

-- Whether names alone lead from a place to another.
def isBelow (place other : Place) : Bool :=
  isProperPrefix place other &&
    (other.drop place.length).all fun part => part ≠ Path.parent && part ≠ root

-- A place and the places around it.
def around (place : Place) : List Place :=
  (List.range (place.length + 1)).map place.take

-- What stands below a directory, by the parts of the paths, which is how a walk meets it.
def placesBelow (m : Machine) (place : Place) : List Place :=
  let places := (m.taken.flatMap around).filter (isBelow place)
  places.eraseDups.mergeSort fun a b => !List.lex b a

def pathBelow (path : String) (place below : Place) : String :=
  Path.join path ("/".intercalate (below.drop place.length))

def entryBelow (m : Machine) (path : String) (place below : Place) : WalkEntry :=
  { path := pathBelow path place below, type := m.typeOf below }

def walk (m : Machine) (path : String) : Except FileFault (List WalkEntry) := do
  let place ← m.locate path
  if m.isFile place then return [⟨path, .regular⟩]
  else if m.isDirectory place then
    return ⟨path, .directory⟩ :: (m.placesBelow place).map (m.entryBelow path place)
  else throw .notFound

def setFile (m : Machine) (place : Place) (content : FileContent) : Machine :=
  { m with files := m.files.filter (·.1 ≠ place) ++ [(place, content)] }

-- Why the directories before the last part of a place cannot all be made.
def blockedBy? (m : Machine) (place : Place) : Option FileFault :=
  if m.isFile place.dropLast || m.links.any (·.isPrefixOf place.dropLast) then some .alreadyThere
  else if (List.range place.length).any fun n => m.isFile (place.take n) then some .notDirectory
  else none

def write (m : Machine) (path : String) (content : FileContent) : Except FileFault Machine :=
  let place := (Path.parts path).foldl enter (startOf path)
  if path = "" then .error .notFound
  else match m.blockedBy? place with
    | some fault => .error fault
    | none =>
      if endsInSlash path || m.isDirectory place then .error .isDirectory
      else if m.links.contains place then .error .notFound
      else .ok (m.setFile place content)

-- Ten digits that tell how many stamps there were before.
def suffix (n : Nat) : String :=
  Text.padded 10 n

end Machine

-- The shell of a machine in memory, whose clock stands still.
def Shell.inMemory (seconds : Int) : Shell (StateM Machine) where
  isThere path := do
    let m ← get
    return match m.locate path with
      | .ok place => m.isFile place || m.isDirectory place
      | .error _ => false
  read path := return (← get).read path
  walk path := return (← get).walk path
  write path content := do
    match (← get).write path content with
    | .ok m => set m; return .ok ()
    | .error fault => return .error fault
  printLine line := modify fun m => { m with printed := m.printed ++ [line] }
  reportLine line := modify fun m => { m with reported := m.reported ++ [line] }
  stamp := do
    let n := (← get).stamps
    modify fun m => { m with stamps := n + 1 }
    return ⟨seconds, Machine.suffix n⟩

end TypedRows
