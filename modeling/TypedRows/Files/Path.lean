import TypedRows.Text.Blank

namespace TypedRows.Path

open Text

def parent : String := ".."

-- The parts of a path that mean something, from left to right.
def partChars (path : List Char) : List (List Char) :=
  (splitAtChar '/' path).filter fun p => !p.isEmpty && p ≠ ['.']

def parts (path : String) : List String :=
  (partChars path.toList).map String.ofList

def isAbsolute (path : String) : Bool :=
  path.toList.head? = some '/'

-- A path that ends in its parent directory names no file.
def fileName? (path : String) : Option String :=
  (parts path).getLast?.filter (· ≠ parent)

-- What follows the last dot, unless nothing precedes that dot.
def extensionOfName? (name : List Char) : Option (List Char) :=
  match name.reverse.dropWhile (· ≠ '.') with
  | _ :: _ :: _ => some (name.reverse.takeWhile (· ≠ '.')).reverse
  | _ => none

def extension? (path : String) : Option String :=
  (fileName? path).bind fun name => (extensionOfName? name.toList).map String.ofList

-- The path of `name` seen from `directory`.
def join (directory name : String) : String :=
  if isAbsolute name || directory = "" then name
  else if directory.toList.getLast? = some '/' then directory ++ name
  else directory ++ "/" ++ name

end TypedRows.Path
