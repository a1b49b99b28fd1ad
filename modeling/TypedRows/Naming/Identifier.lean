import TypedRows.Text.Blank

namespace TypedRows.Identifier

open Text

def isWordChar (c : Char) : Bool :=
  c.isAlphanum || c = '_'

def guardDigit : List Char → List Char
  | [] => []
  | c :: cs => if c.isDigit then '_' :: c :: cs else c :: cs

-- Only ASCII letters, digits and underscores stay as they are.
def sanitizeChars (cs : List Char) : List Char :=
  guardDigit ((trimChars cs).map fun c => if isWordChar c then c else '_')

def sanitize (name : String) : String :=
  String.ofList (sanitizeChars name.toList)

def isPathSeparator (c : Char) : Bool :=
  c = '/' || c = '\\'

-- What follows the last path separator.
def baseName (cs : List Char) : List Char :=
  (cs.reverse.takeWhile (!isPathSeparator ·)).reverse

-- Drops the last dot and what follows it, unless nothing precedes it.
def dropExtension (cs : List Char) : List Char :=
  match cs.reverse.dropWhile (· ≠ '.') with
  | _ :: c :: before => (c :: before).reverse
  | _ => cs

def tableNameChars (file : List Char) : List Char :=
  let name := sanitizeChars (dropExtension (baseName file))
  if name.all (· = '_') then "table".toList else name

-- The name of the table that a sample file describes.
def tableName (file : String) : String :=
  String.ofList (tableNameChars file.toList)

def isFileNameMark (c : Char) : Bool :=
  [' ', '/', '\\', ':', '*', '?', '\x22', '<', '>', '|'].contains c

-- Replaces what a file name cannot hold on every file system.
def fileName (name : String) : String :=
  String.ofList (name.toList.map fun c => if isFileNameMark c then '_' else c)

end TypedRows.Identifier
