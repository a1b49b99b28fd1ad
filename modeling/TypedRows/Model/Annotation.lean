import TypedRows.Schema.Table
import TypedRows.Text.Escape

namespace TypedRows

open Text

structure ColumnAnnotation where
  column : String
  canonical : CanonicalType
  primaryKey : Bool
  notNull : Bool
  autoIncrement : Bool
  deriving DecidableEq, Repr

namespace ColumnAnnotation

def ofColumn (c : Column) (canonical : CanonicalType) : ColumnAnnotation where
  column := c.name
  canonical := canonical
  primaryKey := c.primaryKey
  notNull := !c.nullable
  autoIncrement := c.autoIncrement

def flags (a : ColumnAnnotation) : List String :=
  (if a.primaryKey then ["primary_key"] else []) ++ (if a.notNull then ["not_null"] else []) ++
    (if a.autoIncrement then ["auto_increment"] else [])

def opening : List Char :=
  "column \"".toList

-- As in `column "id" integer(32) primary_key not_null`.
def renderChars (a : ColumnAnnotation) : List Char :=
  opening ++ Escape.commentChars a.column.toList ++ '\x22' :: ' ' :: a.canonical.render.toList ++
    a.flags.flatMap fun f => ' ' :: f.toList

def render (a : ColumnAnnotation) : String :=
  String.ofList a.renderChars

-- The parts of an annotation as they stand in a line.
structure Spelling where
  column : List Char
  type : List Char
  flags : List (List Char)
  deriving DecidableEq, Repr

namespace Spelling

def isSmall (c : Char) : Bool :=
  'a' ≤ c && c ≤ 'z'

def isFlagChar (c : Char) : Bool :=
  isSmall c || c = '_'

def isArgumentChar (c : Char) : Bool :=
  c.isDigit || c = ','

-- What stands before the first quote that has no backslash; a backslash takes no line break.
def quotedName : List Char → Option (List Char × List Char)
  | [] => none
  | '\x22' :: rest => some ([], rest)
  | ['\\'] => none
  | '\\' :: c :: rest =>
    if c = '\n' then none
    else (quotedName rest).map fun (name, after) => ('\\' :: c :: name, after)
  | c :: rest => (quotedName rest).map fun (name, after) => (c :: name, after)

-- Arguments in parentheses, if `cs` starts with some.
def typeArguments (cs : List Char) : List Char × List Char :=
  match cs with
  | '(' :: inner =>
    match inner.takeWhile isArgumentChar, inner.dropWhile isArgumentChar with
    | a :: as, ')' :: rest => ('(' :: a :: as ++ [')'], rest)
    | _, _ => ([], cs)
  | _ => ([], cs)

-- `word` holds the flag under way, last character first, and is `none` before its first one.
def flagsFrom (word : Option (List Char)) : List Char → List (List Char)
  | [] => close word
  | c :: cs =>
    match word with
    | some w =>
      if isFlagChar c then flagsFrom (some (c :: w)) cs
      else if c = ' ' then close (some w) ++ flagsFrom none cs
      else close (some w)
    | none => if isFlagChar c then flagsFrom (some [c]) cs else []
where
  close : Option (List Char) → List (List Char)
    | some w => [w.reverse]
    | none => []

def leadingFlags : List Char → List (List Char)
  | ' ' :: cs => flagsFrom none cs
  | _ => []

def afterOpening? (cs : List Char) : Option (List Char) :=
  if opening.isPrefixOf cs then some (cs.drop opening.length) else none

-- The annotation that starts with the first character of `cs`.
def atStart? (cs : List Char) : Option Spelling := do
  let (name, rest) ← quotedName (← afterOpening? cs)
  match rest with
  | ' ' :: rest =>
    let letters := rest.takeWhile isSmall
    if letters.isEmpty then none
    else
      let (arguments, rest) := typeArguments (rest.dropWhile isSmall)
      some ⟨name, letters ++ arguments, leadingFlags rest⟩
  | _ => none

def first? : List Char → Option Spelling
  | [] => none
  | c :: cs => (atStart? (c :: cs)).or (first? cs)

def read? (s : Spelling) : Option ColumnAnnotation :=
  (CanonicalType.ofChars? s.type).map fun canonical =>
    { column := String.ofList (Escape.unescapeChars s.column)
      canonical := canonical
      primaryKey := s.flags.contains "primary_key".toList
      notNull := s.flags.contains "not_null".toList
      autoIncrement := s.flags.contains "auto_increment".toList }

end Spelling

-- The first annotation in a line. If its type does not exist, later ones are not looked at.
def find? (line : String) : Option ColumnAnnotation :=
  (Spelling.first? line.toList).bind (·.read?)

end ColumnAnnotation
end TypedRows
