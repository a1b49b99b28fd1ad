import TypedRows.Model.TableModel

namespace TypedRows.Layout

open Text

abbrev Lines := List String

def Lines.text (lines : Lines) : String :=
  String.join (lines.map (· ++ "\n"))

-- A generated unit as an index file mentions it.
structure Entry where
  typeName : String
  stem : String
  fileName : String
  deriving DecidableEq, Repr

def Entry.ofTable (l : Language) (t : Table) : Entry :=
  ⟨l.typeName t, l.fileStem t, l.fileName t⟩

def commentName (m : TableModel) : String :=
  Escape.comment m.table

def keyLiterals (l : Language) (m : TableModel) : List String :=
  m.primaryKey.map l.stringLiteral

def commaSeparated (items : List String) : String :=
  ", ".intercalate items

-- Fills up with blanks to `width` characters.
def padRight (width : Nat) (s : String) : String :=
  s ++ String.ofList (List.replicate (width - s.length) ' ')

-- The size in bytes of the longest text.
def widest (items : List String) : Nat :=
  (items.map String.utf8ByteSize).foldl max 0

end TypedRows.Layout
