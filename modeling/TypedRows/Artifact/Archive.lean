import TypedRows.Calendar.Date
import TypedRows.Emission

namespace TypedRows

structure Archive where
  entries : List SourceUnit
  names_nodup : (entries.map SourceUnit.fileName).Nodup

namespace Archive

-- A regular file that everyone reads and its owner writes.
def entryMode : Nat := 0o100644

-- The number of the deflate method.
def entryMethod : Nat := 8

-- All entries bear the first day that an archive can write down.
def entryDate : Calendar.Date := ⟨1980, 1, 1⟩

def sharedName (name : String) : Failure :=
  .archive ("invalid Zip archive: Duplicate filename: " ++ name)

-- The first name that is not new.
def repeatedName? : List String → Option String
  | names => (Naming.conflict? id names).map (·.2)

def ofUnits (units : List SourceUnit) : Except Failure Archive :=
  if h : (units.map SourceUnit.fileName).Nodup then .ok ⟨units, h⟩
  else .error (sharedName ((repeatedName? (units.map SourceUnit.fileName)).getD ""))

end Archive
end TypedRows
