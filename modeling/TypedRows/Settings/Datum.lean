namespace TypedRows

-- How a table came to be, which decides what may be added to it.
inductive TableOrigin
  -- On the way to another table.
  | implied
  | header
  | dottedKey
  -- Written in one place.
  | closed
  deriving DecidableEq, Repr

inductive Datum
  | text (s : String)
  -- A text without quotes. What it means is up to its reader.
  | bare (s : String)
  | integer (n : Int)
  | boolean (b : Bool)
  -- A value that no setting has.
  | other
  -- A closed list holds no more items than its reader takes.
  | list (isClosed : Bool) (items : List Datum)
  -- Tables under a header that is repeated, the latest first.
  | tables (items : List Datum)
  | table (origin : TableOrigin) (entries : List (String × Datum))

namespace Datum

def emptyTable (origin : TableOrigin) : Datum :=
  table origin []

-- Changes the entry of a key, which may be missing.
def setEntry (key : String) (change : Option Datum → Option Datum) :
    List (String × Datum) → Option (List (String × Datum))
  | [] => (change none).map fun d => [(key, d)]
  | (k, d) :: entries =>
    if k = key then (change (some d)).map fun d => (k, d) :: entries
    else (setEntry key change entries).map ((k, d) :: ·)

end Datum
end TypedRows
