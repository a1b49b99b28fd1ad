import TypedRows.Csv.Reader
import TypedRows.Ddl.Reader
import TypedRows.Naming.Identifier
import TypedRows.Sql.Statement

namespace TypedRows

open Text

inductive InputKind
  | ddl
  | csv
  deriving DecidableEq, Repr

namespace InputKind

def id : InputKind → String
  | ddl => "ddl"
  | csv => "csv"

def ofText (text : String) : Except Failure InputKind :=
  match lower (trim text) with
  | "ddl" | "sql" => .ok ddl
  | "csv" => .ok csv
  | _ => .error (.parse ("Unknown input kind: " ++ text))

-- The kind of a file with such an extension.
def ofExtension (extension : String) : Option InputKind :=
  match lower extension with
  | "sql" | "ddl" => some ddl
  | "csv" => some csv
  | _ => none

end InputKind

namespace Schema

-- Tables that were read without errors, and every problem in the order of the input. How statements
-- are parsed is up to the caller.
def ofBytesWith (parse : Ddl.StatementParser) (kind : InputKind) (d : Dialect) (o : Csv.Options)
    (source : String) (bytes : List UInt8) : Schema × Diagnostics :=
  match kind with
  | .ddl => Ddl.readBytes parse d bytes
  | .csv => Csv.read o source bytes

def ofBytes (kind : InputKind) (d : Dialect) (o : Csv.Options) (source : String)
    (bytes : List UInt8) : Schema × Diagnostics :=
  ofBytesWith (Sql.Statement.ofChars d) kind d o source bytes

-- The tables, if nothing is wrong with any of them.
def ofBytesStrict (kind : InputKind) (d : Dialect) (o : Csv.Options) (source : String)
    (bytes : List UInt8) : Except Diagnostics Schema :=
  match ofBytes kind d o source bytes with
  | (s, ds) => if ds.hasErrors then .error ds.errors else .ok s

end Schema
end TypedRows
