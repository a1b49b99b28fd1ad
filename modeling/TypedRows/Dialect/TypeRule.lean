import TypedRows.Dialect
import TypedRows.Dialect.TypeToken
import TypedRows.Schema.CanonicalType

namespace TypedRows

inductive TypeRule
  | exactly (type : CanonicalType)
  -- Twice as wide when unsigned, up to 64 bits.
  | integer (width : UInt8)
  -- A boolean when its only digit is asked for and it has a sign.
  | tinyInteger
  -- One bit is a boolean, more are bytes.
  | bits
  -- 32 bits for up to 24 digits of precision, 64 above that.
  | float (unstated : UInt8)
  | decimal (precision scale : UInt16)
  | text (unstated : Option UInt64)
  | binary (unstated : Option UInt64)
  -- Has no type of its own and is kept as text.
  | asText (length : Option UInt64)
  deriving DecidableEq, Repr

namespace TypeRule

def narrow (n : Nat) : UInt16 :=
  if n < UInt16.size then n.toUInt16 else 65535

def length (t : TypeToken) (unstated : Option UInt64) : Option UInt64 :=
  ((t.number? 0).map Nat.toUInt64).or unstated

def widened (width : UInt8) (unsigned : Bool) : CanonicalType :=
  .integer (if unsigned && width < 64 then width * 2 else width)

-- A scale counts only beside a precision.
def decimalOf (t : TypeToken) (precision scale : UInt16) : CanonicalType :=
  match t.number? 0 with
  | none => .decimal precision scale
  | some p => .decimal (narrow p) (((t.number? 1).map narrow).getD 0)

def type (r : TypeRule) (t : TypeToken) : CanonicalType :=
  match r with
  | exactly c => c
  | integer w => widened w t.unsigned
  | tinyInteger => if t.number? 0 = some 1 && !t.unsigned then .boolean else widened 8 t.unsigned
  | bits =>
    match t.number? 0 with
    | none | some 1 => .boolean
    | some n => .binary (some ((n + 7) / 8).toUInt64)
  | float unstated =>
    match t.number? 0 with
    | none => .float unstated
    | some p => .float (if p ≤ 24 then 32 else 64)
  | decimal p s => decimalOf t p s
  | text unstated => .text (length t unstated)
  | binary unstated => .binary (length t unstated)
  | asText n => .text n

def isLossy : TypeRule → Bool
  | asText _ => true
  | _ => false

end TypeRule

namespace Dialect

open TypeRule

def mysqlRules : List (List String × TypeRule) := [
  (["BOOL", "BOOLEAN"], exactly .boolean),
  (["TINYINT"], tinyInteger),
  (["SMALLINT"], integer 16),
  (["MEDIUMINT"], exactly (.integer 32)),
  (["INT", "INTEGER"], integer 32),
  (["BIGINT"], exactly (.integer 64)),
  (["YEAR"], exactly (.integer 16)),
  (["BIT"], bits),
  (["DECIMAL", "NUMERIC", "DEC", "FIXED"], decimal 10 0),
  (["FLOAT"], float 32),
  (["DOUBLE", "DOUBLE PRECISION", "REAL"], exactly (.float 64)),
  (["CHAR", "CHARACTER", "NCHAR"], text (some 1)),
  (["VARCHAR", "CHARACTER VARYING", "NVARCHAR"], text (some 255)),
  (["TINYTEXT"], exactly (.text (some 255))),
  (["TEXT"], text (some 65535)),
  (["MEDIUMTEXT"], exactly (.text (some 16777215))),
  (["LONGTEXT"], exactly (.text (some 4294967295))),
  (["BINARY"], binary (some 1)),
  (["VARBINARY"], binary (some 255)),
  (["TINYBLOB"], exactly (.binary (some 255))),
  (["BLOB"], binary (some 65535)),
  (["MEDIUMBLOB"], exactly (.binary (some 16777215))),
  (["LONGBLOB"], exactly (.binary (some 4294967295))),
  (["DATE"], exactly .date),
  (["DATETIME", "TIMESTAMP"], exactly .datetime),
  (["TIME"], asText (some 16)),
  (["JSON"], asText none),
  (["ENUM", "SET"], asText none)]

def postgresqlRules : List (List String × TypeRule) := [
  (["SMALLINT", "INT2", "SMALLSERIAL", "SERIAL2"], exactly (.integer 16)),
  (["INTEGER", "INT", "INT4", "SERIAL", "SERIAL4"], exactly (.integer 32)),
  (["BIGINT", "INT8", "BIGSERIAL", "SERIAL8"], exactly (.integer 64)),
  (["REAL", "FLOAT4"], exactly (.float 32)),
  (["DOUBLE PRECISION", "FLOAT8", "DOUBLE"], exactly (.float 64)),
  (["FLOAT"], float 64),
  (["NUMERIC", "DECIMAL"], decimal 38 10),
  (["MONEY"], exactly (.decimal 19 2)),
  (["BOOLEAN", "BOOL"], exactly .boolean),
  (["CHAR", "CHARACTER", "BPCHAR"], text (some 1)),
  (["VARCHAR", "CHARACTER VARYING"], text none),
  (["TEXT", "CITEXT"], exactly (.text none)),
  (["BYTEA"], exactly (.binary none)),
  (["DATE"], exactly .date),
  (["TIMESTAMP", "TIMESTAMPTZ", "TIMESTAMP WITH TIME ZONE", "TIMESTAMP WITHOUT TIME ZONE"],
    exactly .datetime),
  (["TIME", "TIMETZ", "TIME WITH TIME ZONE", "TIME WITHOUT TIME ZONE"], asText (some 16)),
  (["UUID"], asText (some 36)),
  (["JSON", "JSONB", "XML", "INET", "CIDR", "MACADDR"], asText none)]

def sqliteRules : List (List String × TypeRule) := [
  (["INTEGER", "INT", "BIGINT", "INT8", "UNSIGNED BIG INT"], exactly (.integer 64)),
  (["TINYINT"], exactly (.integer 8)),
  (["SMALLINT", "INT2"], exactly (.integer 16)),
  (["MEDIUMINT"], exactly (.integer 32)),
  (["REAL", "DOUBLE", "DOUBLE PRECISION", "FLOAT"], exactly (.float 64)),
  (["NUMERIC", "DECIMAL"], decimal 18 6),
  (["BOOLEAN", "BOOL"], exactly .boolean),
  (["CHAR", "CHARACTER", "NCHAR", "NATIVE CHARACTER"], text (some 1)),
  (["VARCHAR", "VARYING CHARACTER", "NVARCHAR", "CHARACTER VARYING"], text none),
  (["TEXT", "CLOB"], exactly (.text none)),
  (["BLOB"], exactly (.binary none)),
  (["DATE"], exactly .date),
  (["DATETIME", "TIMESTAMP"], exactly .datetime),
  (["TIME"], asText (some 16)),
  (["JSON"], asText none)]

def typeRules : Dialect → List (List String × TypeRule)
  | mysql => mysqlRules
  | postgresql => postgresqlRules
  | sqlite => sqliteRules

def typeRule? (d : Dialect) (base : String) : Option TypeRule :=
  (d.typeRules.find? fun entry => entry.1.contains base).map (·.2)

end Dialect
end TypedRows
