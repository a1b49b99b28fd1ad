import TypedRows.Sql.Parser

namespace TypedRows.Sql

open TypedRows.Sql.Parser

inductive TypeName.Kind
  | builtin
  | interval
  | custom
  deriving DecidableEq, Repr

-- The text has known words in capitals and the arguments after them.
structure TypeName where
  text : String
  kind : TypeName.Kind := .builtin
  deriving DecidableEq, Repr

namespace TypeName

-- Types without arguments.
def plain : List (String × String) := [
  ("BOOLEAN", "BOOLEAN"), ("BOOL", "BOOL"), ("REAL", "REAL"), ("FLOAT4", "FLOAT4"),
  ("FLOAT8", "FLOAT8"), ("FLOAT32", "Float32"), ("FLOAT64", "FLOAT64"), ("INT16", "Int16"),
  ("INT32", "Int32"), ("INT64", "INT64"), ("INT128", "Int128"), ("INT256", "Int256"),
  ("UINT8", "UInt8"), ("UINT16", "UInt16"), ("UINT32", "UInt32"), ("UINT64", "UInt64"),
  ("UINT128", "UInt128"), ("UINT256", "UInt256"), ("UUID", "UUID"), ("DATE", "DATE"),
  ("DATE32", "Date32"), ("JSON", "JSON"), ("JSONB", "JSONB"), ("REGCLASS", "REGCLASS"),
  ("TEXT", "TEXT"), ("TINYTEXT", "TINYTEXT"), ("MEDIUMTEXT", "MEDIUMTEXT"),
  ("LONGTEXT", "LONGTEXT"), ("TINYBLOB", "TINYBLOB"), ("MEDIUMBLOB", "MEDIUMBLOB"),
  ("LONGBLOB", "LONGBLOB"), ("BYTEA", "BYTEA"), ("TRIGGER", "TRIGGER")]

-- Types that may have one number.
def sized : List String :=
  ["FLOAT", "CLOB", "BINARY", "VARBINARY", "BLOB", "BYTES", "DATETIME", "STRING", "VARBIT"]

-- Types that may have one number and be unsigned.
def integers : List String :=
  ["TINYINT", "SMALLINT", "MEDIUMINT", "INT", "INTEGER", "BIGINT", "INT2", "INT4", "INT8"]

-- Types that may have a precision and a scale.
def exact : List String :=
  ["NUMERIC", "DECIMAL", "DEC", "BIGNUMERIC", "BIGDECIMAL"]

def enclosed (text : String) : String :=
  "(" ++ text ++ ")"

def size : Parser String := do
  if ← peekSymbol "(" then return enclosed (toString (← parenthesized wholeNumber))
  else return ""

def precisionAndScale : Parser String := do
  if ← symbol? "(" then
    let precision := toString (← wholeNumber)
    let scale ← if ← symbol? "," then pure ("," ++ toString (← wholeNumber)) else pure ""
    symbol ")"
    return enclosed (precision ++ scale)
  else return ""

def lengthUnit : Parser String := do
  match ← oneOf? ["CHARACTERS", "OCTETS"] with
  | some unit => return " " ++ unit
  | none => return ""

def characterLength : Parser String := do
  if ← symbol? "(" then
    let length ← if ← keyword? "MAX" then pure "MAX"
      else pure (toString (← wholeNumber) ++ (← lengthUnit))
    symbol ")"
    return enclosed length
  else return ""

def integer (name : String) : Parser String := do
  let size ← size
  if ← keyword? "UNSIGNED" then return name ++ size ++ " UNSIGNED"
  else return name ++ size

def character (name : String) : Parser String := do
  if ← keyword? "VARYING" then return name ++ " VARYING" ++ (← characterLength)
  else if ← keywords? ["LARGE", "OBJECT"] then return name ++ " LARGE OBJECT" ++ (← size)
  else return name ++ (← characterLength)

def bit : Parser String := do
  if ← keyword? "VARYING" then return "BIT VARYING" ++ (← size)
  else return "BIT" ++ (← size)

def zoned (name : String) : Parser String := do
  let size ← size
  match ← oneOf? ["WITH", "WITHOUT"] with
  | none => return name ++ size
  | some word =>
    keywords ["TIME", "ZONE"]
    return name ++ size ++ " " ++ word ++ " TIME ZONE"

def double : Parser String := do
  if ← keyword? "PRECISION" then return "DOUBLE PRECISION" else return "DOUBLE"

-- A number with an optional sign.
def signedNumber : Parser String := do
  let sign ← if ← symbol? "-" then pure "-" else if ← symbol? "+" then pure "+" else pure ""
  match ← next with
  | .number digits long => return sign ++ Token.renderNumber digits long
  | _ => refuse

def enumMember (d : Dialect) : Parser String := do
  let name := literal (← literalText d)
  if ← symbol? "=" then return name ++ " = " ++ (← signedNumber) else return name

def enumeration (d : Dialect) (name : String) : Parser String := do
  return name ++ enclosed (commaJoined (← parenthesized (commaSeparated (enumMember d))))

def setMember : Parser String := do
  match ← next with
  | .string .single s => return literal s
  | _ => refuse

def set : Parser String := do
  symbol "("
  let first ← setMember
  let rest ← many do if ← symbol? "," then return some (← setMember) else return none
  symbol ")"
  return "SET" ++ enclosed (commaJoined (first :: rest))

def fixedString : Parser String := do
  return "FixedString" ++ enclosed (toString (← parenthesized wholeNumber))

def preciseDateTime (d : Dialect) : Parser String := do
  symbol "("
  let precision := toString (← wholeNumber)
  let zone ← if ← symbol? "," then pure (", '" ++ (← literalText d) ++ "'") else pure ""
  symbol ")"
  return "DateTime64" ++ enclosed (precision ++ zone)

-- One argument of a type that is not known, or nothing for a comma.
def argument : Token → Parser (Option String)
  | .word i _ => return some i.render
  | .number digits _ => return some digits
  | .string .single s => return some s
  | .symbol "," => return none
  | _ => refuse

def arguments : Parser (List String) := do
  let items ← many do
    if ← peekSymbol ")" then return none else return some (← argument (← next))
  symbol ")"
  return items.filterMap id

def custom : Parser String := do
  let name := ObjectName.render (← objectName)
  if ← symbol? "(" then
    match ← arguments with
    | [] => return name
    | as => return name ++ enclosed (commaJoined as)
  else return name

-- Pairs of brackets after a type make arrays of it.
def dimensions (d : Dialect) : Parser String := do
  let each ← many do
    if !(← symbol? "[") then return none
    let length ← if d = .postgresql then attempt? wholeNumber else pure none
    symbol "]"
    return some ("[" ++ (length.map toString).getD "" ++ "]")
  return String.join each

-- Takes one of the angle brackets that close; says whether one more was taken with it.
def closeAngle (alreadyClosed : Bool) : Parser Bool := do
  if alreadyClosed then return false
  else if ← symbol? ">" then return false
  else do symbol ">>"; return true

-- What follows a known word that takes no inner type.
def ofKey? (d : Dialect) (key : String) : Option (Parser String) :=
  if let some text := plain.lookup key then some (pure text)
  else if sized.contains key then some (return key ++ (← size))
  else if integers.contains key then some (integer key)
  else if exact.contains key then some (return key ++ (← precisionAndScale))
  else match key with
    | "DOUBLE" => some double
    | "VARCHAR" | "NVARCHAR" => some (return key ++ (← characterLength))
    | "CHARACTER" | "CHAR" => some (character key)
    | "BIT" => some bit
    | "TIMESTAMP" | "TIME" => some (zoned key)
    | "TIMESTAMPTZ" | "TIMETZ" => some (return key ++ (← size))
    | "ENUM" | "ENUM8" | "ENUM16" => some (enumeration d key)
    | "SET" => some set
    | "FIXEDSTRING" => some fixedString
    | "DATETIME64" => some (preciseDateTime d)
    | _ => none

-- The flag says that an angle bracket too many was taken.
def parseWithin (d : Dialect) : (fuel : Nat) → Parser (TypeName × Bool)
  | 0 => refuse
  | fuel + 1 => do
    match ← peek? with
    | some (.word _ key) =>
      match ofKey? d key with
      | some body =>
        skip
        let text ← body
        return (⟨text ++ (← dimensions d), .builtin⟩, false)
      | none =>
        if key = "ARRAY" then
          skip
          symbol "<"
          let (inner, closed) ← parseWithin d fuel
          let closed ← closeAngle closed
          return (⟨"ARRAY<" ++ inner.text ++ ">" ++ (← dimensions d), .builtin⟩, closed)
        else if key = "INTERVAL" then
          skip
          let brackets ← dimensions d
          return (⟨"INTERVAL" ++ brackets, if brackets = "" then .interval else .builtin⟩, false)
        else
          let name ← custom
          let brackets ← dimensions d
          return (⟨name ++ brackets, if brackets = "" then .custom else .builtin⟩, false)
    | _ => refuse

def parse (d : Dialect) : Parser TypeName := do
  match ← parseWithin d (← get).length with
  | (t, false) => return t
  | (_, true) => refuse

end TypeName
end TypedRows.Sql
