import TypedRows.Sql.Definition
import TypedRows.Sql.Query

namespace TypedRows.Sql

open TypedRows.Sql.Parser

variable (d : Dialect) (g : Grammar)

namespace ColumnDefinition

-- Which characteristics of a constraint were given; each is given once.
structure Characteristics where
  deferrable : Bool := false
  initially : Bool := false
  enforced : Bool := false

def characteristicsAfter : (fuel : Nat) → Characteristics → Parser Unit
  | 0, _ => return ()
  | fuel + 1, c => do
    if ← when? (!c.deferrable) (keywords? ["NOT", "DEFERRABLE"] <||> keyword? "DEFERRABLE") then
      characteristicsAfter fuel { c with deferrable := true }
    else if ← when? (!c.initially) (keyword? "INITIALLY") then
      discard (oneOf ["DEFERRED", "IMMEDIATE"])
      characteristicsAfter fuel { c with initially := true }
    else if ← when? (!c.enforced) (keyword? "ENFORCED" <||> keywords? ["NOT", "ENFORCED"]) then
      characteristicsAfter fuel { c with enforced := true }
    else return ()

def characteristics : Parser Unit :=
  characteristicsAfter 3 {}

def referentialAction : Parser Unit := do
  if ← (keyword? "RESTRICT" <||> keyword? "CASCADE") then return ()
  else if ← (keywords? ["SET", "NULL"] <||> keywords? ["NO", "ACTION"]) then return ()
  else keywords ["SET", "DEFAULT"]

-- What happens to a row when the one it refers to is deleted or updated; each is said once.
def referentialActionsAfter : (fuel : Nat) → (delete update : Bool) → Parser Unit
  | 0, _, _ => return ()
  | fuel + 1, delete, update => do
    if ← when? (!delete) (keywords? ["ON", "DELETE"]) then
      referentialAction
      referentialActionsAfter fuel true update
    else if ← when? (!update) (keywords? ["ON", "UPDATE"]) then
      referentialAction
      referentialActionsAfter fuel delete true
    else return ()

def referentialActions : Parser Unit :=
  referentialActionsAfter 2 false false

def optionalNumber : Parser Unit :=
  discard TypeName.signedNumber

-- Options of the sequence behind an identity column, in their fixed order.
def sequenceOptions : Parser Unit := do
  if ← keyword? "INCREMENT" then
    discard (keyword? "BY")
    optionalNumber
  if ← keyword? "MINVALUE" then optionalNumber else discard (keywords? ["NO", "MINVALUE"])
  if ← keyword? "MAXVALUE" then optionalNumber else discard (keywords? ["NO", "MAXVALUE"])
  if ← keyword? "START" then
    discard (keyword? "WITH")
    optionalNumber
  if ← keyword? "CACHE" then optionalNumber
  if !(← keywords? ["NO", "CYCLE"]) then discard (keyword? "CYCLE")

def identity : Parser (Option ColumnOption) := do
  if ← peekSymbol "(" then parenthesized sequenceOptions
  return some (.generated none)

-- What follows `GENERATED`. PostgreSQL has stored columns only.
def generated : Parser (Option ColumnOption) := do
  if ← keywords? ["ALWAYS", "AS", "IDENTITY"] then identity
  else if ← keywords? ["BY", "DEFAULT", "AS", "IDENTITY"] then identity
  else if ← keywords? ["ALWAYS", "AS"] then
    if ← peekSymbol "(" then
      let e ← parenthesized g.expr
      if !(← keyword? "STORED") then
        require (d ≠ .postgresql)
        discard (keyword? "VIRTUAL")
      return some (.generated (some e))
    else return none
  else return none

def computed : Parser (Option ColumnOption) := do
  let e ← parenthesized g.expr
  if !(← keyword? "STORED") then discard (keyword? "VIRTUAL")
  return some (.generated (some e))

-- Options that not every dialect has.
-- Elsewhere they are taken all the same, without effect, and end the options of their column
-- unless one that fits comes next.
def ownOption? : Parser (Option ColumnOption) := do
  if ← keyword? "AUTO_INCREMENT" then
    if d = .mysql then return some (.ofDialect [bareWord "AUTO_INCREMENT"])
  if ← keyword? "AUTOINCREMENT" then
    if d = .sqlite then return some (.ofDialect [bareWord "AUTOINCREMENT"])
  if ← keyword? "ASC" then
    if d = .sqlite then return some (.ofDialect [bareWord "ASC"])
  if ← keyword? "DESC" then
    if d = .sqlite then return some (.ofDialect [bareWord "DESC"])
  if ← keywords? ["ON", "UPDATE"] then
    if d = .mysql then
      discard g.expr
      return some .other
  if ← keyword? "GENERATED" then generated d g
  else
    if ← keyword? "AS" then
      if d ≠ .postgresql then return ← computed g
    discard (keyword? "IDENTITY")
    if ← when? (d = .sqlite) (keywords? ["ON", "CONFLICT"]) then
      discard (oneOf ["ROLLBACK", "ABORT", "FAIL", "IGNORE", "REPLACE"])
      return some .other
    return none

def option? : Parser (Option ColumnOption) := do
  if ← keywords? ["CHARACTER", "SET"] then
    discard objectName
    return some .other
  else if ← keywords? ["NOT", "NULL"] then return some .notNull
  else if ← keyword? "COMMENT" then
    discard TypeName.setMember
    return some .other
  else if ← keyword? "NULL" then return some .null
  else if ← keyword? "DEFAULT" then return some (.default (← g.expr))
  else if ← keywords? ["PRIMARY", "KEY"] then
    characteristics
    return some .primaryKey
  else if ← keyword? "UNIQUE" then
    characteristics
    return some .other
  else if ← keyword? "REFERENCES" then
    discard objectName
    discard optionalColumnList
    referentialActions
    characteristics
    return some .other
  else if ← keyword? "CHECK" then
    discard (parenthesized g.expr)
    return some .other
  else ownOption? d g

-- An option that may have a name, or in MySQL a collation, which is none.
def nextOption? : Parser (Option ColumnOption) := do
  if ← keyword? "CONSTRAINT" then
    discard ident
    match ← option? d g with
    | some o => return some o
    | none => refuse
  else match ← option? d g with
    | some o => return some o
    | none =>
      if ← when? (d = .mysql) (keyword? "COLLATE") then
        discard objectName
        return some .other
      else return none

-- SQLite lets columns do without a type.
def hasNoType : Parser Bool := do
  if d ≠ .sqlite then return false
  else match ← peek? with
    | some (.word _ key) =>
      return ["CONSTRAINT", "PRIMARY", "NOT", "UNIQUE", "CHECK", "DEFAULT", "COLLATE", "REFERENCES",
        "GENERATED", "AS"].contains key
    | _ => return true

def parse : Parser ColumnDefinition := do
  let name ← ident
  let type ← if ← hasNoType d then pure "" else do pure (← TypeName.parse d).text
  if ← keyword? "COLLATE" then discard objectName
  return ⟨name, type, ← many (nextOption? d g)⟩

end ColumnDefinition
end TypedRows.Sql
