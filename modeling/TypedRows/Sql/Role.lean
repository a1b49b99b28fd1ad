import TypedRows.Sql.Query

namespace TypedRows.Sql

namespace Role

open TypedRows.Sql.Parser

variable (d : Dialect) (g : Grammar)

-- What an option of a role is about; a new role is told each of them once.
inductive Subject
  | superuser
  | databases
  | roles
  | inheritance
  | login
  | replication
  | rowSecurity
  | connections
  | password
  | validity
  | inRole
  | inGroup
  | members
  | users
  | admins
  deriving DecidableEq, Repr

namespace Subject

-- Options that are a word, with or without `NO` before it.
def ofFlag? (key : String) : Option Subject :=
  [("SUPERUSER", superuser), ("NOSUPERUSER", superuser), ("CREATEDB", databases),
    ("NOCREATEDB", databases), ("CREATEROLE", roles), ("NOCREATEROLE", roles),
    ("INHERIT", inheritance), ("NOINHERIT", inheritance), ("LOGIN", login), ("NOLOGIN", login),
    ("REPLICATION", replication), ("NOREPLICATION", replication), ("BYPASSRLS", rowSecurity),
    ("NOBYPASSRLS", rowSecurity)].lookup key

end Subject

def names : Parser Unit :=
  discard (commaSeparated ident)

-- An option that a new role and one that is altered may both have.
def option? : Parser (Option Subject) := do
  let key ← peekKey
  match Subject.ofFlag? key, key with
  | some s, _ => skip; return some s
  | none, "CONNECTION" =>
    keywords ["CONNECTION", "LIMIT"]
    Operand.numeric d
    return some .connections
  | none, "PASSWORD" =>
    skip
    if !(← keyword? "NULL") then Operand.constant d
    return some .password
  | none, "VALID" =>
    keywords ["VALID", "UNTIL"]
    Operand.constant d
    return some .validity
  | none, _ => return none

def membership? : Parser (Option Subject) := do
  match ← oneOf? ["IN", "ROLE", "ADMIN", "USER"] with
  | some "IN" =>
    let kind ← oneOf ["ROLE", "GROUP"]
    names
    return some (if kind = "ROLE" then .inRole else .inGroup)
  | some "ROLE" => names; return some .members
  | some "ADMIN" => names; return some .admins
  | some _ => names; return some .users
  | none => return none

def newOption? : Parser (Option Subject) := do
  match ← option? d with
  | some s => return some s
  | none => membership?

-- What follows `CREATE ROLE`. Only PostgreSQL says more than the names of the roles.
def create : Parser Unit := do
  discard (keywords? ["IF", "NOT", "EXISTS"])
  discard (commaSeparated objectName)
  discard (keyword? "WITH")
  if d = .postgresql then
    let subjects ← many (newOption? d)
    require (decide subjects.Nodup)

-- A value for a setting of a role.
def setting : Parser Unit := do
  discard objectName
  if !(← keywords? ["FROM", "CURRENT"]) then
    if !(← symbol? "=") then keyword "TO"
    if !(← keyword? "DEFAULT") then discard g.expr

-- What follows `ALTER ROLE`.
def alter : Parser Unit := do
  require (d = .postgresql)
  discard ident
  if ← keywords? ["IN", "DATABASE"] then discard objectName
  match ← oneOf? ["RENAME", "SET", "RESET"] with
  | some "RENAME" =>
    keyword "TO"
    discard ident
  | some "SET" => setting g
  | some _ => if !(← keyword? "ALL") then discard objectName
  | none =>
    discard (keyword? "WITH")
    let subjects ← many do
      match ← attempt? (option? d) with
      | some s => return s
      | none => return none
    require !subjects.isEmpty

end Role

namespace Policy

open TypedRows.Sql.Parser

variable (g : Grammar)

def named : Parser Unit := do
  discard ident
  keyword "ON"
  discard objectName

-- Who is meant, which rows are seen, and which may be written.
def scope : Parser Unit := do
  if ← keyword? "TO" then Role.names
  if ← keyword? "USING" then discard (parenthesized g.expr)
  if ← keywords? ["WITH", "CHECK"] then discard (parenthesized g.expr)

-- What follows `CREATE POLICY`.
def create : Parser Unit := do
  named
  if ← keyword? "AS" then discard (oneOf ["PERMISSIVE", "RESTRICTIVE"])
  if ← keyword? "FOR" then discard (oneOf ["ALL", "SELECT", "INSERT", "UPDATE", "DELETE"])
  scope g

-- What follows `ALTER POLICY`.
def alter : Parser Unit := do
  named
  if ← keyword? "RENAME" then
    keyword "TO"
    discard ident
  else scope g

-- What follows `DROP POLICY`.
def drop : Parser Unit := do
  discard (keywords? ["IF", "EXISTS"])
  named
  discard (oneOf? ["CASCADE", "RESTRICT"])

end Policy

namespace Privilege

open TypedRows.Sql.Parser

-- Some privileges can be limited to columns.
def parse : Parser Unit := do
  let onTables := ["CREATE", "DELETE", "TRIGGER", "TRUNCATE"]
  let onOthers := ["CONNECT", "EXECUTE", "TEMPORARY", "USAGE"]
  let onColumns := ["INSERT", "REFERENCES", "SELECT", "UPDATE"]
  if onColumns.contains (← oneOf (onTables ++ onOthers ++ onColumns)) then
    discard optionalColumnList

def list : Parser Unit := do
  if ← keyword? "ALL" then discard (keyword? "PRIVILEGES")
  else
    parse
    discard <| many do
      if (← symbol? ",") && (← peekKey) ≠ "ON" then
        parse
        return some ()
      else return none

def objects : Parser Unit := do
  keyword "ON"
  let wholeSchemas ←
    keywords? ["ALL", "TABLES", "IN", "SCHEMA"] <||> keywords? ["ALL", "SEQUENCES", "IN", "SCHEMA"]
  if !wholeSchemas then discard (oneOf? ["SEQUENCE", "SCHEMA", "TABLE"])
  discard (commaSeparated objectName)

def grantor : Parser Unit := do
  if ← keywords? ["GRANTED", "BY"] then discard ident

-- What follows `GRANT`.
def grant : Parser Unit := do
  list
  objects
  keyword "TO"
  Role.names
  discard (keywords? ["WITH", "GRANT", "OPTION"])
  grantor

-- What follows `REVOKE`.
def revoke : Parser Unit := do
  list
  objects
  keyword "FROM"
  Role.names
  grantor
  discard (oneOf? ["CASCADE", "RESTRICT"])

end Privilege

end TypedRows.Sql
