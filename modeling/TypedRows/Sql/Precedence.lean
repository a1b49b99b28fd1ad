import TypedRows.Sql.Parser

namespace TypedRows.Sql

open TypedRows.Sql.Parser

inductive Level
  | cast
  | atTimeZone
  | product
  | sum
  | xor
  | ampersand
  | caret
  | pipe
  | between
  | comparison
  | like
  | is
  | custom
  | not
  | and
  | or
  deriving DecidableEq, Repr

namespace Level

def usual : Level → Nat
  | cast => 50
  | atTimeZone => 41
  | product => 40
  | sum => 30
  | xor => 24
  | ampersand => 23
  | caret => 22
  | pipe => 21
  | between => 20
  | comparison => 20
  | like => 19
  | is => 17
  | custom => 16
  | not => 15
  | and => 10
  | or => 5

def postgresql : Level → Nat
  | cast => 140
  | atTimeZone => 110
  | caret => 100
  | product => 90
  | sum => 80
  | xor => 75
  | ampersand | pipe | custom => 70
  | between | like => 60
  | comparison => 50
  | is => 40
  | not => 30
  | and => 20
  | or => 10

def strength (d : Dialect) (l : Level) : Nat :=
  if d = .postgresql then l.postgresql else l.usual

-- Words that may follow `NOT` inside an expression.
def afterNot : String → Option Level
  | "IN" | "BETWEEN" => some between
  | "LIKE" | "ILIKE" | "RLIKE" | "REGEXP" | "SIMILAR" => some like
  | _ => none

def ofSymbol (s : String) : Option Level :=
  if ["=", "<", "<=", "<>", ">", ">=", "==", "~", "~*", "!~", "!~*", "~~", "~~*", "!~~", "!~~*",
      "<=>"].contains s then some comparison
  else if ["+", "-"].contains s then some sum
  else if ["*", "/", "%", "||"].contains s then some product
  else if ["->", "->>", "#>", "#>>", "@>", "<@", "#-", "@?", "@@", "?", "?&", "?|"].contains s then
    some custom
  else if ["::", "!", "[", "&&", "^@"].contains s then some cast
  else if ["^", "#", ">>", "<<"].contains s then some caret
  else if s = "|" then some pipe
  else if s = "&" then some ampersand
  else none

-- Operators that PostgreSQL does not tell from the ones of its users.
def isOwnOfPostgresql (s : String) : Bool :=
  ["!", "&&", "^@", "||", "#", ">>", "<<"].contains s

def ofWord (key second third : String) : Option Level :=
  match key with
  | "OR" => some or
  | "AND" => some and
  | "XOR" => some xor
  | "AT" => if second = "TIME" && third = "ZONE" then some atTimeZone else none
  | "NOT" => afterNot second
  | "IS" => some is
  | "OPERATOR" => some between
  | "DIV" => some product
  | key => afterNot key

end Level

-- How tightly the next token binds as an infix operator; 0 if it is none.
def infixStrength (d : Dialect) : Parser Nat := do
  let strength (l : Option Level) : Nat := (l.map (·.strength d)).getD 0
  match ← peek? with
  | some (.word _ key) =>
    if key = "COLLATE" && d = .postgresql then return 120
    else return strength (Level.ofWord key (← peekKeyAfter 1) (← peekKeyAfter 2))
  | some (.symbol s) =>
    if d = .postgresql && s = "[" then return 130
    else if d = .postgresql && Level.isOwnOfPostgresql s then return Level.custom.strength d
    else return strength (Level.ofSymbol s)
  | some (.customOperator _) => return Level.custom.strength d
  | _ => return 0

-- Operators between two operands, as they are written; some exist only in PostgreSQL.
def binaryOperator? (d : Dialect) (s : String) : Option String :=
  if s = "==" then some "="
  else if ["<=>", "=", "<>", ">", ">=", "<", "<=", "+", "-", "*", "%", "||", "|", "&", "/", "^",
      "~", "~*", "!~", "!~*", "~~", "~~*", "!~~", "!~~*", "->", "->>", "#>", "#>>", "@>", "<@",
      "#-", "@?", "@@", "?", "?&", "?|"].contains s then some s
  else if d = .postgresql && ["<<", ">>", "#", "&&", "^@"].contains s then some s
  else none

end TypedRows.Sql
