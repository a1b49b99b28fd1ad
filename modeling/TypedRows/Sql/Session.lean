import TypedRows.Sql.Query

namespace TypedRows.Sql.Session

open TypedRows.Sql.Parser

variable (d : Dialect) (g : Grammar)

def transactionMode? : Parser (Option Unit) := do
  if ← keywords? ["ISOLATION", "LEVEL"] then
    if !(← (keywords? ["READ", "UNCOMMITTED"] <||> keywords? ["READ", "COMMITTED"])) then
      if !(← keywords? ["REPEATABLE", "READ"]) then discard (oneOf ["SERIALIZABLE", "SNAPSHOT"])
    return some ()
  else if ← (keywords? ["READ", "ONLY"] <||> keywords? ["READ", "WRITE"]) then return some ()
  else return none

def transactionModes : Parser Unit := do
  match ← transactionMode? with
  | none => return ()
  | some () =>
    discard <| many do
      if ← symbol? "," then
        match ← transactionMode? with
        | some () => return some ()
        | none => refuse
      else transactionMode?

-- What follows `BEGIN`. Some databases say when the locks are taken.
def start : Parser Unit := do
  if d = .sqlite then discard (oneOf? ["DEFERRED", "IMMEDIATE", "EXCLUSIVE"])
  discard (oneOf? ["TRANSACTION", "WORK"])
  transactionModes

-- What follows the end of a transaction.
def chain : Parser Unit := do
  discard (oneOf? ["TRANSACTION", "WORK"])
  if ← keyword? "AND" then
    discard (keyword? "NO")
    keyword "CHAIN"

def rollback : Parser Unit := do
  chain
  if ← keyword? "TO" then
    discard (keyword? "SAVEPOINT")
    discard ident

def release : Parser Unit := do
  discard (keyword? "SAVEPOINT")
  discard ident

-- The character set of a connection, which MySQL alone sets by itself.
def characterSet : Parser Unit := do
  if !(← keyword? "DEFAULT") then
    discard (literalText d)
    if ← keyword? "COLLATE" then discard (literalText d)

def settingValue : Parser Unit := do
  if ← Grammar.startsQuery then discard g.query else discard g.expr

def settingValues : Parser Unit := do
  settingValue g
  discard <| many do
    if ← symbol? "," then
      settingValue g
      return some ()
    else return none

def isSpelled (name word : String) : Bool :=
  name.toList.map Char.toUpper = word.toList

-- A setting with its values. Two settings of transactions count only in capitals.
def assignment (isScoped : Bool) : Parser Unit := do
  let name ← if ← keywords? ["TIME", "ZONE"] then pure "TIMEZONE"
    else pure (ObjectName.render (← objectName))
  if d = .mysql && isSpelled name "NAMES" then characterSet d
  else if ← (symbol? "=" <||> keyword? "TO") then settingValues g
  else if isSpelled name "TIMEZONE" then discard g.expr
  else if name = "CHARACTERISTICS" then
    keywords ["AS", "TRANSACTION"]
    transactionModes
  else
    require (name = "TRANSACTION" && !isScoped)
    if ← keyword? "SNAPSHOT" then Operand.constant d else transactionModes

def role : Parser Unit := do
  keyword "ROLE"
  if !(← keyword? "NONE") then discard ident

-- What follows `SET`.
def set : Parser Unit := do
  match ← oneOf? ["SESSION", "LOCAL", "HIVEVAR"] with
  | some "HIVEVAR" =>
    symbol ":"
    assignment d g true
  | scope =>
    if (← attempt? role).isNone then assignment d g scope.isSome

def comment : Parser Unit := do
  discard (keywords? ["IF", "EXISTS"])
  keyword "ON"
  discard (oneOf ["COLUMN", "TABLE", "EXTENSION", "SCHEMA", "DATABASE", "USER", "ROLE"])
  discard objectName
  keyword "IS"
  if !(← keyword? "NULL") then discard (literalText d)

-- A number, a string or a placeholder.
def setting : Parser Unit := do
  match ← peek? with
  | some (.word i _) =>
    skip
    require (i.quote = some '\x22')
  | some (.string .single _) | some (.string .double _) => skip
  | _ => Operand.numeric d

-- What follows `PRAGMA`.
def pragma : Parser Unit := do
  discard objectName
  if ← symbol? "(" then
    setting d
    symbol ")"
  else if ← symbol? "=" then setting d

def lockedTable : Parser Unit := do
  discard ident
  discard (optionalAlias ["READ", "WRITE", "LOW_PRIORITY"])
  if ← keyword? "READ" then discard (keyword? "LOCAL")
  else
    discard (keyword? "LOW_PRIORITY")
    keyword "WRITE"

-- What follows `LOCK`.
def lock : Parser Unit := do
  require (d = .mysql)
  keyword "TABLES"
  discard (commaSeparated lockedTable)

def unlock : Parser Unit := do
  require (d = .mysql)
  keyword "TABLES"

-- What follows `KILL`.
def kill : Parser Unit := do
  discard (oneOf? ["CONNECTION", "QUERY"])
  discard wholeNumber

-- Tables to be flushed, with words that say how; other words count for nothing.
def flushedTables? : Parser (Option Unit) := do
  match ← peek? with
  | some (.word i key) =>
    if i.quote.isSome || !Keyword.all.contains key then discard (commaSeparated objectName)
    else
      skip
      if key = "WITH" then discard (keywords? ["READ", "LOCK"])
      else if key = "FOR" then discard (keyword? "EXPORT")
    return some ()
  | _ =>
    skip
    return none

-- What follows `FLUSH`, which only MySQL has.
def flush : Parser Unit := do
  require (d = .mysql)
  discard (oneOf? ["NO_WRITE_TO_BINLOG", "LOCAL"])
  let logs := ["BINARY", "ENGINE", "ERROR", "GENERAL", "RELAY", "SLOW"]
  let others := ["HOSTS", "PRIVILEGES", "OPTIMIZER_COSTS", "STATUS", "USER_RESOURCES", "LOGS"]
  match ← oneOf ("TABLES" :: logs ++ others) with
  | "TABLES" => discard (many flushedTables?)
  | key =>
    if logs.contains key then
      keyword "LOGS"
      if ← when? (key = "RELAY") (keywords? ["FOR", "CHANNEL"]) then discard objectName

-- What follows `ATTACH`.
def attach : Parser Unit := do
  discard (keyword? "DATABASE")
  discard g.expr
  keyword "AS"
  discard ident

-- What follows `ASSERT`.
def assert : Parser Unit := do
  discard g.expr
  discard (g.exprAfter "AS")

-- Waiting for what other sessions say, which PostgreSQL alone has.
def channel (key : String) : Parser Unit := do
  require (d = .postgresql)
  if !(← when? (key = "UNLISTEN") (symbol? "*")) then
    discard ident
    if ← when? (key = "NOTIFY") (symbol? ",") then discard (literalText d)

def call : Parser Unit := do
  let name := ObjectName.render (← objectName)
  if ← peekSymbol "(" then discard (Call.parse d g name)

-- Statements that are told by their first word.
def ofKey (key : String) : Parser Unit :=
  match key with
  | "BEGIN" => start d
  | "START" => do keyword "TRANSACTION"; transactionModes
  | "COMMIT" | "END" => chain
  | "ROLLBACK" => rollback
  | "SAVEPOINT" => discard ident
  | "RELEASE" => release
  | "SET" => set d g
  | "USE" => discard objectName
  | "COMMENT" => do require (d = .postgresql); comment d
  | "PRAGMA" => pragma d
  | "CALL" => call d g
  | "LOCK" => lock d
  | "UNLOCK" => unlock d
  | "KILL" => kill
  | "FLUSH" => flush d
  | "DISCARD" => discard (oneOf ["ALL", "PLANS", "SEQUENCES", "TEMP", "TEMPORARY"])
  | "ATTACH" => attach g
  | "ASSERT" => assert g
  | "LISTEN" | "UNLISTEN" | "NOTIFY" => channel d key
  | _ => refuse

end TypedRows.Sql.Session
