-- The statements that change or remove what a database holds: ALTER, DROP and TRUNCATE.
import ColumnMask.Sql.Grammar.Objects

namespace ColumnMask.Sql

/-! ## Columns -/

/-- A change of a column. -/
def columnChange : Rule Part := do
  let _ ← keyword "COLUMN"
  let name ← identifier
  let change (p : Part) : Part := .node .phrase [.text "ALTER COLUMN", .ident name, p]
  match ← optionalChoice [["SET", "NOT", "NULL"], ["DROP", "NOT", "NULL"], ["DROP", "DEFAULT"]] with
  | .absent => pure ()
  | p => return change p
  if ← keywords ["SET", "DEFAULT"] then return change (led "SET DEFAULT" (← exprPart))
  if ← keywords ["SET", "DATA", "TYPE"] then return change (led "SET DATA TYPE" (← dataType))
  if ← keyword "TYPE" then return change (led "TYPE" (← dataType))
  if ← keywords ["ADD", "GENERATED"] then
    let kind ← optionalChoice [["ALWAYS"], ["BY", "DEFAULT"]]
    expectKeywords ["AS", "IDENTITY"]
    let settings ← if ← peekSymbol "(" then do
        pure (Part.node ⟨.array, [.word "(", .all "", .word " )"]⟩ (← parenthesized sequenceSettings))
      else pure .absent
    return change (.node .phrase [.text "ADD GENERATED", kind, .text "AS IDENTITY", settings])
  unexpected "SET/DROP NOT NULL, SET DEFAULT, or SET DATA TYPE after ALTER COLUMN" (← peek)

/-- Where a column goes among the others. -/
def columnPosition : Rule Part := do
  if ← keyword "FIRST" then return .text "FIRST" else clause ["AFTER"] identPart

/-- A type and options that a column is given, and its position. -/
def columnDetails : Rule (List Part) := do
  let type ← dataType
  let options ← many (inMode .columnDefinition columnOption)
  return type :: options ++ [← columnPosition]

/-! ## Tables -/

/-- Expressions in parentheses that say which partition is meant. -/
def partitionPart : Rule Part := return led "PARTITION" (← conditionsPart)

/-- One part of a table. -/
def partOrPartition : Rule Part := do
  let word ← expectOneOf ["PART", "PARTITION"]
  return led word (← exprPart)

/-- A copy of rows in another order that ADD gives to a table. -/
def projectionPart : Rule Part := do
  let missing ← ifNotExists
  let name ← identPart
  let _ ← expectSymbol "("
  let _ ← expectKeyword "SELECT"
  let items ← projection
  let groups ← clause ["GROUP", "BY"] do return withCommas ((← commaList expr).map .expr)
  let order ← orderBy
  let _ ← expectSymbol ")"
  let body := Part.node .phrase [.text "SELECT", withCommas (items.map .item), groups, order]
  return .node .phrase [.text "ADD PROJECTION", missing, name, inParens [body]]

/-- What ADD gives to a table. -/
def tableAddition : Rule Part := do
  if let some c ← tableConstraint then
    return .node .phrase [.text "ADD", c, ← optionalWords ["NOT", "VALID"]]
  if ← keyword "PROJECTION" then return ← projectionPart
  let early ← ifNotExists
  let partitions ← many do
    if ← keyword "PARTITION" then return some (← partitionPart) else return none
  if !partitions.isEmpty then return .node .phrase (.text "ADD" :: early :: partitions)
  let word ← optionalWords ["COLUMN"]
  let late ← ifNotExists
  let missing := if late.isAbsent then early else late
  let column ← columnDefinition
  return .node .phrase [.text "ADD", word, missing, column, ← columnPosition]

/-- What RENAME gives another name. -/
def tableRenaming : Rule Part := do
  if ← keyword "TO" then return led "RENAME TO" (← namePart)
  if ← keyword "AS" then return led "RENAME AS" (← namePart)
  let _ ← keyword "COLUMN"
  let old ← identPart
  let _ ← expectKeyword "TO"
  return .node .phrase [.text "RENAME COLUMN", old, .text "TO", ← identPart]

/-- What DROP takes from a table. -/
def tableRemoval : Rule Part := do
  if ← keywords ["IF", "EXISTS", "PARTITION"] then
    return .node .phrase [.text "DROP IF EXISTS", ← partitionPart]
  if ← keyword "PARTITION" then return led "DROP" (← partitionPart)
  if ← keyword "CONSTRAINT" then
    let found ← ifExists
    let name ← identPart
    return .node .phrase [.text "DROP CONSTRAINT", found, name, ← dropBehavior]
  if ← keywords ["PRIMARY", "KEY"] then
    return .node .phrase [.text "DROP PRIMARY KEY", ← dropBehavior]
  if ← keywords ["FOREIGN", "KEY"] then
    let name ← identPart
    return .node .phrase [.text "DROP FOREIGN KEY", name, ← dropBehavior]
  if ← keyword "INDEX" then return led "DROP INDEX" (← identPart)
  if ← keyword "PROJECTION" then
    let found ← ifExists
    return .node .phrase [.text "DROP PROJECTION", found, ← identPart]
  if ← keywords ["CLUSTERING", "KEY"] then return .text "DROP CLUSTERING KEY"
  let word ← optionalWords ["COLUMN"]
  let found ← ifExists
  let column ← identPart
  return .node .phrase [.text "DROP", word, found, column, ← dropBehavior]

/-- What is switched on or off for a table, given the words that may stand there. -/
def tableSwitch (word wanted : String) (modes : List (List String)) : Rule Part := do
  if ← keywords ["ROW", "LEVEL", "SECURITY"] then return .text (word ++ " ROW LEVEL SECURITY")
  match ← modes.findM? keywords with
  | some words => return led (" ".intercalate (word :: words)) (← identPart)
  | none => unexpected wanted (← peek)

/-- A projection that is computed or emptied. -/
def projectionChange (word : String) : Rule Part := do
  let found ← ifExists
  let name ← identPart
  return .node .phrase [.text (word ++ " PROJECTION"), found, name,
    ← clause ["IN", "PARTITION"] identPart]

/-- What identifies a row for a replica. -/
def replicaIdentity : Rule Part := do
  match ← optionalChoice [["NONE"], ["FULL"], ["DEFAULT"]] with
  | .absent =>
    if ← keywords ["USING", "INDEX"] then return led "USING INDEX" (← identPart)
    unexpected "NONE, FULL, DEFAULT, or USING INDEX index_name after REPLICA IDENTITY" (← peek)
  | p => return p

/-- Settings of a table, in parentheses. -/
def tableSetting : Rule Part := do
  if ← keywords ["SET", "TBLPROPERTIES"] then
    return led "SET TBLPROPERTIES" (inParens (← parenthesized (commaList sqlOption)))
  let options ← if ← keyword "SET" then sqlOptions else pure []
  if options.isEmpty then
    unexpected ("ADD, RENAME, PARTITION, SWAP, DROP, REPLICA IDENTITY, SET, or SET TBLPROPERTIES " ++
      "after ALTER TABLE") (← peek)
  return led "SET" (inParens options)

/-- One change of a table. -/
def tableChange : Rule Part := do
  if ← keyword "ADD" then return ← tableAddition
  if ← keyword "RENAME" then return ← tableRenaming
  if ← keyword "DISABLE" then
    return ← tableSwitch "DISABLE" "ROW LEVEL SECURITY, RULE, or TRIGGER after DISABLE"
      [["RULE"], ["TRIGGER"]]
  if ← keyword "ENABLE" then
    return ← tableSwitch "ENABLE"
      "ALWAYS, REPLICA, ROW LEVEL SECURITY, RULE, or TRIGGER after ENABLE"
      [["ALWAYS", "RULE"], ["ALWAYS", "TRIGGER"], ["REPLICA", "RULE"], ["REPLICA", "TRIGGER"],
        ["RULE"], ["TRIGGER"]]
  if ← keywords ["CLEAR", "PROJECTION"] then return ← projectionChange "CLEAR"
  if ← keywords ["MATERIALIZE", "PROJECTION"] then return ← projectionChange "MATERIALIZE"
  if ← keyword "DROP" then return ← tableRemoval
  if ← keyword "PARTITION" then
    let before ← partitionPart
    expectKeywords ["RENAME", "TO", "PARTITION"]
    return .node .phrase [before, .text "RENAME TO", ← partitionPart]
  if ← keyword "CHANGE" then
    let _ ← keyword "COLUMN"
    let old ← identPart
    let new ← identPart
    return .node .phrase ([.text "CHANGE COLUMN", old, new] ++ (← columnDetails))
  if ← keyword "MODIFY" then
    let _ ← keyword "COLUMN"
    let name ← identPart
    return .node .phrase ([.text "MODIFY COLUMN", name] ++ (← columnDetails))
  if ← keyword "ALTER" then return ← columnChange
  if ← keyword "SWAP" then
    let _ ← expectKeyword "WITH"
    return led "SWAP WITH" (← namePart)
  if ← keywords ["OWNER", "TO"] then return led "OWNER TO" (← owner)
  match ← oneOf ["ATTACH", "DETACH"] with
  | some word => return led word (← partOrPartition)
  | none => pure ()
  match ← oneOf ["FREEZE", "UNFREEZE"] with
  | some word =>
    let part ← partOrPartition
    return .node .phrase [.text word, part, ← clause ["WITH", "NAME"] identPart]
  | none => pure ()
  if ← keywords ["CLUSTER", "BY"] then return led "CLUSTER BY" (← conditionsPart)
  match ← optionalChoice [["SUSPEND", "RECLUSTER"], ["RESUME", "RECLUSTER"]] with
  | .absent => pure ()
  | p => return p
  if let some p ← buildOption then return p
  if ← keyword "AUTO_INCREMENT" then
    let equals ← symbol "="
    return led (if equals then "AUTO_INCREMENT =" else "AUTO_INCREMENT") (.value (← numberValue))
  if ← keywords ["REPLICA", "IDENTITY"] then return led "REPLICA IDENTITY" (← replicaIdentity)
  if ← keywords ["VALIDATE", "CONSTRAINT"] then return led "VALIDATE CONSTRAINT" (← identPart)
  tableSetting

def alterTable (word : String) : Rule Statement := do
  let found ← ifExists
  let only ← optionalWords ["ONLY"]
  let table ← relationPart
  let cluster ← onCluster
  let changes ← commaList tableChange
  let place ← if ← keyword "LOCATION" then do pure (led "LOCATION" (← identPart))
    else clause ["SET", "LOCATION"] identPart
  return phrase [.text word, found, only, table, cluster, withCommas changes, place]

/-! ## Other things -/

def alterView : Rule Statement := do
  let name ← relationPart
  let columns ← optionalIdentifierList
  let options ← optionsAfter "WITH"
  let _ ← expectKeyword "AS"
  let q ← query
  return reordered [0, 1, 4, 2, 3] [.text "ALTER VIEW", name, someParens (columns.map .ident),
    .node .phrase [.text "AS", .query q], options]

def alterIndex : Rule Statement := do
  let name ← namePart
  if !(← keyword "RENAME") then unexpected "RENAME after ALTER INDEX" (← peek)
  if !(← keyword "TO") then unexpected "TO after RENAME" (← peek)
  return phrase [.text "ALTER INDEX", name, .text "RENAME TO", ← namePart]

def alterSchema : Rule Statement := do
  let found ← ifExists
  let name ← namePart
  let change (p : Part) : Statement := phrase [.text "ALTER SCHEMA", found, name, p]
  let bracketed (word : String) : Rule Part :=
    return .node .glued [.text word, .text " ", inParens (← sqlOptions)]
  if ← keywords ["SET", "OPTIONS"] then return change (← bracketed "SET OPTIONS")
  if ← keywords ["SET", "DEFAULT", "COLLATE"] then
    return change (led "SET DEFAULT COLLATE" (← exprPart))
  if ← keywords ["ADD", "REPLICA"] then
    let replica ← identPart
    let options ← if ← keyword "OPTIONS" then bracketed "OPTIONS" else pure .absent
    return change (.node .phrase [.text "ADD REPLICA", replica, options])
  if ← keywords ["DROP", "REPLICA"] then return change (led "DROP REPLICA" (← identPart))
  if ← keywords ["RENAME", "TO"] then return change (led "RENAME TO" (← namePart))
  if ← keywords ["OWNER", "TO"] then return change (led "OWNER TO" (← owner))
  unexpected "ALTER SCHEMA operation" (← peek)

def alterType : Rule Statement := do
  let name ← namePart
  let change (parts : List Part) : Statement := phrase (.text "ALTER TYPE" :: name :: parts)
  if ← keywords ["RENAME", "TO"] then return change [.text "RENAME TO", ← identPart]
  if ← keywords ["ADD", "VALUE"] then
    let missing ← ifNotExists
    let value ← identPart
    let place ← match ← oneOf ["BEFORE", "AFTER"] with
      | some word => do pure (led word (← identPart))
      | none => pure .absent
    return change [.text "ADD VALUE", missing, value, place]
  if ← keywords ["RENAME", "VALUE"] then
    let old ← identPart
    let _ ← expectKeyword "TO"
    return change [.text "RENAME VALUE", old, .text "TO", ← identPart]
  unexpected "\x7bRENAME TO | \x7b RENAME | ADD \x7d VALUE\x7d" (← peek)

def alterPolicy : Rule Statement := do
  let name ← identPart
  let _ ← expectKeyword "ON"
  let table ← relationPart
  if ← keyword "RENAME" then
    let _ ← expectKeyword "TO"
    return phrase [.text "ALTER POLICY", name, .text "ON", table, .text "RENAME TO", ← identPart]
  let roles ← clause ["TO"] owners
  let visible ← clause ["USING"] conditionPart
  let allowed ← clause ["WITH", "CHECK"] conditionPart
  return phrase [.text "ALTER POLICY", name, .text "ON", table, roles, visible, allowed]

def alterConnector : Rule Statement := do
  let name ← identPart
  let _ ← expectKeyword "SET"
  let properties ← if ← keyword "DCPROPERTIES" then do
      pure (Part.node .glued [.text "SET DCPROPERTIES",
        inParens (← parenthesized (commaList sqlOption))])
    else pure .absent
  let url ← if ← keyword "URL" then do pure (Part.text ("SET URL '" ++ (← literalString) ++ "'"))
    else pure .absent
  let owner ← if ← keyword "OWNER" then do
      let kind ← expectOneOf ["USER", "ROLE"]
      pure (led ("SET OWNER " ++ kind) (← identPart))
    else pure .absent
  return phrase [.text "ALTER CONNECTOR", name, properties, url, owner]

def alterUser : Rule Statement := do
  let found ← ifExists
  let name ← identPart
  let renamed ← clause ["RENAME", "TO"] identPart
  let reset ← optionalWords ["RESET", "PASSWORD"]
  let stopped ← optionalWords ["ABORT", "ALL", "QUERIES"]
  let tagged ← clause ["SET", "TAG"] (keyValuePart false [])
  let untagged ← clause ["UNSET", "TAG"] identifiers
  let given ← clause ["SET"] (keyValuePart false [])
  let taken ← clause ["UNSET"] identifiers
  return phrase [.text "ALTER USER", found, name, renamed, reset, stopped, tagged, untagged, given,
    taken]

def alterRule : Rule Statement := do
  match ← expectOneOf ["VIEW", "TYPE", "TABLE", "INDEX", "ROLE", "POLICY", "CONNECTOR", "ICEBERG",
      "SCHEMA", "USER"] with
  | "VIEW" => alterView
  | "TABLE" => alterTable "ALTER TABLE"
  | "ICEBERG" =>
    let _ ← expectKeyword "TABLE"
    alterTable "ALTER ICEBERG TABLE"
  | "INDEX" => alterIndex
  | "ROLE" => refuse "ALTER ROLE is only support for PostgreSqlDialect, MsSqlDialect"
  | "SCHEMA" => alterSchema
  | "TYPE" => alterType
  | "POLICY" => alterPolicy
  | "CONNECTOR" => alterConnector
  | _ => alterUser

/-! ## DROP and TRUNCATE -/

/-- The kinds of things that DROP takes a list of. -/
def droppedKinds : List (List String) :=
  [ ["TABLE"], ["VIEW"], ["MATERIALIZED", "VIEW"], ["INDEX"], ["ROLE"], ["SCHEMA"], ["DATABASE"],
    ["SEQUENCE"], ["STAGE"], ["TYPE"], ["USER"], ["STREAM"] ]

/-- A function to drop, with the types of its parameters. -/
def droppedFunction : Rule Part := do
  let name ← objectName
  if ← peekSymbol "(" then return .node .glued [.name name, ← functionParameters]
  return .name name

/-- An operator to drop, with the types of its operands. -/
def droppedOperator : Rule Part := do
  let name ← operatorName
  let _ ← expectSymbol "("
  let left ← if ← keyword "NONE" then pure (Part.text "NONE") else dataType
  let _ ← expectSymbol ","
  let right ← dataType
  let _ ← expectSymbol ")"
  return .node .phrase [name, inParens [left, right]]

/-- Things of a kind to drop, which are listed by name. -/
def dropNamed (kind : String) (temporary : Part) : Rule Statement := do
  let found ← ifExists
  let dropped ← names
  let start ← place
  let cascade ← keyword "CASCADE"
  let restrict ← keyword "RESTRICT"
  let purge ← keyword "PURGE"
  if cascade && restrict then refuse "Cannot specify both CASCADE and RESTRICT in DROP" start
  if kind == "ROLE" && (cascade || restrict || purge) then
    refuse "Cannot specify CASCADE, RESTRICT, or PURGE in DROP ROLE" start
  return phrase [.text "DROP", temporary, .text kind, found, dropped, wordIf cascade "CASCADE",
    wordIf restrict "RESTRICT", wordIf purge "PURGE", ← clause ["ON"] namePart]

/-- The rest of a DROP after a word that starts a rule of its own. -/
def dropSpecial (word : String) (temporary : Part) : Rule Statement := do
  let group ← if word == "OPERATOR" then oneOf ["FAMILY", "CLASS"] else pure none
  let kind := (group.map (word ++ " " ++ ·)).getD word
  let found ← ifExists
  let drop (parts : List Part) : Statement := phrase (.text ("DROP " ++ kind) :: found :: parts)
  match kind with
  | "FUNCTION" | "PROCEDURE" =>
    let dropped ← commaList droppedFunction
    return drop [withCommas dropped, ← dropBehavior]
  | "POLICY" =>
    let name ← identPart
    let _ ← expectKeyword "ON"
    let table ← relationPart
    return drop [name, .text "ON", table, ← dropBehavior]
  | "TRIGGER" =>
    let name ← namePart
    let table ← clause ["ON"] namePart
    return drop [name, table, ← dropBehavior]
  | "CONNECTOR" => return drop [← identPart]
  | "DOMAIN" =>
    let name ← namePart
    return drop [name, ← dropBehavior]
  | "SECRET" =>
    let name ← identPart
    let place ← clause ["FROM"] identPart
    return phrase [.text "DROP", temporary, .text "SECRET", found, name, place]
  | "EXTENSION" =>
    let dropped ← identifiers
    return drop [dropped, ← dropBehavior]
  | "OPERATOR" =>
    let dropped ← commaList droppedOperator
    return drop [withCommas dropped, ← dropBehavior]
  | _ =>
    let dropped ← names
    let _ ← expectKeyword "USING"
    let method ← identPart
    return drop [dropped, .text "USING", method, ← dropBehavior]

def dropRule : Rule Statement := do
  let temporary ← optionalWords ["TEMPORARY"]
  match ← droppedKinds.findM? keywords with
  | some kind => dropNamed (" ".intercalate kind) temporary
  | none =>
    match ← oneOf ["FUNCTION", "POLICY", "CONNECTOR", "DOMAIN", "PROCEDURE", "SECRET", "TRIGGER",
        "EXTENSION", "OPERATOR"] with
    | some word => dropSpecial word temporary
    | none =>
      unexpected ("CONNECTOR, DATABASE, EXTENSION, FUNCTION, INDEX, OPERATOR, POLICY, " ++
        "PROCEDURE, ROLE, SCHEMA, SECRET, SEQUENCE, STAGE, TABLE, TRIGGER, TYPE, VIEW, " ++
        "MATERIALIZED VIEW or USER after DROP") (← peek)

/-- A table to empty. -/
def truncatedTable : Rule Part := do
  let only ← optionalWords ["ONLY"]
  let table ← relationPart
  let star ← symbol "*"
  return .node .phrase [only, table, wordIf star "*"]

def truncateRule : Rule Statement := do
  let word ← optionalWords ["TABLE"]
  let found ← ifExists
  let tables ← commaList truncatedTable
  let partitions ← clause ["PARTITION"] conditionsPart
  let counters ← optionalChoice [["RESTART", "IDENTITY"], ["CONTINUE", "IDENTITY"]]
  let behavior ← dropBehavior
  let cluster ← onCluster
  return reordered [0, 1, 2, 3, 5, 6, 4, 7] [.text "TRUNCATE", word, found, withCommas tables,
    partitions, counters, behavior, cluster]

end ColumnMask.Sql
