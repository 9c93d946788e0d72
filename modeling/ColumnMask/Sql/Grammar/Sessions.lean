-- The statements about a session and its surroundings: settings, transactions,
-- cursors, prepared statements, plans and the contents of the catalogue.
import ColumnMask.Sql.Grammar.Phrases

namespace ColumnMask.Sql

/-! ## Plans and statistics -/

/-- An option of EXPLAIN: a name and an expression. -/
def utilityOption : Rule Part := do
  let name ← identifier
  if (← peekSymbol ",") || (← peekSymbol ")") then return .ident name
  return .node .phrase [.ident name, .expr (← expr)]

/-- The format of a plan. -/
def planFormat : Rule Part := do
  if !(← keyword "FORMAT") then return .absent
  let equals ← symbol "="
  let t ← next
  if ["TEXT", "GRAPHVIZ", "JSON", "TRADITIONAL", "TREE"].contains t.token.key then
    return .text ((if equals then "FORMAT=" else "FORMAT ") ++ t.token.key)
  unexpected "fileformat" t

/-- What EXPLAIN is to show of a plan. -/
def planOptions (word : String) : Rule (List Part) := do
  if word == "EXPLAIN" && (← peekSymbol "(") then
    return [inParens (← parenthesized (commaList utilityOption))]
  if ← keywords ["QUERY", "PLAN"] then return [.text "QUERY PLAN"]
  if ← keyword "ESTIMATE" then return [.text "ESTIMATE"]
  let analyze ← optionalWords ["ANALYZE"]
  let verbose ← optionalWords ["VERBOSE"]
  return [analyze, verbose, ← planFormat]

/-- A statement whose plan is shown. It may not show a plan itself. -/
def explainRule (word : String) : Rule Statement := do
  let options ← planOptions word
  let start ← peek
  match ← attempt statement with
  | some s =>
    if ["EXPLAIN", "DESC", "DESCRIBE"].contains start.token.key then
      refuse "Explain must be root of the plan"
    return phrase (.text word :: options ++ [.statement s])
  | none =>
    let format ← optionalWord ["EXTENDED", "FORMATTED"]
    return phrase [.text word, format, ← relationPart]

/-- What ANALYZE is told about a table: the columns, the partitions, and the words. -/
structure AnalyzeDetails where
  columns : List Ident := []
  forColumns : Bool := false
  partitions : List Expr := []
  words : List String := []

/-- The words of ANALYZE in the order they are shown in. -/
def AnalyzeDetails.parts (d : AnalyzeDetails) : List Part :=
  let columns := d.columns.map Part.ident
  let word (w : String) : Part := wordIf (d.words.contains w) w
  [ if d.forColumns then .absent else someParens columns,
    led "PARTITION" (someParens (d.partitions.map .expr)), word "COMPUTE STATISTICS", word "NOSCAN",
    word "CACHE METADATA",
    if d.forColumns then .node .phrase [.text "FOR COLUMNS", withCommas columns] else .absent ]

def analyzeRule : Rule Statement := do
  let word ← optionalWords ["TABLE"]
  let table ← relationPart
  let columns ← optionalIdentifierList
  let details ← iterate ({ columns } : AnalyzeDetails) fun d => do
    match ← oneOf ["PARTITION", "FOR", "CACHE", "NOSCAN", "COMPUTE"] with
    | some "PARTITION" =>
      return ({ d with partitions := ← parenthesized (commaList expr) }, true)
    | some "FOR" =>
      let _ ← expectKeyword "COLUMNS"
      let columns := (← attempt (commaList identifier)).getD []
      return ({ d with columns, forColumns := true }, true)
    | some "CACHE" =>
      let _ ← expectKeyword "METADATA"
      return ({ d with words := "CACHE METADATA" :: d.words }, true)
    | some "COMPUTE" =>
      let _ ← expectKeyword "STATISTICS"
      return ({ d with words := "COMPUTE STATISTICS" :: d.words }, true)
    | some _ => return ({ d with words := "NOSCAN" :: d.words }, true)
    | none => return (d, false)
  return phrase ([.text "ANALYZE", word, table] ++ details.parts)

def repairRule : Rule Statement := do
  let repair ← optionalWords ["REPAIR"]
  let _ ← expectKeyword "TABLE"
  let table ← relationPart
  let action ← attempt do
    let word ← oneOf ["ADD", "DROP", "SYNC"]
    let _ ← expectKeyword "PARTITIONS"
    return optional (fun w => Part.text (w ++ " PARTITIONS")) word
  return phrase [.text "MSCK", repair, .text "TABLE", table, optional id action]

def optimizeRule : Rule Statement := do
  let _ ← expectKeyword "TABLE"
  let table ← namePart
  let cluster ← onCluster
  let partition ← if ← keyword "PARTITION" then do
      if ← keyword "ID" then pure (led "PARTITION ID" (.ident (← identifier)))
      else pure (led "PARTITION" (.expr (← expr)))
    else pure .absent
  let final ← optionalWords ["FINAL"]
  let deduplicate ← if ← keyword "DEDUPLICATE" then do
      if ← keyword "BY" then pure (led "DEDUPLICATE BY" (.expr (← expr)))
      else pure (.text "DEDUPLICATE")
    else pure .absent
  return phrase [.text "OPTIMIZE TABLE", table, cluster, partition, final, deduplicate]

def vacuumRule : Rule Statement := do
  let words ← [["FULL"], ["SORT", "ONLY"], ["DELETE", "ONLY"], ["REINDEX"], ["RECLUSTER"]].mapM
    optionalWords
  let table ← attempt objectName
  let threshold ← if ← keyword "TO" then do
      let v ← valuePart
      let _ ← expectKeyword "PERCENT"
      pure (Part.node .phrase [.text "TO", v, .text "PERCENT"])
    else pure .absent
  let boost ← optionalWords ["BOOST"]
  return phrase (.text "VACUUM" :: words ++ [optional .name table, threshold, boost])

/-! ## Caches and connections -/

/-- The query that fills a cache, with or without AS. -/
def cachedQuery : Rule (List Part) := do
  if (← peek).token matches .finish then return []
  let word ← optionalWords ["AS"]
  if !(← peek).token.isWord && word.isAbsent then
    unexpected "a QUERY statement" (← peek)
  return [word, .query (← query)]

def cacheRule : Rule Statement := do
  let flag ← if ← peekKeyword "TABLE" then pure none else do pure (some (← objectName))
  if !(← keyword "TABLE") then
    let t ← peek
    let t ← if t.token matches .finish then lastRead else pure t
    unexpected "a \x60TABLE\x60 keyword" t
  let table ← relationPart
  let options ← optionsAfter "OPTIONS"
  let source ← cachedQuery
  return phrase ([.text "CACHE", optional .name flag, .text "TABLE", table, options] ++ source)

def uncacheRule : Rule Statement := do
  let _ ← expectKeyword "TABLE"
  let found ← ifExists
  return phrase [.text "UNCACHE TABLE", found, ← relationPart]

def attachRule : Rule Statement := do
  let word ← optionalWords ["DATABASE"]
  let file ← expr
  let _ ← expectKeyword "AS"
  return phrase [.text "ATTACH", word, .expr file, .text "AS", .ident (← identifier)]

def detachRule : Rule Statement := do
  let word ← optionalWords ["DATABASE"]
  let found ← ifExists
  return phrase [.text "DETACH", word, found, .ident (← identifier)]

def killRule : Rule Statement := do
  let kind ← optionalWord ["CONNECTION", "QUERY", "MUTATION"]
  return phrase [.text "KILL", kind, .number (← wholeNumber)]

/-- The tables that FLUSH names and the words around them: every word up to the first token that
is none, which is read, too. -/
def flushedTables : Rule (List Part) := do
  let (tables, lock, forExport) ← iterate (([] : List ObjectName), false, false)
    fun (tables, lock, forExport) => do
      let t ← peek
      match t.token.key with
      | "WITH" =>
        let _ ← next
        return ((tables, ← keywords ["READ", "LOCK"], forExport), true)
      | "FOR" =>
        let _ ← next
        return ((tables, lock, ← keyword "EXPORT"), true)
      | _ =>
        if t.token.isPlainWord then
          return ((← commaList objectName, lock, forExport), true)
        let _ ← next
        return ((tables, lock, forExport), t.token.isWord)
  return [withCommas (tables.map .name), wordIf lock "WITH READ LOCK", wordIf forExport "FOR EXPORT"]

def flushRule : Rule Statement := do
  let kept ← optionalWord ["NO_WRITE_TO_BINLOG", "LOCAL"]
  let plain := [["BINARY", "LOGS"], ["ENGINE", "LOGS"], ["ERROR", "LOGS"], ["GENERAL", "LOGS"],
    ["HOSTS"], ["LOGS"], ["PRIVILEGES"], ["OPTIMIZER_COSTS"], ["SLOW", "LOGS"], ["STATUS"],
    ["USER_RESOURCES"]]
  match ← plain.findM? keywords with
  | some words => return phrase [.text "FLUSH", kept, .text (" ".intercalate words)]
  | none =>
    if ← keywords ["RELAY", "LOGS"] then
      let channel ← if ← keywords ["FOR", "CHANNEL"] then do
          pure (led "FOR CHANNEL" (.name (← objectName)))
        else pure .absent
      return phrase [.text "FLUSH", kept, .text "RELAY LOGS", channel]
    if ← keyword "TABLES" then
      return phrase ([.text "FLUSH", kept, .text "TABLES"] ++ (← flushedTables))
    unexpected ("BINARY LOGS, ENGINE LOGS, ERROR LOGS, GENERAL LOGS, HOSTS, LOGS, PRIVILEGES, " ++
      "OPTIMIZER_COSTS, RELAY LOGS [FOR CHANNEL channel], SLOW LOGS, STATUS, USER_RESOURCES")
      (← peek)

def discardRule : Rule Statement := do
  match ← oneOf ["ALL", "PLANS", "SEQUENCES", "TEMP", "TEMPORARY"] with
  | some "TEMPORARY" => return phrase [.text "DISCARD TEMP"]
  | some word => return phrase [.text ("DISCARD " ++ word)]
  | none => unexpected "ALL, PLANS, SEQUENCES, TEMP or TEMPORARY after DISCARD" (← peek)

/-! ## Cursors -/

def declareRule : Rule Statement := do
  let name ← identifier
  let binary ← optionalWords ["BINARY"]
  let sensitive ← optionalWord ["INSENSITIVE", "ASENSITIVE"]
  let scroll ← if ← keyword "SCROLL" then pure (Part.text "SCROLL")
    else optionalWords ["NO", "SCROLL"]
  let _ ← expectKeyword "CURSOR"
  let hold ← match ← oneOf ["WITH", "WITHOUT"] with
    | some word => do
      let _ ← expectKeyword "HOLD"
      pure (Part.text (word ++ " HOLD"))
    | none => pure .absent
  let _ ← expectKeyword "FOR"
  return phrase [.text "DECLARE", .ident name, binary, sensitive, scroll, .text "CURSOR", hold,
    .text "FOR", .query (← query)]

/-- Which rows of a cursor are fetched. -/
def fetchDirection : Rule Part := do
  let count (word : String) : Rule Part := do
    if ← keyword "ALL" then return .text (word ++ " ALL")
    return led word (.value (← numberValue))
  match ← oneOf ["NEXT", "PRIOR", "FIRST", "LAST", "ABSOLUTE", "RELATIVE", "FORWARD", "BACKWARD",
      "ALL"] with
  | some "ABSOLUTE" => return led "ABSOLUTE" (.value (← numberValue))
  | some "RELATIVE" => return led "RELATIVE" (.value (← numberValue))
  | some "FORWARD" => count "FORWARD"
  | some "BACKWARD" => count "BACKWARD"
  | some word => return .text word
  | none => return .value (← numberValue)

def fetchRule : Rule Statement := do
  let direction ← fetchDirection
  let start ← place
  match ← oneOf ["FROM", "IN"] with
  | some word =>
    let name ← identifier
    let into ← after "INTO" objectName
    return phrase [.text "FETCH", direction, .text word, .ident name,
      led "INTO" (optional .name into)]
  | none => refuse "Expected FROM or IN" start

def openRule : Rule Statement := return phrase [.text "OPEN", .ident (← identifier)]

def closeRule : Rule Statement := do
  if ← keyword "ALL" then return phrase [.text "CLOSE ALL"]
  return phrase [.text "CLOSE", .ident (← identifier)]

/-! ## Copying -/

/-- A text between double quotes, with its special characters spelled out. -/
def spelledOut (text : String) : String :=
  let spelled : Char → List Char
    | '"' => ['\\', '"']
    | '\\' => ['\\', '\\']
    | '\n' => ['\\', 'n']
    | '\t' => ['\\', 't']
    | '\r' => ['\\', 'r']
    | c => [c]
  "\"" ++ String.ofList (text.toList.flatMap spelled) ++ "\""

/-- A literal of one character, between quotes. -/
def characterPart : Rule Part := do
  let text ← literalString
  if text.utf8ByteSize == 1 then return .text ("'" ++ text ++ "'")
  refuse ("Expect a char, found " ++ spelledOut text) (← lastRead).span.start

/-- What a switch is set to: off only if it says so. -/
def switchedOff (word : String) : Rule Part := do
  return .text (if (← oneOf ["TRUE", "FALSE"]) == some "FALSE" then word ++ " FALSE" else word)

/-- An option of COPY in parentheses. -/
def copyOption : Rule Part := do
  match ← oneOf ["FORMAT", "FREEZE", "DELIMITER", "NULL", "HEADER", "QUOTE", "ESCAPE", "FORCE_QUOTE",
      "FORCE_NOT_NULL", "FORCE_NULL", "ENCODING"] with
  | some "FORMAT" => return led "FORMAT" (.ident (← identifier))
  | some "FREEZE" => switchedOff "FREEZE"
  | some "HEADER" => switchedOff "HEADER"
  | some "NULL" => return led "NULL" (quotedText (← literalString))
  | some "ENCODING" => return led "ENCODING" (quotedText (← literalString))
  | some word =>
    if ["FORCE_QUOTE", "FORCE_NOT_NULL", "FORCE_NULL"].contains word then
      return led word (inParens ((← identifierList).map .ident))
    return led word (← characterPart)
  | none => unexpected "option" (← peek)

/-- An option of COPY about text with separators. -/
def csvOption : Rule Part := do
  match ← oneOf ["HEADER", "QUOTE", "ESCAPE", "FORCE"] with
  | some "HEADER" => return .text "HEADER"
  | some "FORCE" =>
    if ← keywords ["NOT", "NULL"] then
      return led "FORCE NOT NULL" (withCommas ((← commaList identifier).map .ident))
    if ← keyword "QUOTE" then
      return led "FORCE QUOTE" (withCommas ((← commaList identifier).map .ident))
    unexpected "csv option" (← peek)
  | some word =>
    let _ ← keyword "AS"
    return led word (← characterPart)
  | none => unexpected "csv option" (← peek)

/-- The role that a store is used with. -/
def rolePart : Rule Part := do
  if ← keyword "DEFAULT" then return .text "DEFAULT"
  return quotedText (← literalString)

/-- The options of COPY that are one word each. -/
def bareCopyOptions : List String :=
  [ "ACCEPTANYDATE", "ADDQUOTES", "ALLOWOVERWRITE", "BINARY", "BLANKSASNULL", "BZIP2", "CLEANPATH",
    "EMPTYASNULL", "ESCAPE", "GZIP", "HEADER", "PARQUET", "REMOVEQUOTES", "TRUNCATECOLUMNS", "ZSTD" ]

/-- The options of COPY that a text may follow. -/
def textCopyOptions : List String := ["ACCEPTINVCHARS", "DATEFORMAT", "TIMEFORMAT"]

/-- The options of COPY that a text has to follow. -/
def namedCopyOptions : List String := ["CREDENTIALS", "EXTENSION", "FIXEDWIDTH"]

/-- ON or OFF, and the words for them. -/
def onOrOff : Rule (Option String) := do
  return (← oneOf ["ON", "OFF", "TRUE", "FALSE"]).map fun w =>
    if w == "ON" || w == "TRUE" then "ON" else "OFF"

/-- A size with its unit. -/
def fileSize : Rule Part := do
  let size ← numberValue
  return .node .phrase [.value size, ← optionalWord ["MB", "GB"]]

/-- An option of COPY after the parentheses. -/
def looseCopyOption : Rule Part := do
  if ← keyword "FORMAT" then let _ ← keyword "AS"
  let switch (word : String) : Rule Part := return .node .phrase [.text word, optional .text (← onOrOff)]
  match ← oneOf (bareCopyOptions ++ textCopyOptions ++ namedCopyOptions ++ ["COMPUPDATE", "CSV",
      "DELIMITER", "ENCRYPTED", "IAM_ROLE", "IGNOREHEADER", "JSON", "MANIFEST", "MAXFILESIZE", "NULL",
      "PARALLEL", "PARTITION", "REGION", "ROWGROUPSIZE", "STATUPDATE"]) with
  | some "COMPUPDATE" =>
    let preset ← optionalWords ["PRESET"]
    return .node .phrase [.text "COMPUPDATE", preset, optional .text (← onOrOff)]
  | some "CSV" => return .node .phrase (.text "CSV" :: (← many (attempt csvOption)))
  | some "DELIMITER" =>
    let _ ← keyword "AS"
    return led "DELIMITER" (← characterPart)
  | some "ENCRYPTED" => return .node .phrase [.text "ENCRYPTED", ← optionalWords ["AUTO"]]
  | some "IAM_ROLE" => return led "IAM_ROLE" (← rolePart)
  | some "IGNOREHEADER" =>
    let _ ← keyword "AS"
    return led "IGNOREHEADER" (.number (← wholeNumber))
  | some "JSON" =>
    let _ ← keyword "AS"
    let format ← match (← peek).token with
      | .literal .plain _ => do pure (quotedText (← literalString))
      | _ => pure .absent
    return .node .phrase [.text "JSON", led "AS" format]
  | some "MANIFEST" => return .node .phrase [.text "MANIFEST", ← optionalWords ["VERBOSE"]]
  | some "MAXFILESIZE" =>
    let _ ← keyword "AS"
    return led "MAXFILESIZE" (← fileSize)
  | some "NULL" =>
    let _ ← keyword "AS"
    return led "NULL" (quotedText (← literalString))
  | some "PARALLEL" => switch "PARALLEL"
  | some "PARTITION" =>
    let _ ← expectKeyword "BY"
    let columns ← identifierList
    return .node .phrase [.text "PARTITION BY", inParens (columns.map .ident),
      ← optionalWords ["INCLUDE"]]
  | some "REGION" =>
    let _ ← keyword "AS"
    return led "REGION" (quotedText (← literalString))
  | some "ROWGROUPSIZE" =>
    let _ ← keyword "AS"
    return led "ROWGROUPSIZE" (← fileSize)
  | some "STATUPDATE" => switch "STATUPDATE"
  | some word =>
    if bareCopyOptions.contains word then return .text word
    if namedCopyOptions.contains word then return led word (quotedText (← literalString))
    let _ ← keyword "AS"
    match (← peek).token with
    | .literal .plain _ => return led word (quotedText (← literalString))
    | _ => return .text word
  | none => unexpected "option" (← peek)

/-- Reads the values written after a COPY, to the mark that ends them. -/
def copiedValues : Rule (List String) := do
  let (values, _) ← iterate (([] : List String), "") fun (values, text) => do
    let t ← nextRaw
    match t.token with
    | .finish => return ((values, text), false)
    | .blank "\t" | .blank "\n" => return ((text :: values, ""), true)
    | .symbol "\\" =>
      if ← symbol "." then return ((values, text), false)
      let escaped ← next
      match escaped.token with
      | .word "N" _ _ => return (("\\N" :: values, text), true)
      | _ => return ((values, text), true)
    | token => return ((values, text ++ token.show), true)
  return values.reverse

def copyRule : Rule Statement := do
  let (isQuery, source) ← if ← symbol "(" then do
      let q ← query
      let _ ← expectSymbol ")"
      pure (true, inParens [.query q])
    else do
      let name ← objectName
      let columns ← optionalIdentifierList
      pure (false, Part.node .phrase [.name name, someParens (columns.map .ident)])
  let word ← match ← oneOf ["FROM", "TO"] with
    | some word => pure word
    | none => unexpected "FROM or TO" (← peek)
  if word == "FROM" && isQuery then refuse "COPY ... FROM does not support query as a source"
  let (isInput, target) ← if ← keyword "STDIN" then pure (true, Part.text "STDIN")
    else if ← keyword "STDOUT" then pure (false, .text "STDOUT")
    else if ← keyword "PROGRAM" then do
      pure (false, led "PROGRAM" (quotedText (← literalString)))
    else do pure (false, quotedText (← literalString))
  let _ ← keyword "WITH"
  let options ← if ← peekSymbol "(" then parenthesized (commaList copyOption) else pure []
  let loose ← many (attempt looseCopyOption)
  let values ← if isInput then do
      let _ ← expectSymbol ";"
      copiedValues
    else pure []
  let rows := if values.isEmpty then Part.absent
    else .text (";\n" ++ "\t".intercalate values ++ "\n\\.")
  return .other .glued [.statement (phrase ([.text "COPY", source, .text word, target,
    someParens options] ++ loose)), rows]

def unloadRule : Rule Statement := do
  let source ← parenthesized do
    match (← peek).token with
    | .literal .plain _ => return Part.text ("'" ++ (← literalString) ++ "'")
    | _ => return .query (← query)
  let _ ← expectKeyword "TO"
  let target ← identifier
  let role ← if ← keyword "IAM_ROLE" then do pure (led "IAM_ROLE" (← rolePart)) else pure .absent
  let options ← optionsAfter "WITH"
  let loose ← many (attempt looseCopyOption)
  return phrase ([.node .glued [.text "UNLOAD", inParens [source]], .text "TO", .ident target, role,
    options] ++ loose)

def exportRule : Rule Statement := do
  let _ ← expectKeyword "DATA"
  let connection ← if ← keywords ["WITH", "CONNECTION"] then do
      pure (led "WITH CONNECTION" (← namePart))
    else pure .absent
  let _ ← expectKeyword "OPTIONS"
  let options ← parenthesized (commaList sqlOption)
  let _ ← expectKeyword "AS"
  return phrase [.text "EXPORT DATA", connection, .node .glued [.text "OPTIONS", inParens options],
    .text "AS", .query (← query)]

/-! ## Settings -/

def scopeWord : Rule (Option String) := oneOf ["LOCAL", "SESSION", "GLOBAL"]

/-- A variable and its value, with a scope in front. -/
def variableSetting : Rule Part := do
  let scope ← scopeWord
  if ← symbol "(" then unexpected "Unparenthesized assignment" (← peek)
  let name ← objectName
  if !(← symbol "=" <||> keyword "TO") then unexpected "assignment operator" (← peek)
  return .node .phrase [optional Part.text scope, .name name, .text "=", .expr (← expr)]

/-- The values that a variable is set to. -/
def settingValues : Rule Part := do
  let values ← commaList do
    if ← peekOneOf ["SELECT", "WITH"] then return .form .subquery [.query (← query)]
    match ← trial expr with
    | .ok e => return e
    | .error .tooDeep => refuse "recursion limit exceeded"
    | .error _ => unexpected "variable value" (← peek)
  return withCommas (values.map .expr)

/-- Variables that are set with a list of values. -/
def plainSetting (scope hive : Part) : Rule Statement := do
  if ← symbol "(" then
    let names ← commaList identifier
    let _ ← expectSymbol ")"
    if !(← symbol "=" <||> keyword "TO") then unexpected "equals sign or TO" (← peek)
    let values ← parenthesized settingValues
    return phrase [.text "SET", inParens (names.map .ident), .text "=", inParens [values]]
  let name ← objectName
  if !(← symbol "=" <||> keyword "TO") then unexpected "equals sign or TO" (← peek)
  return phrase [.text "SET", scope, .node .glued [hive, .name name], .text "=", ← settingValues]

def setRule : Rule Statement := do
  let hive ← keyword "HIVEVAR"
  let beforeScope ← get
  let scope ← if hive then pure none else scopeWord
  if hive then
    let _ ← expectSymbol ":"
  let scopePart := optional Part.text scope
  let role ← attempt do
    let _ ← expectKeyword "ROLE"
    if ← keyword "NONE" then return Part.text "NONE" else return .ident (← identifier)
  if let some role := role then return phrase [.text "SET", scopePart, .text "ROLE", role]
  if ← keywords ["TIME", "ZONE"] <||> keyword "TIMEZONE" then
    if ← symbol "=" <||> keyword "TO" then
      return phrase [.text "SET", scopePart, .text "TIMEZONE =", ← settingValues]
    return phrase [.text "SET", wordIf (scope == some "LOCAL") "LOCAL", .text "TIME ZONE",
      .expr (← expr)]
  if ← keyword "NAMES" then
    if ← keyword "DEFAULT" then return phrase [.text "SET NAMES DEFAULT"]
    let charset ← identifier
    let collation ← after "COLLATE" literalString
    return phrase [.text "SET NAMES", .ident charset, led "COLLATE" (optional quotedText collation)]
  if ← keyword "CHARACTERISTICS" then
    expectKeywords ["AS", "TRANSACTION"]
    return phrase [.text "SET SESSION CHARACTERISTICS AS TRANSACTION", ← transactionModes]
  if ← keyword "TRANSACTION" then
    if ← keyword "SNAPSHOT" then
      return phrase [.text "SET TRANSACTION SNAPSHOT", ← valuePart]
    return phrase [.text "SET TRANSACTION", ← transactionModes]
  if ← keyword "AUTHORIZATION" then
    match scope with
    | some word =>
      let owner ← if ← keyword "DEFAULT" then pure (Part.text "DEFAULT")
        else do pure (.ident (← identifier))
      return phrase [.text "SET", .text word, .text "AUTHORIZATION", owner]
    | none =>
      unexpected "SESSION, LOCAL, or other scope modifier before AUTHORIZATION" (← lastRead)
  if scope.isSome then set beforeScope
  match ← attempt (commaList variableSetting) with
  | some settings =>
    let mark := wordIf (hive && settings.length == 1) "HIVEVAR:"
    return phrase [.text "SET", .node .glued [mark, withCommas settings]]
  | none => plainSetting scopePart (wordIf hive "HIVEVAR:")

def resetRule : Rule Statement := do
  if ← keyword "ALL" then return phrase [.text "RESET ALL"]
  return phrase [.text "RESET", ← namePart]

def useRule : Rule Statement := return phrase [.text "USE", ← namePart]

def pragmaRule : Rule Statement := do
  let name ← objectName
  let pragmaValue : Rule Part := do
    let start ← peek
    match ← literalValue with
    | (v@(.number ..), _) | (v@(.text .plain _), _) | (v@(.text .wide _), _)
    | (v@(.placeholder _), _) => return .value v
    | _ => unexpected "number or string or ? placeholder" start
  if ← symbol "(" then
    let v ← pragmaValue
    let _ ← expectSymbol ")"
    return phrase [.text "PRAGMA", .node .glued [.name name, inParens [v]]]
  if ← symbol "=" then
    return phrase [.text "PRAGMA", .name name, .text "=", ← pragmaValue]
  return phrase [.text "PRAGMA", .name name]

/-! ## SHOW -/

/-- What the rows of SHOW have to be like. -/
def showFilter : Rule Part := do
  match ← oneOf ["LIKE", "ILIKE", "WHERE"] with
  | some "LIKE" => return led "LIKE" (quotedText (← literalString))
  | some "ILIKE" =>
    let text ← literalString
    return .text ("ILIKE " ++ ((quoted '\'' text).drop 1).dropEnd 1)
  | some _ => return led "WHERE" (.expr (← expr))
  | none => return optional quotedText (← attempt literalString)

/-- Where the things that SHOW lists are. -/
def showPlace : Rule Part := do
  match ← oneOf ["FROM", "IN"] with
  | some word =>
    match ← oneOf ["ACCOUNT", "DATABASE", "SCHEMA", "TABLE", "VIEW"] with
    | some kind =>
      let starts := (← peekKeyword "STARTS") && (← peekAfter 1).token.key == "WITH"
      let ends := starts || (← peekKeyword "LIMIT")
      let name ← if ["DATABASE", "SCHEMA"].contains kind && ends then pure none
        else attempt objectName
      return .node .phrase [.text word, .text kind, optional .name name]
    | none =>
      let name ← objectName
      if (← oneOf ["FROM", "IN"]).isSome then
        let outer ← identifier
        return .node .phrase [.text word, .name (.ident outer :: name)]
      return .node .phrase [.text word, .name name]
  | none => return .absent

/-- The clauses of SHOW; the filter is shown last. -/
def showOptions : Rule Part := do
  let where_ ← showPlace
  let filter ← showFilter
  let start ← if ← keywords ["STARTS", "WITH"] then do pure (led "STARTS WITH" (← valuePart))
    else pure .absent
  let limit ← if ← keyword "LIMIT" then
      if ← keyword "ALL" then pure .absent else do pure (led "LIMIT" (.expr (← expr)))
    else pure .absent
  let from_ ← if ← keyword "FROM" then do pure (led "FROM" (← valuePart)) else pure .absent
  return .node .phrase [where_, start, limit, from_, filter]

def showRule : Rule Statement := do
  let terse ← optionalWords ["TERSE"]
  let extended ← optionalWords ["EXTENDED"]
  let full ← optionalWords ["FULL"]
  let session ← optionalWords ["SESSION"]
  let global ← optionalWords ["GLOBAL"]
  let external ← optionalWords ["EXTERNAL"]
  if (← oneOf ["COLUMNS", "FIELDS"]).isSome then
    return phrase [.text "SHOW", extended, full, .text "COLUMNS", ← showOptions]
  if ← keyword "TABLES" then
    let history ← optionalWords ["HISTORY"]
    return phrase [.text "SHOW", terse, extended, full, external, .text "TABLES", history,
      ← showOptions]
  if ← keywords ["MATERIALIZED", "VIEWS"] then
    return phrase [.text "SHOW", terse, .text "MATERIALIZED VIEWS", ← showOptions]
  if ← keyword "VIEWS" then return phrase [.text "SHOW", terse, .text "VIEWS", ← showOptions]
  if ← keyword "FUNCTIONS" then return phrase [.text "SHOW FUNCTIONS", ← showFilter]
  if !extended.isAbsent || !full.isAbsent then
    refuse "EXTENDED/FULL are not supported with this type of SHOW query"
  if ← keyword "CREATE" then
    let kind ← expectOneOf ["TABLE", "TRIGGER", "FUNCTION", "PROCEDURE", "EVENT", "VIEW"]
    return phrase [.text ("SHOW CREATE " ++ kind), ← namePart]
  if ← keyword "COLLATION" then return phrase [.text "SHOW COLLATION", ← showFilter]
  if ← keyword "VARIABLES" then
    return phrase [.text "SHOW", global, session, .text "VARIABLES", ← showFilter]
  if ← keyword "STATUS" then
    return phrase [.text "SHOW", global, session, .text "STATUS", ← showFilter]
  if ← keywords ["CHARACTER", "SET"] then
    return phrase [.text "SHOW CHARACTER SET", ← showFilter]
  if ← keyword "CHARSET" then return phrase [.text "SHOW CHARSET", ← showFilter]
  match ← oneOf ["DATABASES", "SCHEMAS"] with
  | some word =>
    let history ← optionalWords ["HISTORY"]
    return phrase [.text "SHOW", terse, .text word, history, ← showOptions]
  | none => return phrase (.text "SHOW" :: (← identifiersToEnd).map .ident)

/-! ## Rights -/

/-- The rights that may be limited to columns. -/
def columnRights : List String := ["INSERT", "REFERENCES", "SELECT", "UPDATE"]

/-- The other rights. -/
def plainRights : List (List String) :=
  [ ["IMPORTED", "PRIVILEGES"], ["ADD", "SEARCH", "OPTIMIZATION"], ["ATTACH", "LISTING"],
    ["ATTACH", "POLICY"], ["BIND", "SERVICE", "ENDPOINT"], ["EVOLVE", "SCHEMA"],
    ["IMPORT", "SHARE"], ["OVERRIDE", "SHARE", "RESTRICTIONS"],
    ["PURCHASE", "DATA", "EXCHANGE", "LISTING"], ["RESOLVE", "ALL"], ["READ", "SESSION"],
    ["APPLYBUDGET"], ["AUDIT"], ["CONNECT"], ["CREATE"], ["DELETE"], ["EXECUTE"], ["EXEC"],
    ["FAILOVER"], ["OPERATE"], ["OWNERSHIP"], ["READ"], ["REPLICATE"], ["TEMPORARY"], ["TEMP"],
    ["TRIGGER"], ["TRUNCATE"], ["USAGE"], ["WRITE"], ["DROP"], ["MODIFY"], ["MONITOR"],
    ["MANAGE"], ["CONTROL"] ]

/-- A right. -/
def rightPart : Rule Part := do
  match ← plainRights.findM? keywords with
  | some words => return .text (" ".intercalate words)
  | none =>
    match ← oneOf columnRights with
    | some word =>
      let columns ← optionalIdentifierList
      return .node .phrase [.text word, someParens (columns.map .ident)]
    | none =>
      if ← keywords ["DATABASE", "ROLE"] then return led "DATABASE ROLE" (← namePart)
      if ← keyword "ROLE" then return led "ROLE" (← namePart)
      unexpected "a privilege keyword" (← peek)

/-- A name in which an asterisk may stand for all. -/
def rightsName : Rule Part := do
  let found ← iterate ([] : ObjectName) fun found => do
    let t ← peek
    if t.token.isSymbol "*" then
      let _ ← next
      return (.ident ⟨"*", none, t.span⟩ :: found, ← symbol ".")
    let i ← identifier
    return (.ident i :: found, ← symbol ".")
  return .name found.reverse

/-- The things of a kind that rights are given to all at once. -/
def wholeKinds : List (List String) :=
  let inSchema := ["TABLES", "VIEWS", "SEQUENCES", "FUNCTIONS"].map ([·, "IN", "SCHEMA"])
  let more := [["EXTERNAL", "TABLES", "IN", "SCHEMA"], ["MATERIALIZED", "VIEWS", "IN", "SCHEMA"]]
  (inSchema ++ more).map ("ALL" :: ·) ++
    ((inSchema.take 3 ++ more ++ [["SCHEMAS", "IN", "DATABASE"]]).map ("FUTURE" :: ·)) ++
    [["RESOURCE", "MONITOR"], ["COMPUTE", "POOL"], ["FAILOVER", "GROUP"], ["REPLICATION", "GROUP"],
      ["EXTERNAL", "VOLUME"]]

/-- The things that rights are about: a kind and names. -/
def rightObjects : Rule (List Part) := do
  match ← wholeKinds.findM? keywords with
  | some words => return [.text "ON", .text (" ".intercalate words), ← names]
  | none =>
    let kind ← oneOf ["SEQUENCE", "DATABASE", "SCHEMA", "TABLE", "VIEW", "WAREHOUSE", "INTEGRATION",
      "USER", "CONNECTION", "PROCEDURE", "FUNCTION"]
    let found ← commaList rightsName
    match kind with
    | none | some "TABLE" => return [.text "ON", withCommas found]
    | some word =>
      if ["PROCEDURE", "FUNCTION"].contains word then
        let types ← if ← peekSymbol "(" then do
            pure (inParens (← parenthesized (commaList0 dataType ")")))
          else pure (.text "")
        return [.text "ON", .text word, .node .glued (found.take 1 ++ [types])]
      return [.text "ON", .text word, withCommas found]

/-- The rights and what they are about. -/
def rightsAndObjects : Rule (List Part) := do
  let rights ← if ← keyword "ALL" then do
      let word ← optionalWords ["PRIVILEGES"]
      pure (Part.node .phrase [.text "ALL", word])
    else do pure (withCommas (← commaList rightPart))
  if !(← keyword "ON") then return [rights]
  return rights :: (← rightObjects)

/-- Who the rights are given to. A kind holds for the names after it, too. -/
def grantees : Rule Part := do
  let kinds := [["ROLE"], ["USER"], ["SHARE"], ["GROUP"], ["PUBLIC"], ["DATABASE", "ROLE"],
    ["APPLICATION", "ROLE"], ["APPLICATION"]]
  let (found, _) ← iterate (([] : List Part), "") fun (found, before) => do
    let kind := ((← kinds.findM? keywords).map (" ".intercalate ·)).getD before
    let word := if kind == "" then Part.absent else .text (kind ++ " ")
    let grantee ← if kind == "PUBLIC" then pure word else do
      let name ← granteeName
      let more ← if ← symbol ":" then do pure [Part.text ":", .ident (← identifier)] else pure []
      pure (Part.node .glued (word :: name :: more))
    return ((grantee :: found, kind), ← symbol ",")
  return withCommas found.reverse

def grantedBy : Rule Part := do
  if ← keywords ["GRANTED", "BY"] then return led "GRANTED BY" (.ident (← identifier))
  return .absent

def grantRule : Rule Statement := do
  let rights ← rightsAndObjects
  let _ ← expectKeyword "TO"
  let users ← grantees
  let option ← optionalWords ["WITH", "GRANT", "OPTION"]
  let current ← match ← [["COPY", "CURRENT", "GRANTS"], ["REVOKE", "CURRENT", "GRANTS"]].findM? keywords with
    | some words => pure (Part.text (" ".intercalate words))
    | none => pure .absent
  let grantor ← after "AS" identifier
  return phrase (.text "GRANT" :: rights ++ [.text "TO", users, option, current,
    led "AS" (optional .ident grantor), ← grantedBy])

def revokeRule : Rule Statement := do
  let rights ← rightsAndObjects
  let _ ← expectKeyword "FROM"
  let users ← grantees
  let by_ ← grantedBy
  return phrase (.text "REVOKE" :: rights ++ [.text "FROM", users, by_, ← dropBehavior])

def denyRule : Rule Statement := do
  let rights ← rightsAndObjects
  if rights.length < 2 then refuse "DENY statements must specify an object" (← place)
  let _ ← expectKeyword "TO"
  let users ← grantees
  let cascade ← dropBehavior
  let grantor ← after "AS" identifier
  return phrase (.text "DENY" :: rights ++ [.text "TO", users, cascade,
    led "AS" (optional .ident grantor)])

/-! ## Transactions -/

def startRule : Rule Statement := do
  let _ ← expectKeyword "TRANSACTION"
  return phrase [.text "START TRANSACTION", ← transactionModes]

def beginRule : Rule Statement := do
  let kind ← optionalWord ["DEFERRED", "IMMEDIATE", "EXCLUSIVE", "TRY", "CATCH"]
  let word ← optionalWord ["TRANSACTION", "WORK", "TRAN"]
  return phrase [.text "BEGIN", kind, word, ← transactionModes]

def endRule : Rule Statement := do
  return phrase [.text "END", ← chainPart]

def commitRule : Rule Statement := return phrase [.text "COMMIT", ← chainPart]

def rollbackRule : Rule Statement := do
  let chain ← chainPart
  if ← keyword "TO" then
    let _ ← keyword "SAVEPOINT"
    return phrase [.text "ROLLBACK", chain, .text "TO SAVEPOINT", .ident (← identifier)]
  return phrase [.text "ROLLBACK", chain]

def savepointRule : Rule Statement := return phrase [.text "SAVEPOINT", .ident (← identifier)]

def releaseRule : Rule Statement := do
  let _ ← keyword "SAVEPOINT"
  return phrase [.text "RELEASE SAVEPOINT", .ident (← identifier)]

/-! ## Prepared statements and calls -/

def prepareRule : Rule Statement := do
  let name ← identifier
  let types ← if ← peekSymbol "(" then parenthesized (commaList dataType) else pure []
  let _ ← expectKeyword "AS"
  return phrase [.text "PREPARE", .ident name, someParens types, .text "AS",
    .statement (← statement)]

def executeRule : Rule Statement := do
  let name ← objectName
  let parens ← symbol "("
  let last ← peek
  let isBare := if parens then last.token.isSymbol ")"
    else last.token matches .finish || last.token.isSymbol ";" ||
      ["USING", "OUTPUT", "DEFAULT"].contains last.token.key
  let parameters ← if isBare then pure [] else commaList expr
  if parens then
    let _ ← expectSymbol ")"
  let list := parameters.map Part.expr
  let into ← after "INTO" (commaList identifier)
  let using_ ← after "USING" (commaList aliasedExpr)
  let output ← optionalWords ["OUTPUT"]
  let default ← optionalWords ["DEFAULT"]
  let called := if parens then Part.node .glued [.name name, inParens list]
    else .node .phrase [.name name, withCommas list]
  return phrase [.text "EXECUTE", called,
    led "INTO" (optional (fun is => withCommas (is.map .ident)) into),
    led "USING" (optional withCommas using_), output, default]

def deallocateRule : Rule Statement := do
  let word ← optionalWords ["PREPARE"]
  return phrase [.text "DEALLOCATE", word, .ident (← identifier)]

def callRule : Rule Statement := do
  let name ← objectName
  if ← peekSymbol "(" then return phrase [.text "CALL", .expr (← call name)]
  return phrase [.text "CALL", .name name]

def raiseErrorRule : Rule Statement := do
  let _ ← expectSymbol "("
  let message ← expr
  let _ ← expectSymbol ","
  let severity ← expr
  let _ ← expectSymbol ","
  let state ← expr
  let more ← if ← symbol "," then commaList expr else pure []
  let _ ← expectSymbol ")"
  let arguments := message :: severity :: state :: more
  let options ← if ← keyword "WITH" then
      commaList do return Part.text (← expectOneOf ["LOG", "NOWAIT", "SETERROR"])
    else pure []
  return phrase [.node .glued [.text "RAISERROR", inParens (arguments.map .expr)],
    if options.isEmpty then .absent else led "WITH" (withCommas options)]

def raiseRule : Rule Statement := do
  if ← keywords ["USING", "MESSAGE"] then
    let _ ← expectSymbol "="
    return phrase [.text "RAISE USING MESSAGE =", .expr (← expr)]
  return phrase [.text "RAISE", optional .expr (← attempt expr)]

def assertRule : Rule Statement := do
  let condition ← expr
  return phrase [.text "ASSERT", .expr condition, led "AS" (← exprAfter "AS")]

def printRule : Rule Statement := return phrase [.text "PRINT", .expr (← expr)]

def returnRule : Rule Statement := return phrase [.text "RETURN", optional .expr (← attempt expr)]

/-! ## Names and extensions -/

def renameRule : Rule Statement := do
  if !(← keyword "TABLE") then unexpected "KEYWORD \x60TABLE\x60 after RENAME" (← peek)
  let renamed ← commaList do
    let old ← namePart
    let _ ← expectKeyword "TO"
    return Part.node .phrase [old, .text "TO", ← namePart]
  return phrase [.text "RENAME TABLE", withCommas renamed]

def installRule : Rule Statement := return phrase [.text "INSTALL", .ident (← identifier)]

def loadRule : Rule Statement := return phrase [.text "LOAD", .ident (← identifier)]

def commentRule : Rule Statement := do
  let found ← ifExists
  let _ ← expectKeyword "ON"
  match ← oneOf ["COLUMN", "DATABASE", "DOMAIN", "EXTENSION", "FUNCTION", "INDEX", "MATERIALIZED",
      "PROCEDURE", "ROLE", "SCHEMA", "SEQUENCE", "TABLE", "TYPE", "USER", "VIEW"] with
  | some word =>
    if word == "MATERIALIZED" then let _ ← expectKeyword "VIEW"
    let kind := if word == "MATERIALIZED" then "MATERIALIZED VIEW" else word
    let name ← namePart
    let _ ← expectKeyword "IS"
    let text ← if ← keyword "NULL" then pure (Part.text "NULL")
      else do pure (quotedText (← literalString))
    return phrase [.text "COMMENT", found, .text ("ON " ++ kind), name, .text "IS", text]
  | none => unexpected "comment object_type" (← peek)

/-! ## Control flow -/

/-- Statements after a condition. The word that opens the block has been read. -/
def guardedBlock (hasCondition hasThen : Bool) (words : List String) : Rule Part := do
  let first ← lastRead
  let condition ← if hasCondition then do pure (Part.expr (← expr)) else pure .absent
  let then_ ← if hasThen then do
      let _ ← expectKeyword "THEN"
      pure (Part.text "THEN")
    else pure .absent
  return .node .phrase [.text first.token.show, condition, then_, ← statementBlock words]

def elseBlock : Rule Part := do
  if ← keyword "ELSE" then guardedBlock false false ["END"] else return .absent

def ifRule : Rule Statement := do
  let first ← guardedBlock true true ["ELSE", "ELSEIF", "END"]
  let others ← many do
    if ← keyword "ELSEIF" then return some (← guardedBlock true true ["ELSEIF", "ELSE", "END"])
    return none
  let last ← elseBlock
  expectKeywords ["END", "IF"]
  return phrase (first :: others ++ [last, .text "END IF"])

def caseRule : Rule Statement := do
  let subject ← if ← peekKeyword "WHEN" then pure Part.absent else do pure (.expr (← expr))
  let _ ← lookahead (expectKeyword "WHEN")
  let blocks ← many do
    if ← keyword "WHEN" then return some (← guardedBlock true true ["WHEN", "ELSE", "END"])
    return none
  let last ← elseBlock
  let _ ← expectKeyword "END"
  let closing ← optionalWords ["CASE"]
  return phrase ([.text "CASE", subject] ++ blocks ++ [last, .text "END", closing])

def whileRule : Rule Statement := return phrase [← guardedBlock true false ["END"]]

end ColumnMask.Sql
