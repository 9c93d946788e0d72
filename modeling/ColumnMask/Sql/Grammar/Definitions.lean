-- The definitions of what holds rows: tables, external and virtual tables, views, and
-- the indexes on them.
import ColumnMask.Sql.Grammar.Constraints

namespace ColumnMask.Sql

/-! ## Storage -/

/-- What separates the fields of a row in a file. -/
def rowDelimiter : Rule (Option Part) := do
  let ended (words : String) : Rule Part := return led words (← identPart)
  if ← keywords ["FIELDS", "TERMINATED", "BY"] then
    let fields ← ended "FIELDS TERMINATED BY"
    return some (.node .phrase [fields, ← clause ["ESCAPED", "BY"] identPart])
  let kinds := [["COLLECTION", "ITEMS", "TERMINATED", "BY"], ["MAP", "KEYS", "TERMINATED", "BY"],
    ["LINES", "TERMINATED", "BY"], ["NULL", "DEFINED", "AS"]]
  match ← kinds.findM? keywords with
  | some words => return some (← ended (" ".intercalate words))
  | none => return none

/-- How the rows of a file are written. -/
def rowFormat : Rule Part := do
  let _ ← expectKeyword "FORMAT"
  match ← oneOf ["SERDE", "DELIMITED"] with
  | some "SERDE" => return .text ("ROW FORMAT SERDE '" ++ (← literalString) ++ "'")
  | _ => return .node .phrase (.text "ROW FORMAT DELIMITED" :: (← many rowDelimiter))

/-- How and where the rows of a table are stored. -/
structure Storage where
  rows : Part := .absent
  format : Part := .absent
  properties : Part := .absent
  location : Part := .absent

/-- The storage of a table in a file. -/
def storage : Rule Storage :=
  iterate ({} : Storage) fun s => do
    let start ← get
    match ← oneOf ["ROW", "STORED", "LOCATION", "WITH"] with
    | some "ROW" => return ({ s with rows := ← rowFormat }, true)
    | some "STORED" =>
      let _ ← expectKeyword "AS"
      if ← keyword "INPUTFORMAT" then
        let input ← expr
        let _ ← expectKeyword "OUTPUTFORMAT"
        let output ← expr
        let format := Part.node .phrase [.text "STORED AS INPUTFORMAT", .expr input,
          .text "OUTPUTFORMAT", .expr output]
        return ({ s with format }, true)
      return ({ s with format := led "STORED AS" (← fileFormat) }, true)
    | some "LOCATION" =>
      return ({ s with location := .text ("LOCATION '" ++ (← literalString) ++ "'") }, true)
    | some _ =>
      if ← keyword "SERDEPROPERTIES" then
        let properties ← sqlOptions
        if !properties.isEmpty then
          return ({ s with properties := led "WITH SERDEPROPERTIES" (inParens properties) }, true)
        return (s, false)
      set start
      return (s, false)
    | none => return (s, false)

/-- A column that partitions a table; its type may be left out. -/
def partitionColumn : Rule Part := do
  let name ← identifier
  let type ← attempt dataType
  let options ← many (inMode .columnDefinition columnOption)
  return .node .phrase (.ident name :: optional id type :: options)

/-- The columns that a table is partitioned by. -/
def partitionColumns : Rule Part :=
  clause ["PARTITIONED", "BY"] do return inParens (← parenthesized (commaList partitionColumn))

/-- The columns that a table is divided into buckets by. -/
def clusteredBy : Rule Part := do
  if !(← keywords ["CLUSTERED", "BY"]) then return .absent
  let columns ← identifierList
  let order ← clause ["SORTED", "BY"] do return inParens (← parenthesized (commaList orderItem))
  let _ ← expectKeyword "INTO"
  let count ← numberValue
  let _ ← expectKeyword "BUCKETS"
  return .node .phrase [.text "CLUSTERED BY", inParens (columns.map .ident), order, .text "INTO",
    .value count, .text "BUCKETS"]

/-! ## Options of a table -/

/-- The names of the options that have a value. -/
def valuedOptions : List (List String) :=
  [ ["DEFAULT", "CHARSET"], ["CHARSET"], ["DEFAULT", "CHARACTER", "SET"], ["CHARACTER", "SET"],
    ["DEFAULT", "COLLATE"], ["COLLATE"], ["DATA", "DIRECTORY"], ["INDEX", "DIRECTORY"],
    ["KEY_BLOCK_SIZE"], ["ROW_FORMAT"], ["PACK_KEYS"], ["STATS_AUTO_RECALC"],
    ["STATS_PERSISTENT"], ["STATS_SAMPLE_PAGES"], ["DELAY_KEY_WRITE"], ["COMPRESSION"],
    ["ENCRYPTION"], ["MAX_ROWS"], ["MIN_ROWS"], ["AUTOEXTEND_SIZE"], ["AVG_ROW_LENGTH"],
    ["CHECKSUM"], ["CONNECTION"], ["ENGINE_ATTRIBUTE"], ["PASSWORD"],
    ["SECONDARY_ENGINE_ATTRIBUTE"], ["INSERT_METHOD"], ["AUTO_INCREMENT"] ]

/-- A word that an option is set to. -/
def optionWord (t : Located) : Rule String :=
  match t.token with
  | .word value _ _ => pure value
  | _ => unexpected "Token::Word" t

/-- The space that a table is kept in. -/
def tablespaceOption : Rule Part := do
  let _ ← symbol "="
  let t ← next
  let name ← match t.token with
    | .literal .plain text => pure text
    | _ => optionWord t
  if !(← keyword "STORAGE") then return .text ("TABLESPACE " ++ name)
  let _ ← symbol "="
  let kind ← next
  let word := (← optionWord kind).toUpper
  if word == "DISK" || word == "MEMORY" then
    return .text ("TABLESPACE " ++ name ++ " STORAGE " ++ word)
  unexpected "Storage type (DISK or MEMORY)" kind

/-- An option of a table without parentheses around it, if one comes next. -/
def plainOption : Rule (Option Part) := do
  if ← keywords ["START", "TRANSACTION"] then return some (.text "START TRANSACTION")
  if ← keyword "COMMENT" then
    let equals ← symbol "="
    let t ← next
    match t.token with
    | .literal .plain text =>
      return some (.text ((if equals then "COMMENT = '" else "COMMENT '") ++ text ++ "'"))
    | token => unexpected "Token::SingleQuotedString" ⟨token, .nowhere⟩
  if ← keyword "ENGINE" then
    let _ ← symbol "="
    let name ← optionWord (← next)
    let parameters ← optionalIdentifierList
    return some (.node .glued [.text ("ENGINE = " ++ name), someParens (parameters.map .ident)])
  if ← keyword "TABLESPACE" then return some (← tablespaceOption)
  if ← keyword "UNION" then
    let _ ← symbol "="
    let t ← next
    if !t.token.isSymbol "(" then unexpected "Token::LParen" t
    let tables ← commaList0 identifier ")"
    let _ ← expectSymbol ")"
    return some (.node .glued [.text "UNION = ", someParens (tables.map .ident)])
  match ← valuedOptions.findM? keywords with
  | some words =>
    let _ ← symbol "="
    let value ← match ← attempt valueExpr with
      | some e => pure e
      | none => do pure (.column (← identifier))
    return some (.node .phrase [.text (" ".intercalate words ++ " ="), .expr value])
  | none => return none

/-- The options of a table without parentheses; commas may stand between them. -/
def plainOptions : Rule Part := do
  let found ← many do
    let o ← plainOption
    if o.isSome then let _ ← symbol ","
    return o
  return .node .phrase found

/-- What a table is set to, besides its columns. -/
structure TableSettings where
  inherited : Part := .absent
  options : Part := .absent
  partition : Part := .absent
  cluster : Part := .absent
  bracketed : Part := .absent

def tableSettings : Rule TableSettings := do
  let inherited ← clause ["INHERITS"] do return inParens ((← nameList).map .name)
  let withOptions ← optionsAfter "WITH"
  let properties ← optionsAfter "TBLPROPERTIES"
  let partition ← clause ["PARTITION", "BY"] exprPart
  let cluster ← clause ["CLUSTER", "BY"] do return withCommas ((← commaList expr).map .expr)
  let hasOptions ← peekKeyword "OPTIONS"
  let bracketed ← if hasOptions then do
      let _ ← next
      pure (Part.node .glued [.text "OPTIONS", inParens (← sqlOptions)])
    else pure .absent
  let given := if properties.isAbsent then withOptions else properties
  let options ← if hasOptions then pure .absent
    else if given.isAbsent then plainOptions else pure given
  return { inherited, options, partition, cluster, bracketed }

/-! ## Tables -/

/-- What becomes of the rows when a transaction ends. -/
def onCommit : Rule Part :=
  clause ["ON", "COMMIT"] do
    match ← optionalChoice [["DELETE", "ROWS"], ["PRESERVE", "ROWS"], ["DROP"]] with
    | .absent => unexpected "DELETE ROWS, PRESERVE ROWS, or DROP" (← peek)
    | p => return p

/-- The order that the rows of a table are kept in. -/
def keptOrder : Rule Part :=
  clause ["ORDER", "BY"] do
    if ← symbol "(" then
      let items ← commaList0 expr ")"
      let _ ← expectSymbol ")"
      return inParens (items.map .expr)
    exprPart

/-- Parts with blanks between them that are shown in another order than they are visited in. -/
def reordered (order : List Nat) (parts : List Part) : Statement :=
  .other ⟨.array, [.joined " " (order.map .part)]⟩ parts

def createTable (opening : List Part) : Rule Statement := do
  let missing ← ifNotExists
  let table ← relationPart
  let servers ← onCluster
  let hasModel := (← oneOf ["LIKE", "ILIKE"]).isSome
  let like ← if hasModel then do pure (some (← objectName)) else pure none
  let copied ← if ← keyword "CLONE" then attempt objectName else pure none
  let columns ← tableColumns
  let rowid ← optionalWords ["WITHOUT", "ROWID"]
  let partitioned ← partitionColumns
  let buckets ← clusteredBy
  let stored ← storage
  let settings ← tableSettings
  let key ← clause ["PRIMARY", "KEY"] exprPart
  let order ← keptOrder
  let commit ← onCommit
  let strict ← optionalWords ["STRICT"]
  let source ← asQuery
  let isBare := columns.isAbsent && source.isAbsent && like.isNone && copied.isNone
  let head := Part.node .phrase (opening ++ [.text "TABLE", missing])
  let file := Part.node .phrase [stored.rows, stored.format, stored.properties, stored.location]
  return reordered [0, 1, 2, 3, 8, 9, 10, 4, 15, 5, 6, 11, 12, 16, 13, 14, 17, 18, 19, 7]
    [ head, table, servers, if isBare then .text "()" else columns, partitioned, file,
      .node .phrase [settings.options], source, rowid, led "LIKE" (optional .name like),
      led "CLONE" (optional .name copied), key, order, settings.partition, settings.cluster, buckets,
      settings.inherited, settings.bracketed, commit, strict ]

/-- A table whose rows are kept elsewhere. -/
def createExternalTable (opening : List Part) : Rule Statement := do
  let _ ← expectKeyword "TABLE"
  let missing ← ifNotExists
  let table ← relationPart
  let columns ← tableColumns
  let partitioned ← partitionColumns
  let stored ← storage
  let properties ← optionsAfter "TBLPROPERTIES"
  return phrase (opening ++ [.text "EXTERNAL TABLE", missing, table,
    if columns.isAbsent then .text "()" else columns, partitioned, stored.rows,
    stored.properties, stored.format, stored.location, properties])

def createVirtualTable : Rule Statement := do
  let _ ← expectKeyword "TABLE"
  let missing ← ifNotExists
  let table ← relationPart
  let _ ← expectKeyword "USING"
  let kind ← identifier
  let arguments ← optionalIdentifierList
  return phrase [.text "CREATE VIRTUAL TABLE", missing, table, .text "USING", .ident kind,
    someParens (arguments.map .ident)]

/-! ## Views -/

/-- How a view is computed and with whose rights. -/
def viewSettings : Rule Part := do
  let algorithm ← if ← keyword "ALGORITHM" then do
      let _ ← expectSymbol "="
      pure (Part.text ("ALGORITHM = " ++ (← expectOneOf ["UNDEFINED", "MERGE", "TEMPTABLE"])))
    else pure .absent
  let definer ← if ← keyword "DEFINER" then do
      let _ ← expectSymbol "="
      pure (led "DEFINER =" (← granteeName))
    else pure .absent
  let security ← clause ["SQL", "SECURITY"] do
    return .text (← expectOneOf ["DEFINER", "INVOKER"])
  return .node .phrase [algorithm, definer, security]

/-- A column of a view, with its options. -/
def viewColumn : Rule Part := do
  let name ← identifier
  match ← many (inMode .columnDefinition columnOption) with
  | [] => return .ident name
  | options => return .node .phrase [.ident name, withCommas options]

/-- The columns of a view, or nothing. -/
def viewColumns : Rule Part := do
  if !(← symbol "(") then return .absent
  let columns ← commaList0 viewColumn ")"
  let _ ← expectSymbol ")"
  return someParens columns

def createView (opening : List Part) (settings : Part) (temporary : Part) : Rule Statement := do
  let secure ← optionalWords ["SECURE"]
  let materialized ← optionalWords ["MATERIALIZED"]
  let _ ← expectKeyword "VIEW"
  let early ← ifNotExists
  let name ← namePart
  let late ← if early.isAbsent then ifNotExists else pure .absent
  let columns ← viewColumns
  let options ← optionsAfter "WITH"
  let cluster ← if ← keyword "CLUSTER" then do
      let _ ← expectKeyword "BY"
      pure (led "CLUSTER BY" (someParens ((← optionalIdentifierList).map .ident)))
    else pure .absent
  let bracketed ← optionsAfter "OPTIONS"
  let target ← clause ["TO"] namePart
  let comment ← if ← keyword "COMMENT" then do
      let _ ← expectSymbol "="
      pure (led "COMMENT =" (quotedText (← commentText)))
    else pure .absent
  let _ ← expectKeyword "AS"
  let q ← query
  let binding ← optionalWords ["WITH", "NO", "SCHEMA", "BINDING"]
  let options := if bracketed.isAbsent then options else .absent
  return phrase (opening ++ [settings, secure, materialized, temporary, .text "VIEW", early, name,
    late, target, columns, options, comment, cluster, bracketed, .text "AS", .query q, binding])

/-! ## Indexes -/

/-- How an index is built while its table is used. -/
def buildOption : Rule (Option Part) := do
  match ← oneOf ["ALGORITHM", "LOCK"] with
  | some word =>
    let equals ← symbol "="
    let values := if word == "LOCK" then ["DEFAULT", "EXCLUSIVE", "NONE", "SHARED"]
      else ["DEFAULT", "INSTANT", "INPLACE", "COPY"]
    match ← oneOf values with
    | some value => return some (.text (word ++ (if equals then " = " else " ") ++ value))
    | none =>
      unexpected (if word == "LOCK" then "DEFAULT, EXCLUSIVE, NONE or SHARED after LOCK [=]"
        else "DEFAULT, INSTANT, INPLACE, or COPY after ALGORITHM [=]") (← peek)
  | none => return none

def createIndex (unique : Bool) : Rule Statement := do
  let concurrently ← optionalWords ["CONCURRENTLY"]
  let missing ← ifNotExists
  let (name, early) ← if !(← pure missing.isAbsent <&&> keyword "ON") then do
      let name ← objectName
      let kind ← indexKind
      let _ ← expectKeyword "ON"
      pure (some name, kind)
    else pure (none, .absent)
  let table ← relationPart
  let late ← indexKind
  let columns ← indexColumns
  let include_ ← clause ["INCLUDE"] do
    return .node ⟨.array, [.word "(", .all ",", .word ")"]⟩
      ((← parenthesized (commaList identifier)).map .ident)
  let nulls ← nullsDistinct
  let parameters ← clause ["WITH"] conditionsPart
  let filter ← clause ["WHERE"] exprPart
  let options ← indexOptions
  let building ← many buildOption
  let kind := if late.isAbsent then early else late
  let target := if kind.isAbsent then Part.node .glued [table, columns]
    else .node .phrase [table, kind, columns]
  return phrase ([.text "CREATE", wordIf unique "UNIQUE", .text "INDEX", concurrently, missing,
    optional .name name, .text "ON", target, include_, nulls, parameters, filter] ++ options ++
    building)

end ColumnMask.Sql
