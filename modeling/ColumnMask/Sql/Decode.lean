-- Reading trees from their JSON notation: queries and the three statements on rows,
-- with the expressions and clauses of everyday statements. Clauses that are not read
-- from JSON have to be empty there.
import ColumnMask.Json.Value
import ColumnMask.Sql.Encode
import ColumnMask.Sql.Grammar.Expressions
import ColumnMask.Sql.Grammar.Queries

namespace ColumnMask.Sql

/-! ## Fields -/

/-- Reads a value of the notation; nothing if the value has another shape. -/
abbrev Decoder (α : Type) := Json → Option α

/-- The value of a field that may be left out. -/
def fieldOrNull (j : Json) (name : String) : Json :=
  match j with
  | .object fields => ((fields.find? fun f => f.1 == name).map Prod.snd).getD .null
  | _ => .null

/-- Reads a field that has to be there. -/
def need {α : Type} (j : Json) (name : String) (d : Decoder α) : Option α :=
  match j with
  | .object fields => (fields.find? fun f => f.1 == name).bind fun f => d f.2
  | _ => none

/-- Reads a field that may be left out or be null. -/
def allow (j : Json) (name : String) (d : Decoder Part) : Option Part :=
  match fieldOrNull j name with
  | .null => some .absent
  | value => d value

/-- The name and the value of an object with one field. -/
def tagged? : Json → Option (String × Json)
  | .object [field] => some field
  | _ => none

def textOf? : Decoder String
  | .text s => some s
  | _ => none

def flagOf? : Decoder Bool
  | .bool b => some b
  | _ => none

def flagPart? (j : Json) : Option Part := (flagOf? j).map .flag

def natOf? : Decoder Nat
  | .number s => s.toNat?
  | _ => none

/-- Reads every item of a list. -/
def listOf? {α : Type} (d : Decoder α) : Decoder (List α)
  | .array items => items.mapM d
  | _ => none

/-- Reads a value unless it is null. -/
def optionOf? {α : Type} (d : Decoder α) : Decoder (Option α)
  | .null => some none
  | j => (d j).map some

/-- A clause that is empty: nothing, no flag or an empty list. -/
def emptyPart? : Decoder Part
  | .null => some .absent
  | .bool false => some (.flag false)
  | .array [] => some (.list [])
  | _ => none

/-- The empty clauses of the given names. -/
def emptyParts? (j : Json) (names : List String) : Option (List Part) :=
  names.mapM fun name => emptyPart? (fieldOrNull j name)

/-! ## Places, tokens and names -/

def decodePosition (j : Json) : Option Position := do
  return ⟨← need j "line" natOf?, ← need j "column" natOf?⟩

def decodeSpan (j : Json) : Option Span := do
  return ⟨← need j "start" decodePosition, ← need j "end" decodePosition⟩

/-- One character. -/
def singleChar? : Decoder Char
  | .text s => match s.toList with
    | [c] => some c
    | _ => none
  | _ => none

def decodeQuote (j : Json) : Option (Option Char) :=
  optionOf? singleChar? (fieldOrNull j "quote_style")

def decodeIdent (j : Json) : Option Ident := do
  return ⟨← need j "value" textOf?, ← decodeQuote j, ← need j "span" decodeSpan⟩

def decodeToken : Decoder Token
  | .text "Mul" => some (.symbol "*")
  | .text "RParen" => some (.symbol ")")
  | .text "EOF" => some .finish
  | .object [("Word", word)] => do
    return .ofWord (← need word "value" textOf?) (← decodeQuote word)
  | _ => none

def decodeAttached (j : Json) : Option Part := do
  return attached ⟨← need j "token" decodeToken, ← need j "span" decodeSpan⟩

/-- A number or a text. -/
def decodeValue : Decoder Value
  | .text "Null" => some .null
  | .object [("Number", .array [.text digits, .bool long])] => some (.number digits long)
  | .object [("SingleQuotedString", .text s)] => some (.text .plain s)
  | .object [("DoubleQuotedString", .text s)] => some (.text .wide s)
  | .object [("Boolean", .bool b)] => some (.boolean b)
  | .object [("Placeholder", .text s)] => some (.placeholder s)
  | _ => none

def decodeValueExpr (j : Json) : Option Expr := do
  return .ofValue (← need j "value" decodeValue) (← need j "span" decodeSpan)

def decodeFlavor : Decoder SelectFlavor
  | .text "Standard" => some .standard
  | .text "FromFirst" => some .fromFirst
  | .text "FromFirstNoSelect" => some .fromOnly
  | _ => none

def decodeOperator : Decoder Part
  | .text "And" => some (.choice "And" "AND")
  | .text "Or" => some (.choice "Or" "OR")
  | .text name => (binaryOperators.find? fun (_, n, _) => n == name).map fun (_, n, spelling) =>
      .choice n spelling
  | _ => none

def decodeSetOperator : Decoder SetOperator
  | .text "Union" => some .union
  | .text "Except" => some .except
  | .text "Intersect" => some .intersect
  | .text "Minus" => some .minus
  | _ => none

def decodeQuantifier : Decoder Part
  | .text "None" => some .absent
  | .text "All" => some (.choice "All" "ALL")
  | .text "Distinct" => some (.choice "Distinct" "DISTINCT")
  | .text "ByName" => some (.choice "ByName" "BY NAME")
  | .text "AllByName" => some (.choice "AllByName" "ALL BY NAME")
  | .text "DistinctByName" => some (.choice "DistinctByName" "DISTINCT BY NAME")
  | _ => none

def joinKind? (name : String) : Option JoinKind :=
  [JoinKind.join, .inner, .left, .leftOuter, .right, .rightOuter, .fullOuter, .cross, .semi,
    .leftSemi, .rightSemi, .anti, .leftAnti, .rightAnti, .straight].find? fun k => k.name == name

/-! ## Nodes -/

/-- The readers of nodes that other nodes hold. -/
structure TreeDecoder where
  expr : Decoder Expr
  query : Decoder Query
  body : Decoder Body
  tables : Decoder TableWithJoins

namespace TreeDecoder

variable (d : TreeDecoder)

def exprPart (j : Json) : Option Part := (d.expr j).map .expr

def argument (j : Json) : Option Part := do
  let ("Unnamed", value) ← tagged? j | none
  match value with
  | .text "Wildcard" => return unnamedArgument (.choice "Wildcard" "*")
  | .object [("Expr", e)] => return unnamedArgument (exprArgument (← d.expr e))
  | _ => none

def namePart (j : Json) : Option NamePart := do
  match ← tagged? j with
  | ("Identifier", i) => return .ident (← decodeIdent i)
  | ("Function", f) => return .call (← need f "name" decodeIdent) (← need f "args" (listOf? d.argument))
  | _ => none

def name : Decoder ObjectName := listOf? d.namePart

def namePartOf (j : Json) : Option Part := (d.name j).map .name

def orderItem (j : Json) : Option Part := do
  let e ← need j "expr" d.expr
  let options ← need j "options" fun o => do
    return orderOptionsPart (← optionOf? flagOf? (fieldOrNull o "asc"))
      (← optionOf? flagOf? (fieldOrNull o "nulls_first"))
  return .node .orderItem [.expr e, options, ← emptyPart? (fieldOrNull j "with_fill")]

def window (j : Json) : Option Part := do
  match ← tagged? j with
  | ("WindowSpec", w) =>
    let base ← allow w "window_name" fun i => (decodeIdent i).map .ident
    let partition ← need w "partition_by" (listOf? d.exprPart)
    let order ← need w "order_by" (listOf? d.orderItem)
    let frame ← emptyPart? (fieldOrNull w "window_frame")
    return .node .window [.node .windowSpec [base, .list partition, .list order, frame]]
  | ("NamedWindow", i) => return .node ⟨.newtype "NamedWindow", [.part 0]⟩ [.ident (← decodeIdent i)]
  | _ => none

def callArguments (j : Json) : Option Part :=
  match j with
  | .text "None" => some noArguments
  | .object [("Subquery", q)] => (d.query q).map queryArgument
  | .object [("List", l)] => do
    let duplicates ← match fieldOrNull l "duplicate_treatment" with
      | .null => some Part.absent
      | .text "Distinct" => some (.choice "Distinct" "DISTINCT")
      | .text "All" => some (.choice "All" "ALL")
      | _ => none
    let args ← need l "args" (listOf? d.argument)
    let clauses ← need l "clauses" emptyPart?
    return argumentList (.node .arguments [duplicates, .list args, clauses])
  | _ => none

def function (j : Json) : Option Expr := do
  return .form .function
    [← need j "name" d.namePartOf, ← need j "uses_odbc_syntax" flagPart?,
      ← need j "parameters" d.callArguments, ← need j "args" d.callArguments,
      ← allow j "filter" d.exprPart, ← emptyPart? (fieldOrNull j "null_treatment"),
      ← allow j "over" d.window, ← need j "within_group" emptyPart?]

/-- An expression of the name. -/
def exprOf (name : String) (j : Json) : Option Expr := do
  match name with
  | "Identifier" => return .column (← decodeIdent j)
  | "CompoundIdentifier" => return .qualified (← listOf? decodeIdent j)
  | "Value" => decodeValueExpr j
  | "BinaryOp" =>
    return .form .binary [← need j "left" d.exprPart, ← need j "op" decodeOperator,
      ← need j "right" d.exprPart]
  | "Nested" => return .form .nestedExpr [← d.exprPart j]
  | "Tuple" => return .form .exprTuple (← listOf? d.exprPart j)
  | "Subquery" => return .form .subquery [.query (← d.query j)]
  | "InSubquery" =>
    return .form .inSubquery [← need j "expr" d.exprPart,
      .query (← need j "subquery" d.query), ← need j "negated" flagPart?]
  | "Function" => d.function j
  | _ => none

def aliasColumn (j : Json) : Option Part := do
  return .node .aliasColumn [.ident (← need j "name" decodeIdent),
    ← emptyPart? (fieldOrNull j "data_type")]

def label (j : Json) : Option Alias :=
  match j with
  | .null => some .absent
  | j => do
    return .named (← need j "explicit" flagOf?) (← need j "name" decodeIdent)
      (← need j "columns" (listOf? aliasColumn))

/-- A table factor of the name. -/
def factorOf (kind : String) (j : Json) : Option TableFactor := do
  match kind with
  | "Table" =>
    return .table (← need j "name" d.name) (← label (fieldOrNull j "alias"))
      (← emptyParts? j ["args", "with_hints", "version", "with_ordinality", "partitions",
        "json_path", "sample", "index_hints"])
  | "Derived" =>
    return .derived (← need j "lateral" flagOf?) (← need j "subquery" d.query)
      (← label (fieldOrNull j "alias"))
  | "NestedJoin" =>
    return .nested (← need j "table_with_joins" d.tables) (← label (fieldOrNull j "alias"))
  | _ => none

def factor (j : Json) : Option TableFactor := do
  let (kind, value) ← tagged? j
  d.factorOf kind value

def joinConstraint : Decoder JoinConstraint
  | .text "Natural" => some .natural
  | .text "None" => some .absent
  | .object [("On", e)] => (d.expr e).map .on
  | .object [("Using", names)] => (listOf? d.name names).map .using
  | _ => none

def join (j : Json) : Option Join := do
  let relation ← need j "relation" d.factor
  let global ← need j "global" flagOf?
  match ← need j "join_operator" some with
  | .text "CrossApply" => return .apply relation global false
  | .text "OuterApply" => return .apply relation global true
  | .object [("AsOf", value)] =>
    return .asOf relation global (← need value "match_condition" d.expr)
      (← need value "constraint" d.joinConstraint)
  | .object [(kind, value)] =>
    return .constrained relation global (← joinKind? kind) (← d.joinConstraint value)
  | _ => none

/-- A source of rows and what is joined to it. -/
def tablesOf (j : Json) : Option TableWithJoins := do
  return .mk (← need j "relation" d.factor) (← need j "joins" (listOf? d.join))

def starOptions (j : Json) : Option Part := do
  let token ← need j "wildcard_token" decodeAttached
  return .node .starOptions (token :: (← emptyParts? j
    ["opt_ilike", "opt_exclude", "opt_except", "opt_replace", "opt_rename"]))

def item (j : Json) : Option SelectItem := do
  match ← tagged? j with
  | ("UnnamedExpr", e) => return .plain (← d.expr e)
  | ("ExprWithAlias", a) => return .aliased (← need a "expr" d.expr) (← need a "alias" decodeIdent)
  | ("Wildcard", options) => return .form .wildcard [← starOptions options]
  | _ => none

def items : Decoder (List SelectItem) := listOf? d.item

/-- The items after RETURNING. -/
def returning : Decoder Part
  | .null => some .absent
  | j => (d.items j).map fun found => listOf .item found

def groups (j : Json) : Option Part := do
  let ("Expressions", .array [found, modifiers]) ← tagged? j | none
  let found ← listOf? d.expr found
  let .list [] ← emptyPart? modifiers | none
  return if found.isEmpty then noGroups else groupItems found []

def select (j : Json) : Option Select := do
  let head ← emptyParts? j ["distinct", "top", "top_before_distinct"]
  let middle ← emptyParts? j ["exclude", "into"]
  let views ← need j "lateral_views" emptyPart?
  let prewhere ← allow j "prewhere" d.exprPart
  let selection ← allow j "selection" d.exprPart
  let groups ← need j "group_by" d.groups
  let sorts ← emptyParts? j ["cluster_by", "distribute_by", "sort_by"]
  let having ← allow j "having" d.exprPart
  let windows ← need j "named_window" emptyPart?
  let qualify ← allow j "qualify" d.exprPart
  let order ← need j "window_before_qualify" flagPart?
  let mode ← emptyPart? (fieldOrNull j "value_table_mode")
  let connected ← emptyPart? (fieldOrNull j "connect_by")
  return .mk (← need j "flavor" decodeFlavor) mode
    ((← need j "select_token" decodeAttached) :: head) (← need j "projection" d.items) middle
    (← need j "from" (listOf? d.tables))
    ([views, prewhere, selection, groups] ++ sorts ++ [having, windows, qualify, order, connected])

def values (j : Json) : Option Body := do
  let isRow ← need j "explicit_row" flagOf?
  let short ← need j "value_keyword" flagPart?
  let rows ← need j "rows" (listOf? fun row => (listOf? d.exprPart row).map (Part.node .parens))
  return .form (if isRow then .rowValues else .values) [.flag isRow, short, .list rows]

/-- A body of the name. -/
def bodyOf (name : String) (j : Json) : Option Body := do
  match name with
  | "Select" => return .select (← d.select j)
  | "Query" => return .query (← d.query j)
  | "Values" => d.values j
  | "SetOperation" =>
    return .setOperation (← need j "left" d.body) (← need j "op" decodeSetOperator)
      (← need j "set_quantifier" decodeQuantifier) (← need j "right" d.body)
  | _ => none

def cte (j : Json) : Option Part := do
  return .node .cte [.label (← need j "alias" label), .query (← need j "query" d.query),
    ← allow j "from" fun i => (decodeIdent i).map .ident,
    ← emptyPart? (fieldOrNull j "materialized"), ← need j "closing_paren_token" decodeAttached]

def ctes (j : Json) : Option Part := do
  return .node .ctes [← need j "with_token" decodeAttached, ← need j "recursive" flagPart?,
    .list (← need j "cte_tables" (listOf? d.cte))]

def order (j : Json) : Option Part := do
  let items ← need j "kind" fun kind => do
    let ("Expressions", items) ← tagged? kind | none
    listOf? d.orderItem items
  return orderByPart items (← emptyPart? (fieldOrNull j "interpolate"))

def offset (j : Json) : Option Part := do
  let rows ← need j "rows" fun
    | .text "None" => some (Part.choice "None" "")
    | .text "Row" => some (.choice "Row" " ROW")
    | .text "Rows" => some (.choice "Rows" " ROWS")
    | _ => none
  return .node .offset [← need j "value" d.exprPart, rows]

def limit (j : Json) : Option Part := do
  match ← tagged? j with
  | ("LimitOffset", l) =>
    return .node .limitOffset [← allow l "limit" d.exprPart, ← allow l "offset" d.offset,
      .list (← need l "limit_by" (listOf? d.exprPart))]
  | ("OffsetCommaLimit", l) =>
    return .node .offsetComma [← need l "offset" d.exprPart, ← need l "limit" d.exprPart]
  | _ => none

/-- A query. -/
def queryOf (j : Json) : Option Query := do
  let ctes ← allow j "with" d.ctes
  let body ← need j "body" d.body
  let order ← allow j "order_by" d.order
  let limit ← allow j "limit_clause" d.limit
  let fetch ← emptyPart? (fieldOrNull j "fetch")
  let locks ← need j "locks" emptyPart?
  let rest ← emptyParts? j ["for_clause", "settings", "format_clause"]
  let pipes ← need j "pipe_operators" emptyPart?
  return .mk ctes body ([order, limit, fetch, locks] ++ rest ++ [pipes])

end TreeDecoder

/-- The reader of nodes that are nested up to `n` deep. -/
def TreeDecoder.level : Nat → TreeDecoder
  | 0 =>
    { expr := fun _ => none
      query := fun _ => none
      body := fun _ => none
      tables := fun _ => none }
  | n + 1 =>
    { expr := fun j => do
        let (name, value) ← tagged? j
        (TreeDecoder.level n).exprOf name value
      query := fun j => (TreeDecoder.level n).queryOf j
      body := fun j => do
        let (name, value) ← tagged? j
        (TreeDecoder.level n).bodyOf name value
      tables := fun j => (TreeDecoder.level n).tablesOf j }

/-! ## Statements -/

namespace TreeDecoder

variable (d : TreeDecoder)

def target (j : Json) : Option Target := do
  match ← tagged? j with
  | ("ColumnName", n) => return .name (← d.name n)
  | ("Tuple", ns) => return .tuple (← listOf? d.name ns)
  | _ => none

def assignment (j : Json) : Option Assignment := do
  return .mk (← need j "target" d.target) (← need j "value" d.expr)

def conflictTarget : Decoder ConflictTarget
  | .null => some .absent
  | .object [("Columns", columns)] => (listOf? decodeIdent columns).map .columns
  | .object [("OnConstraint", n)] => (d.name n).map .constraint
  | _ => none

def onInsert : Decoder OnInsert
  | .null => some .absent
  | .object [("DuplicateKeyUpdate", assignments)] =>
    (listOf? d.assignment assignments).map .duplicateKey
  | .object [("OnConflict", j)] => do
    let target ← d.conflictTarget (fieldOrNull j "conflict_target")
    match ← need j "action" some with
    | .text "DoNothing" => return .conflictNothing target
    | .object [("DoUpdate", update)] =>
      return .conflictUpdate target (← need update "assignments" (listOf? d.assignment))
        (← allow update "selection" d.exprPart)
    | _ => none
  | _ => none

def insert (j : Json) : Option Statement := do
  let first ← need j "insert_token" decodeAttached
  let table ← need j "table" fun t => do
    let ("TableName", n) ← tagged? t | none
    return insertTable (← d.name n)
  let head := [first, ← emptyPart? (fieldOrNull j "or"), ← need j "ignore" flagPart?,
    ← need j "into" flagPart?, table, ← emptyPart? (fieldOrNull j "table_alias")]
  let source ← allow j "source" fun q => (d.query q).map .query
  let assignments ← need j "assignments" (listOf? d.assignment)
  let partitions ← allow j "partitioned" fun p => (listOf? d.exprPart p).map .list
  let later ← need j "after_columns" (listOf? decodeIdent)
  let middle := [← need j "overwrite" flagPart?, source, listOf .assignment assignments,
    partitions, listOf .ident later, ← need j "has_table_keyword" flagPart?]
  let on ← d.onInsert (fieldOrNull j "on")
  let returning ← d.returning (fieldOrNull j "returning")
  let clauses := [returning, ← need j "replace_into" flagPart?,
    ← emptyPart? (fieldOrNull j "priority")] ++
      (← emptyParts? j ["insert_alias", "settings", "format_clause"])
  return .insert head (← need j "columns" (listOf? decodeIdent)) middle on clauses

def updateSource : Decoder TableClause
  | .null => some .absent
  | .object [("BeforeSet", tables)] => (listOf? d.tables tables).map (.present .beforeSet)
  | .object [("AfterSet", tables)] => (listOf? d.tables tables).map (.present .afterSet)
  | _ => none

def update (j : Json) : Option Statement := do
  let head := [← need j "update_token" decodeAttached]
  let clauses := [← allow j "selection" d.exprPart, ← d.returning (fieldOrNull j "returning"),
    ← emptyPart? (fieldOrNull j "or"), ← allow j "limit" d.exprPart]
  return .update head (← need j "table" d.tables) (← need j "assignments" (listOf? d.assignment))
    (← d.updateSource (fieldOrNull j "from")) clauses

def deleteSource : Decoder TableClause
  | .object [("WithFromKeyword", tables)] => (listOf? d.tables tables).map (.present .fromKeyword)
  | .object [("WithoutKeyword", tables)] =>
    (listOf? d.tables tables).map (.present .withoutKeyword)
  | _ => none

def delete (j : Json) : Option Statement := do
  let head := [← need j "delete_token" decodeAttached,
    .list (← need j "tables" (listOf? d.namePartOf))]
  let others ← match fieldOrNull j "using" with
    | .null => some TableClause.absent
    | tables => (listOf? d.tables tables).map (.present .usingList)
  let clauses := [← allow j "selection" d.exprPart, ← d.returning (fieldOrNull j "returning"),
    .list (← need j "order_by" (listOf? d.orderItem)), ← allow j "limit" d.exprPart]
  return .delete head (← need j "from" d.deleteSource) others clauses

def statement (j : Json) : Option Statement := do
  match ← tagged? j with
  | ("Query", q) => return .query (← d.query q)
  | ("Insert", s) => d.insert s
  | ("Update", s) => d.update s
  | ("Delete", s) => d.delete s
  | _ => none

end TreeDecoder

/-- The statements of a list in the JSON notation. A node within a node is nested more deeply in
the JSON value, too, so the depth of the value bounds the levels. -/
def decodeStatements (j : Json) : Option (List Statement) :=
  listOf? (TreeDecoder.level j.depth).statement j

end ColumnMask.Sql
