-- Queries: WITH, the body with its set operations, the clauses after the body, and the
-- operators of a pipe.
import ColumnMask.Sql.Grammar.Rows

namespace ColumnMask.Sql

/-! ## Set operations -/

/-- ALL, DISTINCT and BY NAME after a set operator. -/
def setQuantifier : Rule Part := do
  if ← keywords ["DISTINCT", "BY", "NAME"] then return .choice "DistinctByName" "DISTINCT BY NAME"
  if ← keywords ["BY", "NAME"] then return .choice "ByName" "BY NAME"
  if ← keyword "ALL" then
    if ← keywords ["BY", "NAME"] then return .choice "AllByName" "ALL BY NAME"
    return .choice "All" "ALL"
  if ← keyword "DISTINCT" then return .choice "Distinct" "DISTINCT"
  return .absent

/-- A set operator and its precedence. -/
def setOperator? (key : String) : Option (SetOperator × Nat) :=
  match key with
  | "UNION" => some (.union, 10)
  | "EXCEPT" => some (.except, 10)
  | "MINUS" => some (.minus, 10)
  | "INTERSECT" => some (.intersect, 20)
  | _ => none

/-! ## Bodies -/

/-- TABLE and a name. Two more tokens are read after a name without schema. -/
def tableBody : Rule Body := do
  let first ← next
  let second ← next
  let third ← next
  let named (wanted : String) (t : Located) : Rule String :=
    match t.token with
    | .word value _ _ => pure value
    | _ => unexpected wanted t
  let form : Form := ⟨.variant "Table" ["table_name", "schema_name"],
    [.word "TABLE ", .opt 1 "" ".", .part 0]⟩
  if second.token.isSymbol "." then
    let schema ← named "Schema name" first
    let name ← named "Table name" third
    return .form form [.text name, .text schema]
  return .form form [.text (← named "Table name" first), .absent]

/-- The part of a body before a set operator. -/
def plainBody : Rule Body := do
  if (← peekKeyword "SELECT") || (← peekKeyword "FROM") then return .select (← selectBlock)
  if ← symbol "(" then
    let q ← query
    let _ ← expectSymbol ")"
    return .query q
  if ← keyword "VALUES" then return ← valuesBody false
  if ← keyword "VALUE" then return ← valuesBody true
  if ← keyword "TABLE" then return ← tableBody
  unexpected "SELECT, VALUES, or a subquery in the query body" (← peek)

/-- A body whose set operators bind more strongly than the precedence. -/
def bodyRule (precedence : Nat) : Rule Body := do
  let first ← plainBody
  iterate first fun left => do
    match setOperator? (← peek).token.key with
    | some (operator, strength) =>
      if precedence ≥ strength then return (left, false)
      let _ ← next
      let quantifier ← setQuantifier
      let right ← body strength
      return (.setOperation left operator quantifier right, true)
    | none => return (left, false)

/-! ## WITH -/

/-- A named query of a WITH clause. -/
def Form.cte : Form :=
  ⟨.record ["alias", "query", "from", "materialized", "closing_paren_token"],
    [.part 0, .word " AS (", .part 1, .word ")", .opt 2 " FROM " ""]⟩

/-- The queries that WITH names. -/
def Form.ctes : Form :=
  ⟨.record ["with_token", "recursive", "cte_tables"],
    [.word "WITH ", .flag 1 "RECURSIVE " "", .list 2 ", "]⟩

def cte : Rule Part := do
  let name ← identifier
  let columns ← if ← peekKeyword "AS" then pure [] else aliasColumns
  let _ ← expectKeyword "AS"
  let _ ← expectSymbol "("
  let q ← query
  let closing ← expectSymbol ")"
  let source ← after "FROM" identifier
  return .node .cte [.label (.named false name columns), .query q, optional .ident source, .absent, attached closing]

def withClause : Rule Part := do
  if !(← keyword "WITH") then return .absent
  let first ← lastRead
  let recursive ← keyword "RECURSIVE"
  let ctes ← commaList cte
  return .node .ctes [attached first, .flag recursive, .list ctes]

/-! ## Order and limits -/

def interpolation : Rule Part := do
  if !(← keyword "INTERPOLATE") then return .absent
  let fields := ["exprs"]
  if ← symbol "(" then
    let items ← commaList0 (do
      let column ← identifier
      return Part.node ⟨.record ["column", "expr"], [.part 0, .opt 1 " AS " ""]⟩
        [.ident column, ← exprAfter "AS"]) ")"
    let _ ← expectSymbol ")"
    return .node ⟨.record fields, [.word "INTERPOLATE (", .list 0 ", ", .word ")"]⟩ [.list items]
  return .node ⟨.record fields, [.word "INTERPOLATE"]⟩ [.absent]

/-- ORDER BY with its items. -/
def orderByPart (items : List Part) (interpolation : Part) : Part :=
  .node ⟨.record ["kind", "interpolate"], [.word "ORDER BY ", .part 0, .opt 1 " " ""]⟩
    [.node ⟨.newtype "Expressions", [.list 0 ", "]⟩ [.list items], interpolation]

def orderBy : Rule Part := do
  if !(← keywords ["ORDER", "BY"]) then return .absent
  let items ← commaList orderItem
  return orderByPart items (← interpolation)

def Form.offset : Form := ⟨.record ["value", "rows"], [.word "OFFSET ", .part 0, .part 1]⟩

def offsetPart : Rule Part := do
  if !(← keyword "OFFSET") then return .absent
  let e ← expr
  let rows ← match ← oneOf ["ROW", "ROWS"] with
    | some "ROW" => pure (Part.choice "Row" " ROW")
    | some _ => pure (.choice "Rows" " ROWS")
    | none => pure (.choice "None" "")
  return .node .offset [.expr e, rows]

def Form.offsetComma : Form :=
  ⟨.variant "OffsetCommaLimit" ["offset", "limit"], [.word " LIMIT ", .part 0, .word ", ", .part 1]⟩

def Form.limitOffset : Form :=
  ⟨.variant "LimitOffset" ["limit", "offset", "limit_by"],
    [.opt 0 " LIMIT " "", .opt 1 " " "", .someList 2 " BY " ", " ""]⟩

/-- LIMIT and OFFSET, in either order, or two numbers after LIMIT. -/
def limitClause : Rule Part := do
  let early ← offsetPart
  let node (limit offset groups : Part) : Part := .node .limitOffset [limit, offset, groups]
  if ← keyword "LIMIT" then
    let limit ← if ← keyword "ALL" then pure none else do pure (some (← expr))
    if early.isAbsent then
      if let some first := limit then
        if ← symbol "," then
          return .node .offsetComma [.expr first, .expr (← expr)]
    let groups ← if ← keyword "BY" then do pure (some (← commaList expr)) else pure none
    let offset ← if early.isAbsent then offsetPart else pure early
    if limit.isSome || groups.isSome || !offset.isAbsent then
      return node (optional .expr limit) offset (listOf .expr (groups.getD []))
    return .absent
  if early.isAbsent then return .absent
  return node .absent early (.list [])

def fetchPart : Rule Part := do
  if !(← keyword "FETCH") then return .absent
  let _ ← oneOf ["FIRST", "NEXT"]
  let (quantity, percent) ← if (← oneOf ["ROW", "ROWS"]).isSome then pure (Part.absent, false)
    else do
      let value ← valueExpr
      let percent ← keyword "PERCENT"
      let _ ← oneOf ["ROW", "ROWS"]
      pure (.expr value, percent)
  let ties ← if ← keyword "ONLY" then pure false else keywords ["WITH", "TIES"]
  return .node ⟨.record ["with_ties", "percent", "quantity"],
      [.word "FETCH FIRST ", .opt 2 "" (if percent then " PERCENT " else " "),
        .word "ROWS ", .flag 0 "WITH TIES" "ONLY"]⟩
    [.flag ties, .flag percent, quantity]

/-! ## FOR -/

/-- The name in parentheses after a word of FOR XML. -/
def elementName (name word : String) : Rule Part := do
  let text ← if ← peekSymbol "(" then do pure (some (← parenthesized literalString)) else pure none
  return .node ⟨.newtype name, [.word word, .opt 0 "('" "')"]⟩ [optional .text text]

/-- The options after FOR XML or FOR JSON: which of the words were there, and the root. -/
def forOptions (words : List String) : Rule (List String × Part) :=
  iterate (([] : List String), Part.absent) fun (found, root) => do
    if !(← symbol ",") then return ((found, root), false)
    match ← oneOf ("ROOT" :: words) with
    | some "ROOT" =>
      let name ← parenthesized literalString
      return ((found, .text name), true)
    | some "BINARY" =>
      let _ ← expectKeyword "BASE64"
      return (("BINARY" :: found, root), true)
    | some word => return ((word :: found, root), true)
    | none => return ((found, root), true)

def forXml : Rule Part := do
  let kind ← match ← oneOf ["RAW", "AUTO", "EXPLICIT", "PATH"] with
    | some "RAW" => elementName "Raw" "RAW"
    | some "AUTO" => pure (.choice "Auto" "AUTO")
    | some "EXPLICIT" => pure (.choice "Explicit" "EXPLICIT")
    | some _ => elementName "Path" "PATH"
    | none => refuse "Expected FOR XML [RAW | AUTO | EXPLICIT | PATH ]"
  let (words, root) ← forOptions ["ELEMENTS", "BINARY", "TYPE"]
  return .node ⟨.variant "Xml" ["for_xml", "elements", "binary_base64", "root", "type"],
      [.word "FOR XML ", .part 0, .flag 2 ", BINARY BASE64" "", .flag 4 ", TYPE" "",
        .opt 3 ", ROOT('" "')", .flag 1 ", ELEMENTS" ""]⟩
    [kind, .flag (words.contains "ELEMENTS"), .flag (words.contains "BINARY"), root,
      .flag (words.contains "TYPE")]

def forJson : Rule Part := do
  let kind ← match ← oneOf ["AUTO", "PATH"] with
    | some "AUTO" => pure (Part.choice "Auto" "AUTO")
    | some _ => pure (.choice "Path" "PATH")
    | none => refuse "Expected FOR JSON [AUTO | PATH ]"
  let (words, root) ← forOptions ["INCLUDE_NULL_VALUES", "WITHOUT_ARRAY_WRAPPER"]
  return .node ⟨.variant "Json" ["for_json", "root", "include_null_values", "without_array_wrapper"],
      [.word "FOR JSON ", .part 0, .opt 1 ", ROOT('" "')", .flag 2 ", INCLUDE_NULL_VALUES" "",
        .flag 3 ", WITHOUT_ARRAY_WRAPPER" ""]⟩
    [kind, root, .flag (words.contains "INCLUDE_NULL_VALUES"),
      .flag (words.contains "WITHOUT_ARRAY_WRAPPER")]

def lockPart : Rule Part := do
  let kind := if (← expectOneOf ["UPDATE", "SHARE"]) == "UPDATE" then Part.choice "Update" "UPDATE"
    else .choice "Share" "SHARE"
  let of ← after "OF" objectName
  let nonblock ← if ← keyword "NOWAIT" then pure (Part.choice "Nowait" "NOWAIT")
    else if ← keywords ["SKIP", "LOCKED"] then pure (.choice "SkipLocked" "SKIP LOCKED")
    else pure .absent
  return .node ⟨.record ["lock_type", "of", "nonblock"],
      [.word "FOR ", .part 0, .opt 1 " OF " "", .opt 2 " " ""]⟩
    [kind, optional .name of, nonblock]

/-- The locks and the FOR clause of a query. -/
def forClauses : Rule (Part × Part) := do
  let (locks, clause) ← iterate (([] : List Part), Part.absent) fun (locks, _) => do
    if !(← keyword "FOR") then return ((locks, .absent), false)
    if ← keyword "XML" then return ((locks, ← forXml), false)
    if ← keyword "JSON" then return ((locks, ← forJson), false)
    if ← keyword "BROWSE" then return ((locks, .choice "Browse" "FOR BROWSE"), false)
    let lock ← lockPart
    return ((lock :: locks, .absent), true)
  return (.list locks.reverse, clause)

def formatPart : Rule Part := do
  if !(← keyword "FORMAT") then return .absent
  if ← keyword "NULL" then return .choice "Null" "FORMAT NULL"
  return .node ⟨.newtype "Identifier", [.word "FORMAT ", .part 0]⟩ [.ident (← identifier)]

/-! ## Pipes -/

/-- A name after an operator, with or without AS. -/
def looseAlias : Rule Part := do
  if ← keyword "AS" then return .ident (← identifier)
  return optional .ident (← attempt identifier)

/-- An expression with a name and a direction. -/
def aggregateItem : Rule Part := do
  let e ← expr
  let label ← aliasWhere fun key => !(["ASC", "DESC", "GROUP"].contains key)
  let direction ← match ← oneOf ["ASC", "DESC"] with
    | some "ASC" => pure (some true)
    | some _ => pure (some false)
    | none => pure none
  let options := orderOptionsPart direction none
  return .node ⟨.record ["expr", "order_by"], [.part 0, .part 1]⟩
    [.node .aliased [.expr e, optional .ident label], options]

/-- Queries in parentheses. -/
def pipedQueries : Rule Part := do
  let queries ← commaList (parenthesized query)
  return .list (queries.map fun q => .node ⟨.bare, [.word "(", .part 0, .word ")"]⟩ [.query q])

/-- A set operator in a pipe. -/
def pipedSet (name word : String) (needsDistinct : Bool) : Rule Part := do
  let quantifier ← setQuantifier
  if needsDistinct then
    match quantifier with
    | .choice "Distinct" _ | .choice "DistinctByName" _ => pure ()
    | _ => refuse (word ++ " pipe operator requires DISTINCT modifier")
  let quantifier := if quantifier.isAbsent then .choice "None" "" else quantifier
  let queries ← pipedQueries
  return .node ⟨.variant name ["set_quantifier", "queries"],
      [.joined " " [.word word, .part 0, .list 1 ", "]]⟩ [quantifier, queries]

def pipedPivot : Rule Part := do
  let _ ← expectSymbol "("
  let calls ← commaList aliasedCall
  let _ ← expectKeyword "FOR"
  let column ← iterate ([] : List Ident) fun found => do
    let i ← identifier
    return (i :: found, ← symbol ".")
  let _ ← expectKeyword "IN"
  let values ← pivotValues
  let _ ← expectSymbol ")"
  let label ← looseAlias
  return .node ⟨.variant "Pivot" ["aggregate_functions", "value_column", "value_source", "alias"],
      [.word "PIVOT(", .list 0 ", ", .word " FOR ", .list 1 ".", .word " IN (", .part 2, .word "))",
        .opt 3 " AS " ""]⟩
    [.list calls, listOf .ident column.reverse, values, label]

def pipedUnpivot : Rule Part := do
  let _ ← expectSymbol "("
  let value ← identifier
  let _ ← expectKeyword "FOR"
  let name ← identifier
  let _ ← expectKeyword "IN"
  let columns ← parenthesized (commaList identifier)
  let _ ← expectSymbol ")"
  let label ← looseAlias
  return .node
    ⟨.variant "Unpivot" ["value_column", "name_column", "unpivot_columns", "alias"],
      [.word "UNPIVOT(", .part 0, .word " FOR ", .part 1, .word " IN (", .list 2 ", ", .word "))",
        .opt 3 " AS " ""]⟩
    [.ident value, .ident name, listOf .ident columns, label]

/-- A list after the word of an operator. -/
def pipedList (name field word : String) (items : Part) : Part :=
  .node ⟨.variant name [field], [.word (word ++ " "), .list 0 ", "]⟩ [items]

/-- The operator of a pipe that a word starts, which has been read. -/
def pipeOperator (word : String) : Rule Part := do
  match word with
  | "SELECT" => return pipedList "Select" "exprs" "SELECT" (listOf .item (← selectItems))
  | "EXTEND" => return pipedList "Extend" "exprs" "EXTEND" (listOf .item (← selectItems))
  | "SET" =>
    return pipedList "Set" "assignments" "SET" (listOf .assignment (← assignmentList))
  | "DROP" => return pipedList "Drop" "columns" "DROP" (listOf .ident (← identifiersToEnd))
  | "AS" =>
    return .node ⟨.variant "As" ["alias"], [.word "AS ", .part 0]⟩ [.ident (← identifier)]
  | "WHERE" =>
    return .node ⟨.variant "Where" ["expr"], [.word "WHERE ", .part 0]⟩ [.expr (← expr)]
  | "LIMIT" =>
    let e ← expr
    return .node ⟨.variant "Limit" ["expr", "offset"], [.word "LIMIT ", .part 0, .opt 1 " OFFSET " ""]⟩
      [.expr e, ← exprAfter "OFFSET"]
  | "AGGREGATE" =>
    let items ← if ← peekKeyword "GROUP" then pure [] else commaList aggregateItem
    let groups ← if ← keywords ["GROUP", "BY"] then commaList aggregateItem else pure []
    return .node ⟨.variant "Aggregate" ["full_table_exprs", "group_by_expr"],
        [.word "AGGREGATE", .someList 0 " " ", " "", .someList 1 " GROUP BY " ", " ""]⟩
      [.list items, .list groups]
  | "ORDER" =>
    let _ ← expectOneOf ["BY"]
    return pipedList "OrderBy" "exprs" "ORDER BY" (.list (← commaList orderItem))
  | "TABLESAMPLE" =>
    return .node ⟨.variant "TableSample" ["sample"], [.part 0]⟩
      [← tableSample "TableSample" "TABLESAMPLE"]
  | "RENAME" =>
    let names ← commaList do
      let i ← identifier
      let _ ← keyword "AS"
      return Part.node .renamed [.ident i, .ident (← identifier)]
    return pipedList "Rename" "mappings" "RENAME" (.list names)
  | "UNION" => pipedSet "Union" "UNION" false
  | "INTERSECT" => pipedSet "Intersect" "INTERSECT" true
  | "EXCEPT" => pipedSet "Except" "EXCEPT" true
  | "CALL" =>
    let name ← objectName
    let e ← call name
    let label ← looseAlias
    return .node ⟨.variant "Call" ["function", "alias"], [.word "CALL ", .part 0, .opt 1 " AS " ""]⟩
      [.expr e, label]
  | "PIVOT" => pipedPivot
  | _ => pipedUnpivot

/-- The words that start an operator of a pipe, and those that start a join there. -/
def pipeWords : List String :=
  [ "SELECT", "EXTEND", "SET", "DROP", "AS", "WHERE", "LIMIT", "AGGREGATE", "ORDER", "TABLESAMPLE",
    "RENAME", "UNION", "INTERSECT", "EXCEPT", "CALL", "PIVOT", "UNPIVOT", "JOIN", "INNER", "LEFT",
    "RIGHT", "FULL", "CROSS" ]

def pipe : Rule (Option Part) := do
  if !(← symbol "|>") then return none
  let start ← get
  let word ← expectOneOf pipeWords
  if ["JOIN", "INNER", "LEFT", "RIGHT", "FULL", "CROSS"].contains word then
    set start
    match ← joins with
    | [j] => return some (.node ⟨.newtype "Join", [.part 0]⟩ [.join j])
    | _ => refuse "Join pipe operator must have a single join"
  return some (← pipeOperator word)

/-! ## Queries -/

def queryRule : Rule Query := nested do
  let ctes ← withClause
  let plain (s : Statement) : Query :=
    .mk ctes (.statement s)
      [.absent, .absent, .absent, .list [], .absent, .absent, .absent, .list []]
  match ← oneOf ["INSERT", "UPDATE", "DELETE", "MERGE"] with
  | some "INSERT" => return plain (← insertRule false)
  | some "UPDATE" => return plain (← updateRule)
  | some "DELETE" => return plain (← deleteRule)
  | some _ => return plain (← mergeRule)
  | none =>
    let b ← body 0
    let order ← orderBy
    let limit ← limitClause
    let settings ← optionalSettings
    let fetch ← fetchPart
    let (locks, clause) ← forClauses
    let format ← formatPart
    let pipes ← many pipe
    return .mk ctes b [order, limit, fetch, locks, clause, settings, format, .list pipes]

end ColumnMask.Sql
