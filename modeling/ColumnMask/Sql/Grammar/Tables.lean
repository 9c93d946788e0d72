-- Sources of rows: tables, subqueries, functions, and what is made of them by joins and
-- by pivoting.
import ColumnMask.Sql.Grammar.Expressions
import ColumnMask.Sql.Grammar.Patterns
import ColumnMask.Sql.Printer

namespace ColumnMask.Sql

/-! ## Aliases of sources -/

/-- A source as a form, with its alias as last part. -/
def TableFactor.node (name : String) (fields : List String) (layout : List Piece)
    (parts : List Part) : TableFactor :=
  .form ⟨.variant name fields, layout⟩ parts

/-- The alias among parts. -/
def aliasAmong : List Part → Alias
  | [] => .absent
  | .label a :: _ => a
  | _ :: ps => aliasAmong ps

def putAlias (a : Alias) : List Part → List Part
  | [] => []
  | .label _ :: ps => .label a :: ps
  | p :: ps => p :: putAlias a ps

def TableFactor.label : TableFactor → Alias
  | .table _ a _ => a
  | .derived _ _ a => a
  | .nested _ a => a
  | .form _ parts => aliasAmong parts

def TableFactor.withAlias (a : Alias) : TableFactor → TableFactor
  | .table n _ details => .table n a details
  | .derived lateral q _ => .derived lateral q a
  | .nested t _ => .nested t a
  | .form f parts => .form f (putAlias a parts)

/-! ## Samples -/

def sampleSeed (name word : String) : Rule Part := do
  let v ← parenthesized numberValue
  return .node ⟨.record ["modifier", "value"], [.part 0, .word " (", .part 1, .word ")"]⟩
    [.choice name word, .value v]

/-- How much is sampled: a share, a number of rows, or a byte length. -/
def sampleQuantity (parenthesized : Bool) : Rule Part := do
  let value ← match ← attempt expr with
    | some e => pure e
    | none => do
      let t ← next
      match t.token with
      | .word value _ _ => pure (Expr.ofValue (.placeholder value) t.span)
      | _ => refuse "Expecting number or byte length e.g. 100M" (← place)
  let unit ← match ← oneOf ["ROWS", "PERCENT"] with
    | some "ROWS" => pure (Part.choice "Rows" "ROWS")
    | some _ => pure (.choice "Percent" "PERCENT")
    | none => pure .absent
  return .node ⟨.record ["parenthesized", "value", "unit"],
      [.flag 0 "(" "", .part 1, .opt 2 " " "", .flag 0 ")" ""]⟩
    [.flag parenthesized, .expr value, unit]

/-- A sample after its word. -/
def tableSample (name word : String) : Rule Part := do
  let method ← match ← oneOf ["BERNOULLI", "ROW", "SYSTEM", "BLOCK"] with
    | some "BERNOULLI" => pure (Part.choice "Bernoulli" "BERNOULLI")
    | some "ROW" => pure (.choice "Row" "ROW")
    | some "SYSTEM" => pure (.choice "System" "SYSTEM")
    | some _ => pure (.choice "Block" "BLOCK")
    | none => pure .absent
  let parens ← symbol "("
  let (quantity, bucket) ← if ← pure parens <&&> keyword "BUCKET" then do
      let selected ← numberValue
      expectKeywords ["OUT", "OF"]
      let total ← numberValue
      let on ← after "ON" expr
      pure (Part.absent, Part.node ⟨.record ["bucket", "total", "on"],
          [.word "(BUCKET ", .part 0, .word " OUT OF ", .part 1, .opt 2 " ON " "", .word ")"]⟩
        [.value selected, .value total, optional .expr on])
    else do pure (← sampleQuantity parens, .absent)
  if parens then let _ ← expectSymbol ")"
  let seed ← match ← oneOf ["REPEATABLE", "SEED"] with
    | some "REPEATABLE" => sampleSeed "Repeatable" "REPEATABLE"
    | some _ => sampleSeed "Seed" "SEED"
    | none => pure .absent
  let offset ← after "OFFSET" expr
  return .node ⟨.record ["modifier", "name", "quantity", "seed", "bucket", "offset"],
      [.part 0, .opt 1 " " "", .opt 2 " " "", .opt 3 " " "", .opt 4 " " "", .opt 5 " OFFSET " ""]⟩
    [.choice name word, method, quantity, seed, bucket, optional .expr offset]

/-- A sample after the alias of a table. -/
def optionalSample : Rule Part := do
  let sample ← match ← oneOf ["TABLESAMPLE", "SAMPLE"] with
    | some "TABLESAMPLE" => tableSample "TableSample" "TABLESAMPLE"
    | some _ => tableSample "Sample" "SAMPLE"
    | none => return .absent
  return .node ⟨.newtype "AfterTableAlias", [.part 0]⟩ [sample]

/-! ## Pivoting -/

/-- An expression, with a name after AS. -/
def Form.aliased : Form := ⟨.record ["expr", "alias"], [.part 0, .opt 1 " AS " ""]⟩

def aliasedExpr : Rule Part := do
  let e ← expr
  return .node .aliased [.expr e, optional .ident (← after "AS" identifier)]

/-- A call of a function, with a name after AS. -/
def aliasedCall : Rule Part := do
  let t ← next
  match t.token with
  | .word value _ _ =>
    let e ← call [.ident ⟨value, none, .nowhere⟩]
    return .node .aliased [.expr e, optional .ident (← after "AS" identifier)]
  | _ => unexpected "a function identifier" (← peek)

/-- The values that become columns: all, those of a query, or those of a list. -/
def pivotValues : Rule Part := parenthesized do
  if ← keyword "ANY" then
    let order ← if ← keywords ["ORDER", "BY"] then commaList orderItem else pure []
    return .node ⟨.newtype "Any", [.word "ANY", .someList 0 " ORDER BY " ", " ""]⟩ [.list order]
  if ← peekSubquery then
    return .node ⟨.newtype "Subquery", [.part 0]⟩ [.query (← query)]
  return .node ⟨.newtype "List", [.list 0 ", "]⟩ [.list (← commaList aliasedExpr)]

/-- A list in parentheses that has to be there. -/
def columnListOf {α : Type} (r : Rule α) : Rule (List α) := do
  if ← peekSymbol "(" then parenthesized (commaList r)
  else unexpected "a list of columns in parentheses" (← peek)

def pivot (source : TableFactor) : Rule TableFactor := do
  let _ ← expectSymbol "("
  let calls ← commaList aliasedCall
  let _ ← expectKeyword "FOR"
  let columns ← if ← peekSymbol "(" then columnListOf (subexpr binds.between)
    else do pure [← subexpr binds.between]
  let _ ← expectKeyword "IN"
  let values ← pivotValues
  let default ← if ← keywords ["DEFAULT", "ON", "NULL"] then do
      pure (Part.expr (← parenthesized expr))
    else pure .absent
  let _ ← expectSymbol ")"
  let label ← tableAlias
  let one := columns.length == 1
  return .node "Pivot" ["table", "aggregate_functions", "value_column", "value_source",
      "default_on_null", "alias"]
    [.part 0, .word " PIVOT(", .list 1 ", ", .word (if one then " FOR " else " FOR ("), .list 2 ", ",
      .word (if one then " IN (" else ") IN ("), .part 3, .word ")",
      .opt 4 " DEFAULT ON NULL (" ")", .word ")", .opt 5 " " ""]
    [.factor source, .list calls, listOf .expr columns, values, default, .label label]

def unpivot (source : TableFactor) : Rule TableFactor := do
  let nulls ← match ← oneOf ["INCLUDE", "EXCLUDE"] with
    | some word => do
      let _ ← expectKeyword "NULLS"
      pure (if word == "INCLUDE" then Part.choice "IncludeNulls" "INCLUDE NULLS"
        else .choice "ExcludeNulls" "EXCLUDE NULLS")
    | none => pure .absent
  let _ ← expectSymbol "("
  let value ← expr
  let _ ← expectKeyword "FOR"
  let name ← identifier
  let _ ← expectKeyword "IN"
  let columns ← columnListOf aliasedExpr
  let _ ← expectSymbol ")"
  let label ← tableAlias
  return .node "Unpivot" ["table", "value", "name", "columns", "null_inclusion", "alias"]
    [.part 0, .word " UNPIVOT", .opt 4 " " " ", .word "(", .part 1, .word " FOR ", .part 2,
      .word " IN (", .list 3 ", ", .word "))", .opt 5 " " ""]
    [.factor source, .expr value, .ident name, .list columns, nulls, .label label]

/-- All PIVOT and UNPIVOT after a source. -/
def pivots (source : TableFactor) : Rule TableFactor :=
  iterate source fun source => do
    match ← oneOf ["PIVOT", "UNPIVOT"] with
    | some "PIVOT" => return (← pivot source, true)
    | some _ => return (← unpivot source, true)
    | none => return (source, false)

/-! ## Row patterns -/

def rowsPerMatch : Rule Part := do
  if ← keywords ["ONE", "ROW", "PER", "MATCH"] then return .choice "OneRow" "ONE ROW PER MATCH"
  if ← keywords ["ALL", "ROWS", "PER", "MATCH"] then
    let mode ← if ← keywords ["SHOW", "EMPTY", "MATCHES"] then
        pure (Part.choice "Show" "SHOW EMPTY MATCHES")
      else if ← keywords ["OMIT", "EMPTY", "MATCHES"] then
        pure (.choice "Omit" "OMIT EMPTY MATCHES")
      else if ← keywords ["WITH", "UNMATCHED", "ROWS"] then
        pure (.choice "WithUnmatched" "WITH UNMATCHED ROWS")
      else pure .absent
    return .node ⟨.newtype "AllRows", [.word "ALL ROWS PER MATCH", .opt 0 " " ""]⟩ [mode]
  return .absent

def afterMatch : Rule Part := do
  if !(← keywords ["AFTER", "MATCH", "SKIP"]) then return .absent
  if ← keywords ["PAST", "LAST", "ROW"] then
    return .choice "PastLastRow" "AFTER MATCH SKIP PAST LAST ROW"
  if ← keywords ["TO", "NEXT", "ROW"] then
    return .choice "ToNextRow" "AFTER MATCH SKIP TO NEXT ROW"
  if ← keywords ["TO", "FIRST"] then
    return .node ⟨.newtype "ToFirst", [.word "AFTER MATCH SKIP TO FIRST ", .part 0]⟩
      [.ident (← identifier)]
  if ← keywords ["TO", "LAST"] then
    return .node ⟨.newtype "ToLast", [.word "AFTER MATCH SKIP TO LAST ", .part 0]⟩
      [.ident (← identifier)]
  let t ← next
  unexpected "after match skip option" t

def matchRecognize (source : TableFactor) : Rule TableFactor := do
  let _ ← expectSymbol "("
  let partition ← if ← keywords ["PARTITION", "BY"] then commaList expr else pure []
  let order ← if ← keywords ["ORDER", "BY"] then commaList orderItem else pure []
  let measures ← if ← keyword "MEASURES" then
      commaList do
        let e ← expr
        let _ ← keyword "AS"
        let name ← identifier
        return Part.node ⟨.record ["expr", "alias"], [.part 0, .word " AS ", .part 1]⟩
          [.expr e, .ident name]
    else pure []
  let rows ← rowsPerMatch
  let skip ← afterMatch
  let _ ← expectKeyword "PATTERN"
  let pattern ← parenthesized (rowPattern (← get).budget)
  let _ ← expectKeyword "DEFINE"
  let symbols ← commaList do
    let name ← identifier
    let _ ← expectKeyword "AS"
    let e ← expr
    return Part.node ⟨.record ["symbol", "definition"], [.part 0, .word " AS ", .part 1]⟩
      [.ident name, .expr e]
  let _ ← expectSymbol ")"
  let label ← tableAlias
  return .node "MatchRecognize" ["table", "partition_by", "order_by", "measures", "rows_per_match",
      "after_match_skip", "pattern", "symbols", "alias"]
    [.part 0, .word " MATCH_RECOGNIZE(", .someList 1 "PARTITION BY " ", " " ",
      .someList 2 "ORDER BY " ", " " ", .someList 3 "MEASURES " ", " " ", .opt 4 "" " ", .opt 5 "" " ",
      .word "PATTERN (", .part 6, .word ") DEFINE ", .list 7 ", ", .word ")", .opt 8 " " ""]
    [.factor source, listOf .expr partition, .list order, .list measures, rows, skip, pattern,
      .list symbols, .label label]

/-! ## Tables read from documents -/

/-- What becomes of a column of a document without a value: the answer, and whether it is for an
empty column. -/
def documentFallback : Rule (Option (Part × Bool)) := do
  let answer ← if ← keyword "NULL" then pure (Part.choice "Null" "NULL")
    else if ← keyword "ERROR" then pure (.choice "Error" "ERROR")
    else if ← keyword "DEFAULT" then do
      let v ← valuePart
      pure (.node ⟨.newtype "Default", [.word "DEFAULT ", .part 0]⟩ [v])
    else return none
  let _ ← expectKeyword "ON"
  if ← keyword "EMPTY" then return some (answer, true)
  let _ ← expectKeyword "ERROR"
  return some (answer, false)

/-- A column of JSON_TABLE; `fuel` bounds how deeply columns are nested. -/
def documentColumn : Nat → Rule Part
  | 0 => refuse "nested columns"
  | fuel + 1 => do
    if ← keyword "NESTED" then
      let _ ← keyword "PATH"
      let path ← valuePart
      let _ ← expectKeyword "COLUMNS"
      let columns ← parenthesized (commaList (documentColumn fuel))
      return .node ⟨.newtype "Nested", [.part 0]⟩ [.node ⟨.record ["path", "columns"],
        [.word "NESTED PATH ", .part 0, .word " COLUMNS (", .list 1 ", ", .word ")"]⟩
        [path, .list columns]]
    let name ← identifier
    if ← keyword "FOR" then
      let _ ← expectKeyword "ORDINALITY"
      return .node ⟨.newtype "ForOrdinality", [.part 0, .word " FOR ORDINALITY"]⟩ [.ident name]
    let type ← dataType
    let isTest ← keyword "EXISTS"
    let _ ← expectKeyword "PATH"
    let path ← valuePart
    let (empty, error) ← iterate (Part.absent, Part.absent) fun (empty, error) => do
      match ← documentFallback with
      | some (answer, true) => return ((answer, error), true)
      | some (answer, false) => return ((empty, answer), true)
      | none => return ((empty, error), false)
    return .node ⟨.newtype "Named", [.part 0]⟩ [.node
      ⟨.record ["name", "type", "path", "exists", "on_empty", "on_error"],
        [.part 0, .word " ", .part 1, .flag 3 " EXISTS" "", .word " PATH ", .part 2,
          .opt 4 " " " ON EMPTY", .opt 5 " " " ON ERROR"]⟩
      [.ident name, type, path, .flag isTest, empty, error]]

def jsonTable : Rule TableFactor := do
  let document ← expr
  let _ ← expectSymbol ","
  let path ← valuePart
  let _ ← expectKeyword "COLUMNS"
  let columns ← parenthesized (commaList (documentColumn (← get).budget))
  let _ ← expectSymbol ")"
  let label ← tableAlias
  return .node "JsonTable" ["json_expr", "json_path", "columns", "alias"]
    [.word "JSON_TABLE(", .part 0, .word ", ", .part 1, .word " COLUMNS(", .list 2 ", ", .word "))",
      .opt 3 " " ""]
    [.expr document, path, .list columns, .label label]

def openJson : Rule TableFactor := do
  let document ← expr
  let path ← if ← symbol "," then valuePart else pure .absent
  let _ ← expectSymbol ")"
  let columns ← if ← keyword "WITH" then
      parenthesized (commaList do
        let name ← identifier
        let type ← dataType
        let path ← match (← peek).token with
          | .literal .plain text => do
            let _ ← next
            pure (quotedPart text)
          | _ => pure .absent
        let asJson ← keyword "AS"
        if asJson then let _ ← expectKeyword "JSON"
        return Part.node ⟨.record ["name", "type", "path", "as_json"],
            [.part 0, .word " ", .part 1, .opt 2 " " "", .flag 3 " AS JSON" ""]⟩
          [.ident name, type, path, .flag asJson])
    else pure []
  let label ← tableAlias
  return .node "OpenJsonTable" ["json_expr", "json_path", "columns", "alias"]
    [.word "OPENJSON(", .part 0, .opt 1 ", " "", .word ")", .someList 2 " WITH (" ", " ")",
      .opt 3 " " ""]
    [.expr document, path, .list columns, .label label]

/-- What is passed to XMLTABLE. -/
def passing : Rule Part := do
  let arguments ← if ← keyword "PASSING" then
      commaList do
        let byValue ← keyword "BY" <&&> keyword "VALUE"
        let e ← expr
        let name ← after "AS" identifier
        return Part.node ⟨.record ["expr", "alias", "by_value"],
            [.flag 2 "BY VALUE " "", .part 0, .opt 1 " AS " ""]⟩
          [.expr e, optional .ident name, .flag byValue]
    else pure []
  return .node ⟨.record ["arguments"], [.someList 0 " PASSING " ", " ""]⟩ [.list arguments]

def xmlColumn : Rule Part := do
  let name ← identifier
  let fields := ["name", "option"]
  if ← keyword "FOR" then
    let _ ← expectKeyword "ORDINALITY"
    return .node ⟨.record fields, [.part 0, .part 1]⟩
      [.ident name, .choice "ForOrdinality" " FOR ORDINALITY"]
  let type ← dataType
  let path ← after "PATH" expr
  let default ← after "DEFAULT" expr
  let isNotNull ← keywords ["NOT", "NULL"]
  if !isNotNull then let _ ← keyword "NULL"
  let info := Part.node ⟨.variant "NamedInfo" ["type", "path", "default", "nullable"],
      [.word " ", .part 0, .opt 1 " PATH " "", .opt 2 " DEFAULT " "", .flag 3 "" " NOT NULL"]⟩
    [type, optional .expr path, optional .expr default, .flag !isNotNull]
  return .node ⟨.record fields, [.part 0, .part 1]⟩ [.ident name, info]

def xmlTable : Rule TableFactor := do
  let namespaces ← if ← keyword "XMLNAMESPACES" then do
      let found ← parenthesized (commaList do
        let uri ← expr
        let _ ← expectKeyword "AS"
        let name ← identifier
        return Part.node ⟨.record ["uri", "name"], [.part 0, .word " AS ", .part 1]⟩
          [.expr uri, .ident name])
      let _ ← expectSymbol ","
      pure found
    else pure []
  let row ← expr
  let passed ← passing
  let _ ← expectKeyword "COLUMNS"
  let columns ← commaList xmlColumn
  let _ ← expectSymbol ")"
  let label ← tableAlias
  return .node "XmlTable" ["namespaces", "row_expression", "passing", "columns", "alias"]
    [.word "XMLTABLE(", .someList 0 "XMLNAMESPACES(" ", " "), ", .part 1, .part 2,
      .word " COLUMNS ", .list 3 ", ", .word ")", .opt 4 " " ""]
    [.list namespaces, .expr row, passed, .list columns, .label label]

/-! ## Single sources -/

/-- A setting of a query. -/
def setting : Rule Part := do
  let key ← identifier
  let _ ← expectSymbol "="
  let value ← expr
  return .node ⟨.record ["key", "value"], [.part 0, .word " = ", .part 1]⟩ [.ident key, .expr value]

def optionalSettings : Rule Part := do
  if ← keyword "SETTINGS" then return .list (← commaList setting) else return .absent

/-- The arguments of a function as a table, after the opening parenthesis. -/
def tableArguments : Rule Part := do
  let fields := ["args", "settings"]
  let layout : List Piece := [.joined ", " [.list 0 ", ", .someList 1 "SETTINGS " ", " ""]]
  if ← symbol ")" then return .node ⟨.record fields, layout⟩ [.list [], .absent]
  let (args, settings) ← iterate (([] : List Part), Part.absent) fun (args, _) => do
    match ← optionalSettings with
    | .absent =>
      let a ← argument
      return ((a :: args, .absent), ← symbol ",")
    | settings => return ((args, settings), false)
  let _ ← expectSymbol ")"
  return .node ⟨.record fields, layout⟩ [.list args.reverse, settings]

/-- The arguments of a function after the opening parenthesis, none of them a setting. -/
def plainArguments : Rule (List Part) := do
  if ← symbol ")" then return []
  let args ← commaList argument
  let _ ← expectSymbol ")"
  return args

/-- A subquery after its opening parenthesis. -/
def derivedTable (lateral : Bool) : Rule TableFactor := do
  let q ← query
  let _ ← expectSymbol ")"
  return .derived lateral q (← tableAlias)

def lateralFactor : Rule TableFactor := do
  if ← symbol "(" then derivedTable true
  else
    let name ← objectName
    let _ ← expectSymbol "("
    let args ← plainArguments
    let label ← tableAlias
    return .node "Function" ["lateral", "name", "args", "alias"]
      [.word "LATERAL ", .part 1, .word "(", .list 2 ", ", .word ")", .opt 3 " " ""]
      [.flag true, .name name, .list args, .label label]

def tableFunction : Rule TableFactor := do
  let e ← parenthesized expr
  let label ← tableAlias
  return .node "TableFunction" ["expr", "alias"]
    [.word "TABLE(", .part 0, .word ")", .opt 1 " " ""] [.expr e, .label label]

/-- A join, a table or a subquery in parentheses, after the opening one. Parentheses around a lone
table are dropped. -/
def nestedFactor : Rule TableFactor := do
  match ← attempt (derivedTable false) with
  | some source => pivots source
  | none =>
    let t ← tables
    let _ ← expectSymbol ")"
    let label ← tableAlias
    match t with
    | .mk (.nested ..) _ | .mk _ (_ :: _) => return .nested t label
    | .mk relation [] =>
      match label, relation.label with
      | .absent, _ => return relation
      | _, .absent => return relation.withAlias label
      | _, inner => refuse ("duplicate alias " ++ inner.show)

/-- Rows given by VALUES without parentheses around them. -/
def Form.values : Form :=
  ⟨.variant "Values" ["explicit_row", "value_keyword", "rows"],
    [.flag 1 "VALUE " "VALUES ", .list 2 ", "]⟩

/-- The separator between rows says ROW, too, if they are written with it. -/
def Form.rowValues : Form :=
  ⟨.variant "Values" ["explicit_row", "value_keyword", "rows"],
    [.flag 1 "VALUE " "VALUES ", .word "ROW", .list 2 ", ROW"]⟩

/-- The rows after VALUES or VALUE: their form and its parts. -/
def valueRows (short : Bool) : Rule (Form × List Part) := do
  let (rows, isRow) ← iterate (([] : List Part), false) fun (rows, isRow) => do
    let row ← keyword "ROW"
    let items ← parenthesized (commaList expr)
    return ((.node .parens (items.map .expr) :: rows, isRow || row), ← symbol ",")
  return (if isRow then .rowValues else .values,
    [.flag isRow, .flag short, .list rows.reverse])

/-- The body that the rows after VALUES or VALUE make. -/
def valuesBody (short : Bool) : Rule Body := do
  let (form, rows) ← valueRows short
  return .form form rows

/-- A query that is nothing but its body. -/
def Query.plain (b : Body) : Query :=
  .mk .absent b [.absent, .absent, .absent, .list [], .absent, .absent, .absent, .list []]

def unnest : Rule TableFactor := do
  let arrays ← parenthesized (commaList expr)
  let ordinality ← keywords ["WITH", "ORDINALITY"]
  let label ← tableAlias
  let withOffset ← keywords ["WITH", "OFFSET"]
  let offsetAlias ← if withOffset then columnAlias else pure none
  return .node "UNNEST" ["alias", "array_exprs", "with_offset", "with_offset_alias",
      "with_ordinality"]
    [.word "UNNEST(", .list 1 ", ", .word ")", .flag 4 " WITH ORDINALITY" "", .opt 0 " " "",
      .flag 2 " WITH OFFSET" "", .opt 3 " " ""]
    [.label label, listOf .expr arrays, .flag withOffset, optional .ident offsetAlias,
      .flag ordinality]

/-- A table or a function by its name. -/
def namedTable : Rule TableFactor := do
  let name ← objectName
  let partitions ← if ← keyword "PARTITION" then parenthesized (commaList identifier) else pure []
  let args ← if ← symbol "(" then tableArguments else pure .absent
  let ordinality ← keywords ["WITH", "ORDINALITY"]
  let label ← tableAlias
  let start ← get
  let hints ← if ← keyword "WITH" then
      if ← symbol "(" then do
        let hints ← commaList expr
        let _ ← expectSymbol ")"
        pure hints
      else do
        set start
        pure []
    else pure []
  let sample ← optionalSample
  let source ← pivots (.table name label
    [args, listOf .expr hints, .absent, .flag ordinality, listOf .ident partitions, .absent, sample,
      .list []])
  if ← keyword "MATCH_RECOGNIZE" then matchRecognize source else return source

/-- Whether a keyword and an opening parenthesis come next; both are read then. -/
def keywordParen (word : String) : Rule Bool := do
  if (← peekKeyword word) && (← peekAfter 1).token.isSymbol "(" then
    let _ ← next
    let _ ← next
    return true
  return false

def factorRule : Rule TableFactor := do
  if ← keyword "LATERAL" then return ← lateralFactor
  if ← keyword "TABLE" then return ← tableFunction
  if ← symbol "(" then return ← nestedFactor
  if (← peekKeyword "VALUES") && (← peekAfter 1).token.isSymbol "(" then
    let _ ← next
    let values ← valuesBody false
    return .derived false (.plain values) (← tableAlias)
  if ← keyword "UNNEST" then return ← unnest
  if ← keywordParen "JSON_TABLE" then return ← jsonTable
  if ← keywordParen "OPENJSON" then return ← openJson
  if ← keywordParen "XMLTABLE" then return ← xmlTable
  namedTable

/-! ## Joins -/

def joinConstraint (natural : Bool) : Rule JoinConstraint := do
  if natural then return .natural
  if ← keyword "ON" then return .on (← expr)
  if ← keyword "USING" then return .using (← nameList)
  return .absent

/-- The words of a join with a constraint, if they come next. -/
def joinKind (natural : Bool) : Rule (Option JoinKind) := do
  let sided (side : String) (plain withOuter withSemi withAnti : JoinKind) :
      Rule (Option JoinKind) := do
    match ← oneOf ["OUTER", "SEMI", "ANTI", "JOIN"] with
    | some "JOIN" => return some plain
    | some word =>
      let _ ← expectKeyword "JOIN"
      return some
        (if word == "OUTER" then withOuter else if word == "SEMI" then withSemi else withAnti)
    | none => refuse ("expected OUTER, SEMI, ANTI or JOIN after " ++ side)
  match (← peek).token.key with
  | "INNER" =>
    let _ ← next
    let _ ← expectKeyword "JOIN"
    return some .inner
  | "JOIN" =>
    let _ ← next
    return some .join
  | "LEFT" =>
    let _ ← next
    sided "LEFT" .left .leftOuter .leftSemi .leftAnti
  | "RIGHT" =>
    let _ ← next
    sided "RIGHT" .right .rightOuter .rightSemi .rightAnti
  | "ANTI" =>
    let _ ← next
    let _ ← expectKeyword "JOIN"
    return some .anti
  | "SEMI" =>
    let _ ← next
    let _ ← expectKeyword "JOIN"
    return some .semi
  | "FULL" =>
    let _ ← next
    let _ ← keyword "OUTER"
    let _ ← expectKeyword "JOIN"
    return some .fullOuter
  | "OUTER" => unexpected "LEFT, RIGHT, or FULL" (← peek)
  | "STRAIGHT_JOIN" =>
    let _ ← next
    return some .straight
  | _ => if natural then unexpected "a join type after NATURAL" (← peek) else return none

/-- The next join, if there is one. -/
def join : Rule (Option Join) := do
  let global ← keyword "GLOBAL"
  if ← keyword "CROSS" then
    if ← keyword "JOIN" then return some (.constrained (← factor) global .cross .absent)
    if ← keyword "APPLY" then return some (.apply (← factor) global false)
    unexpected "JOIN or APPLY after CROSS" (← peek)
  if ← keyword "OUTER" then
    let _ ← expectKeyword "APPLY"
    return some (.apply (← factor) global true)
  if ← keyword "ASOF" then
    let _ ← expectKeyword "JOIN"
    let relation ← factor
    let _ ← expectKeyword "MATCH_CONDITION"
    let condition ← parenthesized expr
    return some (.asOf relation global condition (← joinConstraint false))
  let natural ← keyword "NATURAL"
  match ← joinKind natural with
  | some kind =>
    let relation ← factor
    return some (.constrained relation global kind (← joinConstraint natural))
  | none => return none

def joins : Rule (List Join) := many join

def tablesRule : Rule TableWithJoins := do
  let relation ← factor
  return .mk relation (← joins)

def tableList : Rule (List TableWithJoins) := commaList tables

end ColumnMask.Sql
