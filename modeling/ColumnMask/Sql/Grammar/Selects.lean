-- SELECT blocks: their items, and their clauses in the order they are written in.
import ColumnMask.Sql.Grammar.Tables

namespace ColumnMask.Sql

/-! ## What an asterisk leaves out and changes -/

/-- A list in parentheses, or one thing without them. -/
def oneOrList (word : String) (r : Rule Part) : Rule Part := do
  if ← symbol "(" then
    let items ← commaList r
    let _ ← expectSymbol ")"
    return .node ⟨.newtype "Multiple", [.word (word ++ " ("), .list 0 ", ", .word ")"]⟩ [.list items]
  return .node ⟨.newtype "Single", [.word (word ++ " "), .part 0]⟩ [← r]

def identPart : Rule Part := return .ident (← identifier)

def excludePart : Rule Part := do
  if ← keyword "EXCLUDE" then oneOrList "EXCLUDE" identPart else return .absent

def starIlike : Rule Part := do
  if ← keyword "ILIKE" then
    let t ← next
    match t.token with
    | .literal .plain text =>
      return .node ⟨.record ["pattern"], [.word "ILIKE ", .part 0]⟩ [quotedPart text]
    | _ => unexpected "ilike pattern" t
  return .absent

def starExcept : Rule Part := do
  if !(← keyword "EXCEPT") then return .absent
  let names ← if ← peekSymbol "(" then identifierList else do pure [← identifier]
  return .node ⟨.record ["first_element", "additional_elements"],
      [.word "EXCEPT (", .part 0, .someList 1 ", " ", " "", .word ")"]⟩
    [optional .ident names.head?, listOf .ident names.tail]

def starReplace : Rule Part := do
  if !(← keyword "REPLACE") then return .absent
  if !(← peekSymbol "(") then
    let t ← next
    unexpected "( after REPLACE but" t
  let items ← parenthesized (commaList do
    let e ← expr
    let explicit ← keyword "AS"
    let name ← identifier
    return Part.node ⟨.record ["expr", "column_name", "as_keyword"],
      [.part 0, .flag 2 " AS " " ", .part 1]⟩ [.expr e, .ident name, .flag explicit])
  return .node ⟨.record ["items"], [.word "REPLACE (", .list 0 ", ", .word ")"]⟩ [.list items]

/-- An identifier and the name it is given. -/
def Form.renamed : Form := ⟨.record ["ident", "alias"], [.part 0, .word " AS ", .part 1]⟩

def starRename : Rule Part := do
  if ← keyword "RENAME" then
    oneOrList "RENAME" do
      let i ← identifier
      let _ ← expectKeyword "AS"
      return .node .renamed [.ident i, .ident (← identifier)]
  else return .absent

/-- An asterisk and its options: ILIKE, EXCLUDE, EXCEPT, REPLACE, RENAME. -/
def Form.starOptions : Form :=
  ⟨.record ["wildcard_token", "opt_ilike", "opt_exclude", "opt_except", "opt_replace",
    "opt_rename"],
    [.opt 1 " " "", .opt 2 " " "", .opt 3 " " "", .opt 4 " " "", .opt 5 " " ""]⟩

/-- An asterisk as an item of a projection. -/
def Form.wildcard : Form := ⟨.newtype "Wildcard", [.word "*", .part 0]⟩

/-- The options after an asterisk. -/
def starOptions (star : Located) : Rule Part := do
  let like ← starIlike
  let exclude ← if like.isAbsent then excludePart else pure .absent
  let except ← starExcept
  let replace ← starReplace
  let rename ← starRename
  return .node .starOptions
    [attached star, like, exclude, except, replace, rename]

/-! ## Items -/

/-- An item of a projection. -/
def selectItem : Rule SelectItem := do
  match ← starredExpr with
  | .qualifiedStar name star =>
    let options ← starOptions star
    return .form ⟨.tuple "QualifiedWildcard", [.part 0, .word ".*", .part 1]⟩
      [.node ⟨.newtype "ObjectName", [.part 0]⟩ [.name name], options]
  | .star star =>
    return .form .wildcard [← starOptions star]
  | .expr (.column i) =>
    if i.value.toLower == "from" && i.quote.isNone then
      refuse ("Expected an expression, found: " ++ i.show) (← place)
    match ← columnAlias with
    | some label => return .aliased (.column i) label
    | none => return .plain (.column i)
  | .expr e =>
    match ← columnAlias with
    | some label => return .aliased e label
    | none => return .plain e

/-- Items with commas between them. -/
def selectItems : Rule (List SelectItem) := commaList selectItem

/-- Whether the items of a projection are over after a comma. -/
def endsProjection (t : Token) : Bool :=
  noColumnAlias.contains t.key || t matches .finish ||
    [")", ";", "]", "\x7d"].any t.isSymbol

/-- The items of a projection; a comma may follow the last one. -/
def projection : Rule (List SelectItem) := do
  let found ← iterate ([] : List SelectItem) fun found => do
    let item ← selectItem
    let more ← symbol ","
    return (item :: found, more && !endsProjection (← peek).token)
  return found.reverse

/-! ## Before the projection -/

/-- DISTINCT; ALL says nothing. -/
def distinctPart : Rule Part := do
  let start ← place
  let all ← keyword "ALL"
  let distinct ← keyword "DISTINCT"
  if !distinct then return .absent
  if all then refuse "Cannot specify both ALL and DISTINCT" start
  if !(← keyword "ON") then return .choice "Distinct" "DISTINCT"
  let _ ← expectSymbol "("
  let items ← commaList0 expr ")"
  let _ ← expectSymbol ")"
  return .node ⟨.newtype "On", [.word "DISTINCT ON (", .list 0 ", ", .word ")"]⟩
    [listOf .expr items]

def topPart : Rule Part := do
  if !(← keyword "TOP") then return .absent
  let quantity ← if ← peekSymbol "(" then do
      let e ← parenthesized expr
      pure (Part.node ⟨.newtype "Expr", [.word "(", .part 0, .word ")"]⟩ [.expr e])
    else do
      pure (.node ⟨.newtype "Constant", [.part 0]⟩ [.number (← wholeNumber)])
  let percent ← keyword "PERCENT"
  let ties ← keywords ["WITH", "TIES"]
  return .node ⟨.record ["with_ties", "percent", "quantity"],
      [.word "TOP ", .part 2, .flag 1 " PERCENT" "", .flag 0 " WITH TIES" ""]⟩
    [.flag ties, .flag percent, quantity]

def intoPart : Rule Part := do
  if !(← keyword "INTO") then return .absent
  let temporary := (← oneOf ["TEMP", "TEMPORARY"]).isSome
  let unlogged ← keyword "UNLOGGED"
  let isTable ← keyword "TABLE"
  let name ← objectName
  return .node ⟨.record ["temporary", "unlogged", "table", "name"],
      [.word "INTO", .flag 0 " TEMPORARY" "", .flag 1 " UNLOGGED" "", .flag 2 " TABLE" "", .word " ",
        .part 3]⟩
    [.flag temporary, .flag unlogged, .flag isTable, .name name]

/-! ## After the tables -/

def lateralView : Rule (Option Part) := do
  if !(← keywords ["LATERAL", "VIEW"]) then return none
  let outer ← keyword "OUTER"
  let e ← expr
  let name ← objectName
  let columns ← commaList (aliasWhere fun key =>
    !(["WHERE", "GROUP", "CLUSTER", "HAVING", "LATERAL"].contains key))
  return some (.node ⟨.record ["lateral_view", "lateral_view_name", "lateral_col_alias", "outer"],
      [.word " LATERAL VIEW", .flag 3 " OUTER" "", .word " ", .part 0, .word " ", .part 1,
        .someList 2 " AS " ", " ""]⟩
    [.expr e, .name name, listOf .ident (columns.filterMap id), .flag outer])

/-- START WITH and CONNECT BY, in either order. -/
def connectBy : Rule Part := do
  if !(← peekOneOf ["START", "CONNECT"]) then return .absent
  let relations : Rule (List Expr) := inMode .connectBy (commaList expr)
  let (condition, related) ← if ← keywords ["CONNECT", "BY"] then do
      let related ← relations
      expectKeywords ["START", "WITH"]
      pure (← expr, related)
    else do
      expectKeywords ["START", "WITH"]
      let condition ← expr
      expectKeywords ["CONNECT", "BY"]
      pure (condition, ← relations)
  return .node ⟨.record ["condition", "relationships"],
      [.word "START WITH ", .part 0, .word " CONNECT BY ", .list 1 ", "]⟩
    [.expr condition, listOf .expr related]

/-- The modifiers after GROUP BY. -/
def groupModifiers : Rule (List Part) := do
  let withs ← many do
    if ← keyword "WITH" then
      match ← expectOneOf ["ROLLUP", "CUBE", "TOTALS"] with
      | "ROLLUP" => return some (Part.choice "Rollup" "WITH ROLLUP")
      | "CUBE" => return some (.choice "Cube" "WITH CUBE")
      | _ => return some (.choice "Totals" "WITH TOTALS")
    return none
  if ← keywords ["GROUPING", "SETS"] then
    let sets ← parenthesized (commaList do
      if ← peekSymbol "(" then groupingSet else return .node .parens [.expr (← expr)])
    return withs ++ [.node ⟨.newtype "GroupingSets", [.part 0]⟩ [.expr (groupingSets sets)]]
  return withs

/-- No GROUP BY. -/
def noGroups : Part := .node ⟨.tuple "Expressions", []⟩ [.list [], .list []]

/-- The items after GROUP BY, and its modifiers. -/
def groupItems (items : List Expr) (modifiers : List Part) : Part :=
  .node ⟨.tuple "Expressions", [.word " GROUP BY ", .list 0 ", ", .someList 1 " " " " ""]⟩
    [listOf .expr items, .list modifiers]

/-- GROUP BY; without it there is an empty list of expressions. -/
def groupBy : Rule Part := do
  if !(← keywords ["GROUP", "BY"]) then return noGroups
  if ← keyword "ALL" then
    return .node ⟨.newtype "All", [.word " GROUP BY ALL", .someList 0 " " " " ""]⟩
      [.list (← groupModifiers)]
  let items ← commaList groupItem
  return groupItems items (← groupModifiers)

/-- A list after two words; without them it is empty. -/
def listAfter (words : List String) (r : Rule Part) : Rule Part := do
  if ← keywords words then return .list (← commaList r) else return .list []

def exprPart : Rule Part := return .expr (← expr)

/-- An expression after a word; without it there is none. -/
def exprAfter (word : String) : Rule Part := return optional .expr (← after word expr)

def namedWindow : Rule Part := do
  let name ← identifier
  let _ ← expectKeyword "AS"
  let window ← if ← symbol "(" then do
      let window ← windowSpec
      pure (Part.node .window [window])
    else do
      let base ← identifier
      pure (.node ⟨.newtype "NamedWindow", [.part 0]⟩ [.ident base])
  return .node ⟨.array, [.part 0, .word " AS ", .part 1]⟩ [.ident name, window]

/-- WINDOW and QUALIFY, in either order: the windows, the condition, and whether the windows come
first. -/
def windowClauses : Rule (List Part) := do
  if ← keyword "WINDOW" then
    let windows ← commaList namedWindow
    return [.list windows, ← exprAfter "QUALIFY", .flag true]
  let qualify ← exprAfter "QUALIFY"
  if !qualify.isAbsent then
    if ← keyword "WINDOW" then return [.list (← commaList namedWindow), qualify, .flag false]
  return [.list [], qualify, .flag false]

/-! ## Blocks -/

/-- The clauses of a block without any. -/
def noClauses : List Part :=
  [.list [], .absent, .absent, noGroups, .list [], .list [], .list [], .absent, .list [], .absent,
    .flag false, .absent]

/-- The clauses of a block after its tables. -/
def selectClauses : Rule (List Part) := do
  let views ← many lateralView
  let prewhere ← exprAfter "PREWHERE"
  let selection ← exprAfter "WHERE"
  let group ← groupBy
  let cluster ← listAfter ["CLUSTER", "BY"] exprPart
  let distribute ← listAfter ["DISTRIBUTE", "BY"] exprPart
  let sort ← listAfter ["SORT", "BY"] orderItem
  let having ← exprAfter "HAVING"
  let windows ← windowClauses
  let connected ← connectBy
  return [.list views, prewhere, selection, group, cluster, distribute, sort, having] ++ windows ++
    [connected]

/-- A SELECT block, which FROM may start. -/
def selectBlock : Rule Select := do
  let mut flavor := SelectFlavor.standard
  let mut sources : List TableWithJoins := []
  if ← peekKeyword "FROM" then
    let first ← expectKeyword "FROM"
    sources ← tableList
    flavor := .fromFirst
    if !(← peekKeyword "SELECT") then
      return .mk .fromOnly .absent [attached first, .absent, .absent, .flag false] []
        [.absent, .absent] sources noClauses
  let first ← expectKeyword "SELECT"
  let distinct ← distinctPart
  let top ← topPart
  let items ← if ← peekKeyword "FROM" then pure [] else projection
  let into ← intoPart
  if flavor == .standard then
    if ← keyword "FROM" then sources ← tableList
  let clauses ← selectClauses
  return .mk flavor .absent [attached first, distinct, top, .flag false] items [.absent, into]
    sources clauses

end ColumnMask.Sql
