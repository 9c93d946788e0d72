-- Function calls: their arguments, the clauses among and after the arguments, and the
-- windows they are computed over.
import ColumnMask.Sql.Grammar.Times

namespace ColumnMask.Sql

/-! ## Order -/

/-- The direction of an ORDER BY item and where nulls stand in it, if they are given. -/
def orderOptionsPart (ascending nullsFirst : Option Bool) : Part :=
  .node ⟨.record ["asc", "nulls_first"],
      [ .word (directionWord ascending),
        .word (match nullsFirst with
          | some true => " NULLS FIRST"
          | some false => " NULLS LAST"
          | none => "") ]⟩
    [optional .flag ascending, optional .flag nullsFirst]

/-- The direction of an ORDER BY item and where nulls stand in it. -/
def orderOptions : Rule Part := do
  let ascending ← direction
  let nullsFirst ← if ← keywords ["NULLS", "FIRST"] then pure (some true)
    else if ← keywords ["NULLS", "LAST"] then pure (some false) else pure none
  return orderOptionsPart ascending nullsFirst

/-- The bounds of WITH FILL. -/
def fillPart : Rule Part := do
  if ← keywords ["WITH", "FILL"] then
    let first ← after "FROM" expr
    let last ← after "TO" expr
    let step ← after "STEP" expr
    return .node ⟨.record ["from", "to", "step"],
        [.word "WITH FILL", .opt 0 " FROM " "", .opt 1 " TO " "", .opt 2 " STEP " ""]⟩
      [optional .expr first, optional .expr last, optional .expr step]
  return .absent

def Form.orderItem : Form :=
  ⟨.record ["expr", "options", "with_fill"], [.part 0, .part 1, .opt 2 " " ""]⟩

/-- An item of an ORDER BY. -/
def orderItem : Rule Part := do
  let e ← expr
  let options ← orderOptions
  return .node .orderItem [.expr e, options, ← fillPart]

/-! ## Windows -/

/-- Where a window frame starts or ends. -/
def frameBound : Rule Part := do
  if ← keywords ["CURRENT", "ROW"] then return .choice "CurrentRow" "CURRENT ROW"
  let rows ← if ← keyword "UNBOUNDED" then pure Part.absent
    else match (← peek).token with
      | .literal .plain _ => do
        pure (.expr (← interval))
      | _ => do pure (.expr (← expr))
  let bound (name word : String) : Part :=
    .node ⟨.newtype name, [.word (if rows.isAbsent then "UNBOUNDED" else ""), .part 0,
      .word (" " ++ word)]⟩ [rows]
  if ← keyword "PRECEDING" then return bound "Preceding" "PRECEDING"
  if ← keyword "FOLLOWING" then return bound "Following" "FOLLOWING"
  unexpected "PRECEDING or FOLLOWING" (← peek)

def windowFrame : Rule Part := do
  let t ← next
  let units ← match t.token.key with
    | "ROWS" => pure (Part.choice "Rows" "ROWS")
    | "RANGE" => pure (.choice "Range" "RANGE")
    | "GROUPS" => pure (.choice "Groups" "GROUPS")
    | _ => unexpected "ROWS, RANGE, GROUPS" t
  let fields := ["units", "start_bound", "end_bound"]
  if ← keyword "BETWEEN" then
    let first ← frameBound
    let _ ← expectKeyword "AND"
    let last ← frameBound
    return .node ⟨.record fields, [.part 0, .word " BETWEEN ", .part 1, .word " AND ", .part 2]⟩
      [units, first, last]
  let first ← frameBound
  return .node ⟨.record fields, [.part 0, .word " ", .part 1]⟩ [units, first, .absent]

def Form.windowSpec : Form :=
  ⟨.record ["window_name", "partition_by", "order_by", "window_frame"],
    [.joined " " [.part 0, .someList 1 "PARTITION BY " ", " "", .someList 2 "ORDER BY " ", " "",
      .part 3]]⟩

/-- A window in parentheses. -/
def Form.window : Form := ⟨.newtype "WindowSpec", [.word "(", .part 0, .word ")"]⟩

/-- A window, after its opening parenthesis. -/
def windowSpec : Rule Part := do
  let base ← if (← peek).token.isPlainWord then attempt identifier else pure none
  let partition ← if ← keywords ["PARTITION", "BY"] then commaList expr else pure []
  let order ← if ← keywords ["ORDER", "BY"] then commaList orderItem else pure []
  let frame ← if ← symbol ")" then pure Part.absent else do
    let frame ← windowFrame
    let _ ← expectSymbol ")"
    pure frame
  return .node .windowSpec [optional .ident base, listOf .expr partition, .list order, frame]

/-! ## Arguments -/

/-- An expression, or an asterisk with or without a name in front. -/
inductive Starred where
  | expr (e : Expr)
  | star (t : Located)
  | qualifiedStar (name : ObjectName) (t : Located)

/-- The rest of a dotted name that an asterisk may end. -/
def starredName (first : Ident) : Rule (ObjectName ⊕ (ObjectName × Located)) := do
  let (parts, star) ← iterate ([first], (none : Option Located)) fun (parts, _) => do
    if ← symbol "." then
      let t ← next
      match t.token with
      | .word value quote _ => return ((⟨value, quote, t.span⟩ :: parts, none), true)
      | .literal .plain text => return ((⟨text, some '\'', .nowhere⟩ :: parts, none), true)
      | .symbol "*" => return ((parts, some t), false)
      | _ => unexpected "an identifier or a '*' after '.'" t
    return ((parts, none), false)
  let name := parts.reverse.map NamePart.ident
  match star with
  | some t => return .inr (name, t)
  | none => return .inl name

/-- An expression, an asterisk or a name with one. -/
def starredExpr : Rule Starred := do
  let start ← get
  let t ← next
  match t.token with
  | .word .. | .literal .plain _ =>
    if ← peekSymbol "." then
      if let some first := t.ident? then
        if let .inr (name, star) ← starredName first then return .qualifiedStar name star
  | .symbol "*" => return .star t
  | _ => pure ()
  set start
  return .expr (← expr)

/-- An expression as an argument. -/
def exprArgument (e : Expr) : Part := .node ⟨.newtype "Expr", [.part 0]⟩ [.expr e]

/-- An argument without a name. -/
def unnamedArgument (p : Part) : Part := .node ⟨.newtype "Unnamed", [.part 0]⟩ [p]

/-- An argument by itself. -/
def Starred.part : Starred → Part
  | .expr e => exprArgument e
  | .star _ => .choice "Wildcard" "*"
  | .qualifiedStar n _ => .node ⟨.newtype "QualifiedWildcard", [.part 0, .word ".*"]⟩ [.name n]

/-- What stands between the name of an argument and the argument. -/
def argumentOperator : Rule Part := do
  if ← keyword "VALUE" then return .choice "Value" "VALUE"
  let t ← peek
  match t.token with
  | .symbol "=>" =>
    let _ ← next
    return .choice "RightArrow" "=>"
  | .symbol ":=" =>
    let _ ← next
    return .choice "Assignment" ":="
  | _ => unexpected "argument operator" t

/-- An argument, with its name if it has one. -/
def argument : Rule Part := do
  let named ← attempt do
    let name ← identifier
    let operator ← argumentOperator
    let value ← starredExpr
    return Part.node ⟨.variant "Named" ["name", "arg", "operator"],
      [.part 0, .word " ", .part 2, .word " ", .part 1]⟩ [.ident name, value.part, operator]
  match named with
  | some a => return a
  | none => return unnamedArgument (← starredExpr).part

/-- Whether nulls are respected or ignored. -/
def nullTreatment : Rule Part := do
  match ← oneOf ["RESPECT", "IGNORE"] with
  | some word =>
    let _ ← expectKeyword "NULLS"
    if word == "RESPECT" then return .choice "RespectNulls" "RESPECT NULLS"
    return .choice "IgnoreNulls" "IGNORE NULLS"
  | none => return .absent

/-- What becomes of nulls in a JSON value, and the type of that value. -/
def jsonClauses : Rule (List Part) := do
  let null ← if ← keywords ["ABSENT", "ON", "NULL"] then
      pure [Part.node ⟨.newtype "JsonNullClause", [.part 0]⟩ [.choice "AbsentOnNull" "ABSENT ON NULL"]]
    else if ← keywords ["NULL", "ON", "NULL"] then
      pure [Part.node ⟨.newtype "JsonNullClause", [.part 0]⟩ [.choice "NullOnNull" "NULL ON NULL"]]
    else pure []
  match ← after "RETURNING" dataType with
  | some type =>
    let returning := Part.node ⟨.record ["data_type"], [.word "RETURNING ", .part 0]⟩ [type]
    return null ++ [.node ⟨.newtype "JsonReturningClause", [.part 0]⟩ [returning]]
  | none => return null

/-- What becomes of a list of values that is too long. -/
def overflowClause : Rule (List Part) := do
  if !(← keywords ["ON", "OVERFLOW"]) then return []
  let clause (p : Part) : List Part := [.node ⟨.newtype "OnOverflow", [.word "ON OVERFLOW ", .part 0]⟩ [p]]
  if ← keyword "ERROR" then return clause (.choice "Error" "ERROR")
  let _ ← expectKeyword "TRUNCATE"
  let t ← peek
  let filler ← match t.token with
    | .literal .plain _ | .literal .escaped _ | .literal .unicode _ | .literal .national _
    | .literal .hex _ | .delimited .. => do pure (Part.expr (← expr))
    | .word _ _ key =>
      if key == "WITH" || key == "WITHOUT" then pure .absent
      else unexpected "either filler, WITH, or WITHOUT in LISTAGG" t
    | _ => unexpected "either filler, WITH, or WITHOUT in LISTAGG" t
  let withCount ← keyword "WITH"
  if !(← pure withCount <||> keyword "WITHOUT") then
    unexpected "either WITH or WITHOUT in LISTAGG" (← peek)
  let _ ← expectKeyword "COUNT"
  return clause (.node ⟨.variant "Truncate" ["filler", "with_count"],
    [.word "TRUNCATE", .opt 0 " " "", .flag 1 " WITH" " WITHOUT", .word " COUNT"]⟩
    [filler, .flag withCount])

/-- ALL or DISTINCT. -/
def duplicateTreatment : Rule Part := do
  let start ← place
  let all ← keyword "ALL"
  let distinct ← keyword "DISTINCT"
  if all && distinct then refuse "Cannot specify both ALL and DISTINCT" start
  if all then return .choice "All" "ALL"
  if distinct then return .choice "Distinct" "DISTINCT"
  return .absent

/-- The arguments of a call after the opening parenthesis. -/
def Form.arguments : Form :=
  ⟨.record ["duplicate_treatment", "args", "clauses"],
    [.opt 0 "" " ", .joined " " [.list 1 ", ", .list 2 " "]]⟩

/-- A call's clauses among its arguments: whether one of them says how nulls are treated. -/
structure Arguments where
  part : Part
  treatsNulls : Bool

def arguments : Rule Arguments := do
  let early ← jsonClauses
  if ← symbol ")" then return ⟨.node .arguments [.absent, .list [], .list early], false⟩
  let duplicates ← duplicateTreatment
  let args ← commaList argument
  let nulls ← nullTreatment
  let nullClauses : List Part := match nulls with
    | .absent => []
    | p => [.node ⟨.newtype "IgnoreOrRespectNulls", [.part 0]⟩ [p]]
  let order ← if ← keywords ["ORDER", "BY"] then do
      let items ← commaList orderItem
      pure [Part.node ⟨.newtype "OrderBy", [.word "ORDER BY ", .list 0 ", "]⟩ [.list items]]
    else pure []
  let limit ← if ← keyword "LIMIT" then do
      let e ← expr
      pure [Part.node ⟨.newtype "Limit", [.word "LIMIT ", .part 0]⟩ [.expr e]]
    else pure []
  let having ← if ← keyword "HAVING" then do
      let kind ← expectOneOf ["MIN", "MAX"]
      let e ← expr
      let kind := Part.choice (if kind == "MIN" then "Min" else "Max") kind
      let bound := Part.node ⟨.array, [.word "HAVING ", .part 0, .word " ", .part 1]⟩ [kind, .expr e]
      pure [Part.node ⟨.newtype "Having", [.part 0]⟩ [bound]]
    else pure []
  let separator ← if ← keyword "SEPARATOR" then do
      let v ← valuePart
      pure [Part.node ⟨.newtype "Separator", [.word "SEPARATOR ", .part 0]⟩ [v]]
    else pure []
  let overflow ← overflowClause
  let late ← jsonClauses
  let _ ← expectSymbol ")"
  let clauses := early ++ nullClauses ++ order ++ limit ++ having ++ separator ++ overflow ++ late
  return ⟨.node .arguments [duplicates, .list args, .list clauses], !nullClauses.isEmpty⟩

/-! ## Calls -/

/-- The arguments of a call, as the part of the call. -/
def argumentList (p : Part) : Part := .node ⟨.newtype "List", [.word "(", .part 0, .word ")"]⟩ [p]

/-- No arguments at all, without parentheses. -/
def noArguments : Part := .choice "None" ""

/-- A query as the only argument. -/
def queryArgument (q : Query) : Part :=
  .node ⟨.newtype "Subquery", [.word "(", .part 0, .word ")"]⟩ [.query q]

/-- A call with nothing after its arguments. -/
def Expr.call (name : ObjectName) (args : Part) : Expr :=
  .form .function [.name name, .flag false, noArguments, args, .absent, .absent, .absent, .list []]

/-- A call of the named function, from its opening parenthesis on. -/
def callParts (odbc : Bool) (name : ObjectName) : Rule (List Part) := do
  let _ ← expectSymbol "("
  let first ← arguments
  let (parameters, args) ← if ← symbol "(" then do
      let second ← arguments
      pure (argumentList first.part, second)
    else pure (noArguments, first)
  let withinGroup ← if ← keywords ["WITHIN", "GROUP"] then
      parenthesized do
        expectKeywords ["ORDER", "BY"]
        commaList orderItem
    else pure []
  let filter ← if ← keyword "FILTER" <&&> symbol "(" <&&> keyword "WHERE" then do
      let condition ← expr
      let _ ← expectSymbol ")"
      pure (Part.expr condition)
    else pure .absent
  let nulls ← if args.treatsNulls then pure .absent else nullTreatment
  let window ← if ← keyword "OVER" then
      if ← symbol "(" then do
        let spec ← windowSpec
        pure (Part.node .window [spec])
      else do
        let name ← identifier
        pure (.node ⟨.newtype "NamedWindow", [.part 0]⟩ [.ident name])
    else pure .absent
  return [.name name, .flag odbc, parameters, argumentList args.part, filter, nulls, window,
    .list withinGroup]

def call (name : ObjectName) : Rule Expr := return .form .function (← callParts false name)

end ColumnMask.Sql
