-- Expressions without operators: literals, names, calls, and the constructs that start
-- with a word of their own. A word that starts such a construct in vain is a name.
import ColumnMask.Sql.Grammar.Calls

namespace ColumnMask.Sql

/-! ## Conversions -/

/-- The format of a conversion, with a time zone if it has one. -/
def castFormat : Rule Part := do
  if ← keyword "FORMAT" then
    let v ← valuePart
    if ← keywords ["AT", "TIME", "ZONE"] then
      return .node ⟨.tuple "ValueAtTimeZone", [.part 0, .word " AT TIME ZONE ", .part 1]⟩
        [v, ← valuePart]
    return .node ⟨.newtype "Value", [.part 0]⟩ [v]
  return .absent

/-- A conversion after its word. -/
def castExpr (name word : String) : Rule Expr := parenthesized do
  let e ← expr
  let _ ← expectKeyword "AS"
  let type ← dataType
  let format ← castFormat
  return .node "Cast" ["kind", "expr", "data_type", "format"]
    [.part 0, .word "(", .part 1, .word " AS ", .part 2, .opt 3 " FORMAT " "", .word ")"]
    [.choice name word, .expr e, type, format]

/-- CONVERT, to a character set or to a type. -/
def convertExpr (attempted : Bool) : Rule Expr := parenthesized do
  let e ← expr
  let fields := ["is_try", "expr", "data_type", "charset", "target_before_value", "styles"]
  let opening : List Piece := [.flag 0 "TRY_" "", .word "CONVERT(", .part 1]
  if ← keyword "USING" then
    let charset ← objectName
    return .node "Convert" fields (opening ++ [.word " USING ", .part 3, .word ")"])
      [.flag attempted, .expr e, .absent, .name charset, .flag false, .list []]
  let _ ← expectSymbol ","
  let type ← dataType
  let charset ← if ← keywords ["CHARACTER", "SET"] then do pure (Part.name (← objectName))
    else pure .absent
  return .node "Convert" fields
    (opening ++ [.word ", ", .part 2, .opt 3 " CHARACTER SET " "", .word ")"])
    [.flag attempted, .expr e, type, charset, .flag false, .list []]

/-! ## Functions with words among their arguments -/

/-- EXISTS after its word. -/
def existsExpr (negated : Bool) : Rule Expr := do
  let q ← parenthesized query
  return .node "Exists" ["subquery", "negated"]
    [.flag 1 "NOT " "", .word "EXISTS (", .part 0, .word ")"] [.query q, .flag negated]

def extractExpr : Rule Expr := parenthesized do
  let field ← timeField
  let separator ← if ← keyword "FROM" then pure (Part.choice "From" " FROM ")
    else if ← symbol "," then pure (.choice "Comma" ", ")
    else refuse "Expected 'FROM' or ','"
  let e ← expr
  return .node "Extract" ["field", "syntax", "expr"]
    [.word "EXTRACT(", .part 0, .part 1, .part 2, .word ")"] [field, separator, .expr e]

/-- CEIL and FLOOR, with a field or a scale. -/
def roundingExpr (name word : String) : Rule Expr := parenthesized do
  let e ← expr
  let layout (separator : String) : List Piece :=
    [.word (word ++ "("), .part 0, .word separator, .part 1, .word ")"]
  let field (p : Part) : Part := .node ⟨.newtype "DateTimeField", [.part 0]⟩ [p]
  if ← keyword "TO" then
    let f ← timeField
    return .node name ["expr", "field"] (layout " TO ") [.expr e, field f]
  if ← symbol "," then
    let (v, _) ← literalValue
    match v with
    | .number .. =>
      let scale := Part.node ⟨.newtype "Scale", [.part 0]⟩ [.value v]
      return .node name ["expr", "field"] (layout ", ") [.expr e, scale]
    | _ => refuse "Scale field can only be of number type"
  return .node name ["expr", "field"] (layout "") [.expr e, field (.choice "NoDateTime" "")]

/-- POSITION with IN, or a call of a function of that name. -/
def positionExpr (name : Ident) : Rule Expr := do
  let found ← attempt <| parenthesized do
    let e ← subexpr binds.between
    let _ ← expectKeyword "IN"
    return (e, ← expr)
  match found with
  | some (e, text) =>
    return .node "Position" ["expr", "in"]
      [.word "POSITION(", .part 0, .word " IN ", .part 1, .word ")"] [.expr e, .expr text]
  | none => call [.ident name]

def substringExpr (short : Bool) : Rule Expr := parenthesized do
  let e ← expr
  let special ← symbol ","
  let start ← if ← pure special <||> keyword "FROM" then do pure (some (← expr)) else pure none
  let length ← if ← keyword "FOR" <||> symbol "," then do pure (some (← expr)) else pure none
  return .node "Substring" ["expr", "substring_from", "substring_for", "special", "shorthand"]
    [.word (if short then "SUBSTR(" else "SUBSTRING("), .part 0,
      .opt 1 (if special then ", " else " FROM ") "", .opt 2 (if special then ", " else " FOR ") "",
      .word ")"]
    [.expr e, optional .expr start, optional .expr length, .flag special, .flag short]

def overlayExpr : Rule Expr := parenthesized do
  let e ← expr
  let _ ← expectKeyword "PLACING"
  let what ← expr
  let _ ← expectKeyword "FROM"
  let start ← expr
  let length ← after "FOR" expr
  return .node "Overlay" ["expr", "overlay_what", "overlay_from", "overlay_for"]
    [.word "OVERLAY(", .part 0, .word " PLACING ", .part 1, .word " FROM ", .part 2,
      .opt 3 " FOR " "", .word ")"]
    [.expr e, .expr what, .expr start, optional .expr length]

def trimExpr : Rule Expr := parenthesized do
  let side ← match ← oneOf ["BOTH", "LEADING", "TRAILING"] with
    | some "BOTH" => pure (Part.choice "Both" "BOTH")
    | some "LEADING" => pure (.choice "Leading" "LEADING")
    | some _ => pure (.choice "Trailing" "TRAILING")
    | none => pure .absent
  let first ← expr
  let node (e side what characters : Part) : Expr :=
    .node "Trim" ["expr", "trim_where", "trim_what", "trim_characters"]
      [.word "TRIM(", .opt 1 "" " ", .opt 2 "" " FROM ", .part 0, .opt 3 ", " "", .word ")"]
      [e, side, what, characters]
  if ← keyword "FROM" then
    let e ← expr
    return node (.expr e) side (.expr first) .absent
  if ← symbol "," then
    return node (.expr first) .absent .absent (listOf .expr (← commaList expr))
  return node (.expr first) side .absent .absent

/-- MATCH AGAINST after MATCH. -/
def matchExpr : Rule Expr := do
  let columns ← nameList
  let _ ← expectKeyword "AGAINST"
  let (v, manner) ← parenthesized do
    let v ← valuePart
    let expansion := ["WITH", "QUERY", "EXPANSION"]
    let manner ← if ← keywords ["IN", "NATURAL", "LANGUAGE", "MODE"] then
        if ← keywords expansion then
          pure (Part.choice "InNaturalLanguageModeWithQueryExpansion"
            "IN NATURAL LANGUAGE MODE WITH QUERY EXPANSION")
        else pure (.choice "InNaturalLanguageMode" "IN NATURAL LANGUAGE MODE")
      else if ← keywords ["IN", "BOOLEAN", "MODE"] then
        pure (.choice "InBooleanMode" "IN BOOLEAN MODE")
      else if ← keywords expansion then
        pure (.choice "WithQueryExpansion" "WITH QUERY EXPANSION")
      else pure .absent
    return (v, manner)
  return .node "MatchAgainst" ["columns", "match_value", "opt_search_modifier"]
    [.word "MATCH (", .list 0 ", ", .word ") AGAINST (", .part 1, .opt 2 " " "", .word ")"]
    [listOf .name columns, v, manner]

/-! ## Constructs -/

def caseExpr : Rule Expr := do
  let first ← lastRead
  let operand ← if ← keyword "WHEN" then pure none else do
    let e ← expr
    let _ ← expectKeyword "WHEN"
    pure (some e)
  let branches ← iterate ([] : List Part) fun found => do
    let condition ← expr
    let _ ← expectKeyword "THEN"
    let result ← expr
    let branch := Part.node ⟨.record ["condition", "result"],
      [.word "WHEN ", .part 0, .word " THEN ", .part 1]⟩ [.expr condition, .expr result]
    return (branch :: found, ← keyword "WHEN")
  let otherwise ← after "ELSE" expr
  let last ← expectKeyword "END"
  return .node "Case" ["case_token", "end_token", "operand", "conditions", "else_result"]
    [.word "CASE", .opt 2 " " "", .word " ", .list 3 " ", .opt 4 " ELSE " "", .word " END"]
    [attached first, attached last, optional .expr operand, .list branches.reverse,
      optional .expr otherwise]

def notExpr : Rule Expr := do
  if ← keyword "EXISTS" then existsExpr true
  else
    let e ← subexpr binds.not
    return .node "UnaryOp" ["op", "expr"] [.part 0, .word " ", .part 1]
      [.choice "Not" "NOT", .expr e]

/-- The elements of an array after the opening bracket. -/
def arrayExpr (named : Bool) : Rule Expr := do
  let elements ← commaList0 expr "]"
  let _ ← expectSymbol "]"
  return .node "Array" ["elem", "named"] [.flag 1 "ARRAY" "", .word "[", .list 0 ", ", .word "]"]
    [listOf .expr elements, .flag named]

/-- A structure after its word, with the types of its fields or without. -/
def structExpr : Rule Expr := do
  let (fields, closed) ← structFields
  if closed then refuse "unmatched > in STRUCT literal" (← place)
  let values ← parenthesized (commaList do
    let e ← expr
    let start ← place
    if ← keyword "AS" then
      if !fields.isEmpty then refuse "Typed syntax does not allow AS" start
      let name ← identifier
      return Expr.node "Named" ["expr", "name"] [.part 0, .word " AS ", .part 1]
        [.expr e, .ident name]
    return e)
  return .node "Struct" ["values", "fields"]
    [.word "STRUCT", .someList 1 "<" ", " ">", .word "(", .list 0 ", ", .word ")"]
    [listOf .expr values, .list fields]

/-- Entries in braces, with colons between keys and values. -/
def braced (key : Rule Part) : Rule (List Part) := do
  let _ ← expectSymbol "\x7b"
  let entries ← commaList0 (do
    let k ← key
    let _ ← expectSymbol ":"
    let v ← expr
    return Part.node ⟨.record ["key", "value"], [.part 0, .word ": ", .part 1]⟩ [k, .expr v]) "\x7d"
  let _ ← expectSymbol "\x7d"
  return entries

def mapExpr : Rule Expr := do
  let entries ← braced (return .expr (← expr))
  let map := Part.node ⟨.record ["entries"], [.word "MAP \x7b", .list 0 ", ", .word "\x7d"]⟩
    [.list entries]
  return .wrap "Map" [.part 0] map

def typedText (type value : Part) (odbc : Option String) : Expr :=
  .node "TypedString" ["data_type", "value", "uses_odbc_syntax"]
    (match odbc with
      | some word => [.word ("\x7b" ++ word ++ " "), .part 1, .word "\x7d"]
      | none => [.part 0, .word " ", .part 1])
    [type, value, .flag odbc.isSome]

/-- A date, a time or a time stamp in the notation with braces. -/
def bracedTime : Rule Expr := do
  let t ← next
  let timed (name word : String) : Part :=
    .node ⟨.tuple name, [.word word]⟩ [.absent, .choice "None" ""]
  let type ← match t.token.show with
    | "d" => pure (Part.choice "Date" "DATE")
    | "t" => pure (timed "Time" "TIME")
    | "ts" => pure (timed "Timestamp" "TIMESTAMP")
    | _ => unexpected "ODBC datetime keyword (t, d, or ts)" t
  return typedText type (← spannedValue) (some t.token.show)

/-- What starts with a brace: a time, a call or a dictionary. -/
def bracedExpr : Rule Expr := do
  let start ← get
  let _ ← expectSymbol "\x7b"
  let special ← attempt bracedTime
  let special ← match special with
    | some e => pure (some e)
    | none => attempt do
      let _ ← expectKeyword "FN"
      let name ← objectName
      return Expr.form .function (← callParts true name)
  match special with
  | some e =>
    let _ ← expectSymbol "\x7d"
    return e
  | none =>
    set start
    let entries ← braced (return .ident (← identifier))
    return .wrap "Dictionary" [.word "\x7b", .list 0 ", ", .word "\x7d"] (.list entries)

/-- Expressions in parentheses. -/
def Form.exprTuple : Form := ⟨.tuple "Tuple", [.word "(", .all ", ", .word ")"]⟩

/-- An expression in parentheses. -/
def Form.nestedExpr : Form := ⟨.newtype "Nested", [.word "(", .part 0, .word ")"]⟩

/-- What starts with a parenthesis: a query, an expression or a tuple. -/
def parenthesizedExpr : Rule Expr := do
  if ← peekSubquery then
    let q ← query
    let _ ← expectSymbol ")"
    return .form .subquery [.query q]
  let items ← inMode .normal (commaList expr)
  let _ ← expectSymbol ")"
  match items with
  | [e] => return .form .nestedExpr [.expr e]
  | es => return .form .exprTuple (es.map .expr)

/-! ## Words -/

/-- The functions of the current time, which need no parentheses. -/
def timeFunctions : List String :=
  [ "CURRENT_TIMESTAMP", "CURRENT_TIME", "CURRENT_DATE", "LOCALTIME", "LOCALTIMESTAMP" ]

/-- The expression that a word starts by its meaning, if it has one. The word has been read. -/
def specialExpr (name : Ident) (key : String) : Rule (Option Expr) := do
  match key with
  | "TRUE" | "FALSE" =>
    return some (.ofValue (.boolean (key == "TRUE")) name.span)
  | "NULL" => return some (.ofValue .null name.span)
  | "CURRENT_CATALOG" | "CURRENT_USER" | "SESSION_USER" | "USER" =>
    return some (.call [.ident name] noArguments)
  | "CASE" => return some (← caseExpr)
  | "CONVERT" => return some (← convertExpr false)
  | "TRY_CONVERT" => return some (← convertExpr true)
  | "CAST" => return some (← castExpr "Cast" "CAST")
  | "TRY_CAST" => return some (← castExpr "TryCast" "TRY_CAST")
  | "SAFE_CAST" => return some (← castExpr "SafeCast" "SAFE_CAST")
  | "EXISTS" => return some (← existsExpr false)
  | "EXTRACT" => return some (← extractExpr)
  | "CEIL" => return some (← roundingExpr "Ceil" "CEIL")
  | "FLOOR" => return some (← roundingExpr "Floor" "FLOOR")
  | "POSITION" => if ← peekSymbol "(" then return some (← positionExpr name) else return none
  | "SUBSTR" => return some (← substringExpr true)
  | "SUBSTRING" => return some (← substringExpr false)
  | "OVERLAY" => return some (← overlayExpr)
  | "TRIM" => return some (← trimExpr)
  | "INTERVAL" => return some (← interval)
  | "ARRAY" =>
    if ← symbol "[" then return some (← arrayExpr true)
    if ← symbol "(" then
      let q ← query
      let _ ← expectSymbol ")"
      return some (.call [.ident name] (queryArgument q))
    return none
  | "NOT" => return some (← notExpr)
  | "MATCH" => return some (← matchExpr)
  | "STRUCT" => return some (← structExpr)
  | "PRIOR" =>
    if (← currentMode) == .connectBy then
      let e ← subexpr binds.plus
      return some (.wrap "Prior" [.word "PRIOR ", .part 0] (.expr e))
    return none
  | "MAP" => if ← peekSymbol "\x7b" then return some (← mapExpr) else return none
  | _ =>
    if timeFunctions.contains key then
      if ← symbol "(" then
        let args ← arguments
        return some (.call [.ident name] (argumentList args.part))
      return some (.call [.ident name] noArguments)
    return none

/-- The expression that a word starts as a name: a call, a text with a character set, or a
column. -/
def namedExpr (name : Ident) : Rule Expr := do
  let t ← peek
  let introduced := name.value.startsWith "_"
  match t.token with
  | .symbol "(" => call [.ident name]
  | .literal kind text =>
    if introduced && [Literal.plain, .wide, .hex].contains kind then
      let _ ← next
      let value := Expr.ofValue (.text kind text) t.span
      return .node "Prefixed" ["prefix", "value"] [.part 0, .word " ", .part 1]
        [.ident name, .expr value]
    return .column name
  | _ => return .column name

/-- An expression with the collation after it, if it has one. An option of a column may start with
the same word, so there is no collation in those. -/
def collated (e : Expr) : Rule Expr := do
  if (← currentMode) == .columnDefinition then return e
  if ← keyword "COLLATE" then
    let collation ← objectName
    return .node "Collate" ["expr", "collation"] [.part 0, .word " COLLATE ", .part 1]
      [.expr e, .name collation]
  return e

/-- The expression that a word starts, which has been read. -/
def wordExpr (name : Ident) (key : String) : Rule Expr := do
  match ← trial (specialExpr name key) with
  | .ok (some e) => collated e
  | .ok none => collated (← namedExpr name)
  | .error fault =>
    if noColumn.contains key then throw fault
    match ← attempt (namedExpr name) with
    | some e => return e
    | none => throw fault

/-! ## All expressions without operators -/

/-- A text with its type in front; the type must not be one of the user. -/
def typedExpr : Rule Expr := do
  let start ← place
  let type ← readType
  if type.isInterval then interval
  else if type.isCustom then refuse "dummy" start
  else if type.isClosed then refuse "unmatched >"
  else return typedText type.tree (← spannedValue) none

/-- An operator in front of an expression. -/
def unaryExpr (name sign : String) (precedence : Nat) : Rule Expr := do
  let e ← subexpr precedence
  return .node "UnaryOp" ["op", "expr"] [.part 0, .part 1] [.choice name sign, .expr e]

/-- What starts with a token that is no word. -/
def markedExpr : Rule Expr := do
  let start ← get
  let t ← next
  match t.token with
  | .symbol "[" => arrayExpr false
  | .symbol "-" => unaryExpr "Minus" "-" binds.times
  | .symbol "+" => unaryExpr "Plus" "+" binds.times
  | .symbol "~" => unaryExpr "BitwiseNot" "~" binds.plus
  | .symbol "(" => parenthesizedExpr
  | .symbol "\x7b" =>
    set start
    bracedExpr
  | .symbol ":" | .symbol "@" =>
    set start
    valueExpr
  | token =>
    match token.value? with
    | some v => return .ofValue v t.span
    | none => unexpected "an expression" t

def primaryRule : Rule Expr := do
  if let some e ← attempt typedExpr then return e
  let t ← peek
  match t.token with
  | .word value quote key =>
    let _ ← next
    wordExpr ⟨value, quote, t.span⟩ key
  | _ => collated (← markedExpr)

/-! ## Groupings -/

/-- Expressions in parentheses, or none at all there, or one expression without them. -/
def groupingSet : Rule Part := do
  let items ← if ← peekSymbol "(" then parenthesized (commaList0 expr ")") else List.singleton <$> expr
  return .node .parens (items.map .expr)

/-- The same, or one expression without parentheses; a single one is shown without them. -/
def groupingElement : Rule Part := do
  if ← symbol "(" then
    let items ← commaList0 expr ")"
    let _ ← expectSymbol ")"
    match items with
    | [e] => return .list [.expr e]
    | es => return .node .parens (es.map .expr)
  else return .list [.expr (← expr)]

def groupingSets (sets : List Part) : Expr :=
  .wrap "GroupingSets" [.word "GROUPING SETS (", .list 0 ", ", .word ")"] (.list sets)

/-- An item of GROUP BY. -/
def groupItem : Rule Expr := do
  if ← keywords ["GROUPING", "SETS"] then
    return groupingSets (← parenthesized (commaList groupingSet))
  if ← keyword "CUBE" then
    let sets ← parenthesized (commaList groupingElement)
    return .wrap "Cube" [.word "CUBE (", .list 0 ", ", .word ")"] (.list sets)
  if ← keyword "ROLLUP" then
    let sets ← parenthesized (commaList groupingElement)
    return .wrap "Rollup" [.word "ROLLUP (", .list 0 ", ", .word ")"] (.list sets)
  if ← symbols ["(", ")"] then return .tuple "Tuple" [.word "()"] []
  expr

end ColumnMask.Sql
