-- How the parts of an expression are joined: operators with their precedences, the
-- comparisons that are words, and the accesses to a part of a value.
import ColumnMask.Sql.Grammar.Types

namespace ColumnMask.Sql

/-! ## Building nodes -/

/-- An expression with named fields. -/
def Expr.node (name : String) (fields : List String) (layout : List Piece) (parts : List Part) :
    Expr :=
  .form ⟨.variant name fields, layout⟩ parts

/-- An expression with one part. -/
def Expr.wrap (name : String) (layout : List Piece) (part : Part) : Expr :=
  .form ⟨.newtype name, layout⟩ [part]

/-- An expression with a list of parts. -/
def Expr.tuple (name : String) (layout : List Piece) (parts : List Part) : Expr :=
  .form ⟨.tuple name, layout⟩ parts

/-! ## Precedences -/

/-- How strongly operators bind. -/
structure Binds where
  or : Nat := 5
  and : Nat := 10
  not : Nat := 15
  other : Nat := 16
  is : Nat := 17
  like : Nat := 19
  between : Nat := 20
  equal : Nat := 20
  pipe : Nat := 21
  caret : Nat := 22
  ampersand : Nat := 23
  xor : Nat := 24
  plus : Nat := 30
  times : Nat := 40
  atZone : Nat := 41
  cast : Nat := 50
  period : Nat := 100

def binds : Binds := {}

/-- The precedence of an operator that is a symbol; zero for all other symbols. -/
def symbolPrecedence (text : String) : Nat :=
  if text ∈ ["=", "==", "<", "<=", "<>", ">", ">=", ":=", "<=>", "~", "~*", "!~", "!~*", "~~", "~~*",
      "!~~", "!~~*"] then binds.equal
  else if text ∈ ["|", "&&", "@"] then binds.pipe
  else if text ∈ ["^", "#", "<<", ">>"] then binds.caret
  else if text = "&" then binds.ampersand
  else if text ∈ ["+", "-"] then binds.plus
  else if text ∈ ["*", "/", "//", "%", "||"] then binds.times
  else if text ∈ ["::", "!", "[", "^@"] then binds.cast
  else if text ∈ ["->", "->>", "#>", "#>>", "@>", "<@", "#-", "@?", "@@"] then binds.other
  else if text = "." then binds.period
  else 0

/-- The precedence of NOT is that of the comparison after it. -/
def precedenceAfterNot (key : String) (mode : Mode) : Nat :=
  if key ∈ ["IN", "BETWEEN"] then binds.between
  else if key ∈ ["LIKE", "ILIKE", "RLIKE", "REGEXP", "MATCH", "SIMILAR", "MEMBER"] then binds.like
  else if key = "NULL" ∧ mode ≠ .columnDefinition then binds.is
  else 0

/-- The precedence of the operator that comes next. -/
def nextPrecedence : Rule Nat := do
  match (← peek).token with
  | .symbol text => return symbolPrecedence text
  | .word _ _ key =>
    match key with
    | "OR" => return binds.or
    | "AND" => return binds.and
    | "XOR" => return binds.xor
    | "AT" =>
      let zone := (← peekAfter 1).token.key == "TIME" && (← peekAfter 2).token.key == "ZONE"
      return if zone then binds.atZone else 0
    | "NOT" => return precedenceAfterNot (← peekAfter 1).token.key (← currentMode)
    | "IS" => return binds.is
    | "IN" | "BETWEEN" | "OVERLAPS" | "OPERATOR" => return binds.between
    | "LIKE" | "ILIKE" | "RLIKE" | "REGEXP" | "MATCH" | "SIMILAR" | "MEMBER" => return binds.like
    | "DIV" => return binds.times
    | _ => return 0
  | _ => return 0

/-! ## Binary operators -/

/-- Two expressions with an operator between them. -/
def Form.binary : Form :=
  ⟨.variant "BinaryOp" ["left", "op", "right"], [.part 0, .word " ", .part 1, .word " ", .part 2]⟩

/-- The operators between two expressions: symbol, name and spelling. -/
def binaryOperators : List (String × String × String) :=
  [ ("<=>", "Spaceship", "<=>"), ("==", "Eq", "="), (":=", "Assignment", ":="), ("=", "Eq", "="),
    ("<>", "NotEq", "<>"), (">", "Gt", ">"), (">=", "GtEq", ">="), ("<", "Lt", "<"),
    ("<=", "LtEq", "<="), ("+", "Plus", "+"), ("-", "Minus", "-"), ("*", "Multiply", "*"),
    ("%", "Modulo", "%"), ("||", "StringConcat", "||"), ("|", "BitwiseOr", "|"),
    ("^", "BitwiseXor", "^"), ("&", "BitwiseAnd", "&"), ("/", "Divide", "/"),
    ("//", "DuckIntegerDivide", "//"), ("<<", "PGBitwiseShiftLeft", "<<"),
    (">>", "PGBitwiseShiftRight", ">>"), ("&&", "PGOverlap", "&&"), ("^@", "PGStartsWith", "^@"),
    ("~", "PGRegexMatch", "~"),
    ("~*", "PGRegexIMatch", "~*"), ("!~", "PGRegexNotMatch", "!~"),
    ("!~*", "PGRegexNotIMatch", "!~*"), ("~~", "PGLikeMatch", "~~"), ("~~*", "PGILikeMatch", "~~*"),
    ("!~~", "PGNotLikeMatch", "!~~"), ("!~~*", "PGNotILikeMatch", "!~~*"), ("->", "Arrow", "->"),
    ("->>", "LongArrow", "->>"), ("#>", "HashArrow", "#>"), ("#>>", "HashLongArrow", "#>>"),
    ("@>", "AtArrow", "@>"), ("<@", "ArrowAt", "<@"), ("#-", "HashMinus", "#-"),
    ("@?", "AtQuestion", "@?"), ("@@", "AtAt", "@@") ]

/-- The operators that ANY, SOME and ALL may follow. -/
def comparisons : List String :=
  [ ">", "<", ">=", "<=", "=", "<>", "~", "~*", "!~", "!~*", "~~", "~~*", "!~~", "!~~*" ]

/-- The operator that a token is, which has been read: its part, and its spelling. -/
def binaryOperator (t : Token) : Rule (Option (Part × String)) := do
  match t with
  | .symbol text =>
    match binaryOperators.find? (·.1 == text) with
    | some (_, name, spelling) => return some (.choice name spelling, spelling)
    | none => return none
  | .word _ _ "AND" => return some (.choice "And" "AND", "AND")
  | .word _ _ "OR" => return some (.choice "Or" "OR", "OR")
  | .word _ _ "XOR" => return some (.choice "Xor" "XOR", "XOR")
  | .word _ _ "OVERLAPS" => return some (.choice "Overlaps" "OVERLAPS", "OVERLAPS")
  | .word _ _ "OPERATOR" =>
    let _ ← expectSymbol "("
    let parts ← iterate ([] : List String) fun found => do
      let t ← next
      return (t.token.show :: found, ← symbol ".")
    let _ ← expectSymbol ")"
    let parts := parts.reverse
    let custom : Form := ⟨.newtype "PGCustomBinaryOperator", [.word "OPERATOR(", .part 0, .word ")"]⟩
    let names := Part.node ⟨.array, [.all "."]⟩ (parts.map .text)
    return some (.node custom [names], "OPERATOR(" ++ ".".intercalate parts ++ ")")
  | _ => return none

/-! ## Comparisons that are words -/

/-- The character after ESCAPE. -/
def escapePart : Rule Part := do
  if ← keyword "ESCAPE" then valuePart else return .absent

/-- LIKE and ILIKE after the word itself. -/
def likePattern (name word : String) (e : Expr) (negated : Bool) : Rule Expr := do
  let any ← keyword "ANY"
  let pattern ← subexpr binds.like
  let escaped ← escapePart
  return .node name ["negated", "any", "expr", "pattern", "escape_char"]
    [.part 2, .flag 0 " NOT" "", .word (" " ++ word ++ " "), .flag 1 "ANY " "", .part 3,
      .opt 4 " ESCAPE " ""]
    [.flag negated, .flag any, .expr e, .expr pattern, escaped]

def Form.inSubquery : Form :=
  ⟨.variant "InSubquery" ["expr", "subquery", "negated"],
    [.part 0, .flag 2 " NOT" "", .word " IN (", .part 1, .word ")"]⟩

/-- IN after the word itself: an array, a query or a list. -/
def inOperand (e : Expr) (negated : Bool) : Rule Expr := do
  if ← keyword "UNNEST" then
    let array ← parenthesized expr
    return .node "InUnnest" ["expr", "array_expr", "negated"]
      [.part 0, .flag 2 " NOT" "", .word " IN UNNEST(", .part 1, .word ")"]
      [.expr e, .expr array, .flag negated]
  let _ ← expectSymbol "("
  match ← attempt query with
  | some q =>
    let _ ← expectSymbol ")"
    return .form .inSubquery [.expr e, .query q, .flag negated]
  | none =>
    let items ← commaList expr
    let _ ← expectSymbol ")"
    return .node "InList" ["expr", "list", "negated"]
      [.part 0, .flag 2 " NOT" "", .word " IN (", .list 1 ", ", .word ")"]
      [.expr e, listOf .expr items, .flag negated]

def betweenBounds (e : Expr) (negated : Bool) : Rule Expr := do
  let low ← subexpr binds.between
  let _ ← expectKeyword "AND"
  let high ← subexpr binds.between
  return .node "Between" ["expr", "negated", "low", "high"]
    [.part 0, .flag 1 " NOT" "", .word " BETWEEN ", .part 2, .word " AND ", .part 3]
    [.expr e, .flag negated, .expr low, .expr high]

/-- What may follow NOT between two expressions, or stand there without it. -/
def wordComparison (e : Expr) (negated : Bool) : Rule Expr := do
  let regexp ← keyword "REGEXP"
  let rlike ← keyword "RLIKE"
  let null ← if (← currentMode) == .columnDefinition then pure false else keyword "NULL"
  if regexp || rlike then
    let pattern ← subexpr binds.like
    return .node "RLike" ["negated", "expr", "pattern", "regexp"]
      [.part 1, .flag 0 " NOT" "", .flag 3 " REGEXP " " RLIKE ", .part 2]
      [.flag negated, .expr e, .expr pattern, .flag regexp]
  if negated && null then return .wrap "IsNotNull" [.part 0, .word " IS NOT NULL"] (.expr e)
  if ← keyword "IN" then return ← inOperand e negated
  if ← keyword "BETWEEN" then return ← betweenBounds e negated
  if ← keyword "LIKE" then return ← likePattern "Like" "LIKE" e negated
  if ← keyword "ILIKE" then return ← likePattern "ILike" "ILIKE" e negated
  if ← keywords ["SIMILAR", "TO"] then
    let pattern ← subexpr binds.like
    let escaped ← escapePart
    return .node "SimilarTo" ["negated", "expr", "pattern", "escape_char"]
      [.part 1, .flag 0 " NOT" "", .word " SIMILAR TO ", .part 2, .opt 3 " ESCAPE " ""]
      [.flag negated, .expr e, .expr pattern, escaped]
  unexpected "IN or BETWEEN after NOT" (← peek)

/-- The tests after IS that are words only. -/
def isTests : List (List String × String) :=
  [ (["NULL"], "IsNull"), (["NOT", "NULL"], "IsNotNull"), (["TRUE"], "IsTrue"),
    (["NOT", "TRUE"], "IsNotTrue"), (["FALSE"], "IsFalse"), (["NOT", "FALSE"], "IsNotFalse"),
    (["UNKNOWN"], "IsUnknown"), (["NOT", "UNKNOWN"], "IsNotUnknown") ]

/-- What may follow IS. -/
def isTest (e : Expr) : Rule Expr := do
  let found ← isTests.findM? fun (words, _) => keywords words
  match found with
  | some (words, name) =>
    return .wrap name [.part 0, .word (" IS " ++ " ".intercalate words)] (.expr e)
  | none =>
    if ← keywords ["DISTINCT", "FROM"] then
      let other ← expr
      return .tuple "IsDistinctFrom" [.part 0, .word " IS DISTINCT FROM ", .part 1]
        [.expr e, .expr other]
    if ← keywords ["NOT", "DISTINCT", "FROM"] then
      let other ← expr
      return .tuple "IsNotDistinctFrom" [.part 0, .word " IS NOT DISTINCT FROM ", .part 1]
        [.expr e, .expr other]
    let negated ← keyword "NOT"
    let normal ← oneOf ["NFC", "NFD", "NFKC", "NFKD"]
    if ← keyword "NORMALIZED" then
      return .node "IsNormalized" ["expr", "form", "negated"]
        [.part 0, .word " IS ", .flag 2 "NOT " "", .opt 1 "" " ", .word "NORMALIZED"]
        [.expr e, optional (fun w => .choice w w) normal, .flag negated]
    unexpected "[NOT] NULL | TRUE | FALSE | DISTINCT | [form] NORMALIZED FROM after IS" (← peek)

/-! ## The operator after an expression -/

/-- A token as the message on an operator without a rule shows it. -/
def Token.describe : Token → String
  | .word value quote key =>
    "Word(Word \x7b value: \"" ++ value ++ "\", quote_style: " ++
      (match quote with
        | some q => "Some('" ++ String.singleton q ++ "')"
        | none => "None") ++
      ", keyword: " ++ (if keywordTable.contains key then key else "NoKeyword") ++ " \x7d)"
  | .symbol "!" => "ExclamationMark"
  | .symbol "[" => "LBracket"
  | .symbol "@" => "AtSign"
  | .symbol "#" => "Sharp"
  | .symbol "." => "Period"
  | t => t.show

def Form.quantified (name word : String) (parens : Bool) : Form :=
  ⟨.variant name (["left", "compare_op", "right"] ++ (if name = "AnyOp" then ["is_some"] else [])),
    [.part 0, .word " ", .part 1, .word (" " ++ word), .word (if parens then "(" else ""), .part 2,
      .word (if parens then ")" else "")]⟩

/-- A subquery as an expression. -/
def Form.subquery : Form := ⟨.newtype "Subquery", [.word "(", .part 0, .word ")"]⟩

def Expr.isSubquery : Expr → Bool
  | .form f _ => f.encoding == Form.subquery.encoding
  | _ => false

/-- Whether a query starts here. -/
def peekSubquery : Rule Bool := peekOneOf ["SELECT", "WITH"]

/-- The operand of ANY, SOME or ALL, in parentheses. -/
def quantifiedOperand (precedence : Nat) : Rule Expr := do
  let start ← get
  let _ ← expectSymbol "("
  if ← peekSubquery then
    set start
    subexpr precedence
  else
    let e ← subexpr precedence
    let _ ← expectSymbol ")"
    return e

/-- The operator that comes next and what stands to its right, as operator of the precedence. -/
def infixRule (left : Expr) (precedence : Nat) : Rule Expr := do
  let t ← next
  if let some (op, spelling) ← binaryOperator t.token then
    match ← oneOf ["ANY", "ALL", "SOME"] with
    | some word =>
      let right ← quantifiedOperand precedence
      if !comparisons.contains spelling then
        refuse ("Expected one of [=, >, <, =>, =<, !=, ~, ~*, !~, !~*, ~~, ~~*, !~~, !~~*] as " ++
          "comparison operator, found: " ++ spelling) t.span.start
      let parts := [.expr left, op, .expr right]
      let parens := !right.isSubquery
      if word == "ALL" then return .form (.quantified "AllOp" word parens) parts
      return .form (.quantified "AnyOp" word parens) (parts ++ [.flag (word == "SOME")])
    | none =>
      let right ← subexpr precedence
      return .form .binary [.expr left, op, .expr right]
  match t.token with
  | .symbol "::" =>
    let type ← dataType
    return .node "Cast" ["kind", "expr", "data_type", "format"]
      [.part 1, .part 0, .part 2] [.choice "DoubleColon" "::", .expr left, type, .absent]
  | .word _ _ key =>
    match key with
    | "IS" => isTest left
    | "AT" =>
      expectKeywords ["TIME", "ZONE"]
      let zone ← subexpr precedence
      return .node "AtTimeZone" ["timestamp", "time_zone"]
        [.part 0, .word " AT TIME ZONE ", .part 1] [.expr left, .expr zone]
    | "NOT" => wordComparison left true
    | "REGEXP" | "RLIKE" | "IN" | "BETWEEN" | "LIKE" | "ILIKE" | "SIMILAR" =>
      modify fun c => { c with tokens := t :: c.tokens }
      wordComparison left false
    | "MEMBER" =>
      if ← keyword "OF" then
        let array ← parenthesized expr
        return .node "MemberOf" ["value", "array"]
          [.part 0, .word " MEMBER OF(", .part 1, .word ")"] [.expr left, .expr array]
      unexpected "OF after MEMBER" (← peek)
    | _ => refuse ("No infix parser for token " ++ t.token.describe) t.span.start
  | token => refuse ("No infix parser for token " ++ token.describe) t.span.start

/-! ## Parts of values -/

/-- The bounds of a subscript, after the opening bracket. -/
def subscript : Rule Part := do
  let slice (lower upper stride : Part) : Part :=
    .node ⟨.newtype "Subscript", [.word "[", .part 0, .word "]"]⟩
      [.node ⟨.variant "Slice" ["lower_bound", "upper_bound", "stride"],
        [.part 0, .word ":", .part 1, .opt 2 ":" ""]⟩ [lower, upper, stride]]
  let lower ← if ← symbol ":" then pure none else some <$> expr
  if ← symbol "]" then
    match lower with
    | some e =>
      return .node ⟨.newtype "Subscript", [.word "[", .part 0, .word "]"]⟩
        [.node ⟨.variant "Index" ["index"], [.part 0]⟩ [.expr e]]
    | none => return slice .absent .absent .absent
  if lower.isSome then let _ ← expectSymbol ":"
  let lower := optional .expr lower
  if ← symbol "]" then return slice lower .absent .absent
  let upper ← expr
  if ← symbol "]" then return slice lower (.expr upper) .absent
  let _ ← expectSymbol ":"
  if ← symbol "]" then return slice lower (.expr upper) .absent
  let stride ← expr
  let _ ← expectSymbol "]"
  return slice lower (.expr upper) (.expr stride)

/-- A step from a value to a part of it: what stands after a period, or any other step. -/
inductive Access where
  | dot (e : Expr)
  | step (p : Part)

def Access.ident? : Access → Option Ident
  | .dot (.column i) => some i
  | _ => none

def Access.part : Access → Part
  | .dot e => .node ⟨.newtype "Dot", [.word ".", .part 0]⟩ [.expr e]
  | .step p => p

/-- A value with the steps to a part of it. -/
def Form.access : Form :=
  ⟨.variant "CompoundFieldAccess" ["root", "access_chain"], [.part 0, .list 1 ""]⟩

/-- A function call: name, notation, parameters, arguments, FILTER, treatment of nulls, OVER, WITHIN
GROUP. -/
def Form.function : Form where
  encoding := .variant "Function" ["name", "uses_odbc_syntax", "parameters", "args", "filter",
    "null_treatment", "over", "within_group"]
  layout := [.flag 1 "\x7bfn " "", .part 0, .part 2, .part 3,
    .someList 7 " WITHIN GROUP (ORDER BY " ", " ")", .opt 4 " FILTER (WHERE " ")", .opt 5 " " "",
    .opt 6 " OVER " "", .flag 1 "\x7d" ""]

/-- The steps that an expression after a period stands for. -/
def Expr.accesses : Expr → List Access
  | .qualified is => is.map fun i => .dot (.column i)
  | .form f parts =>
    if f.encoding == Form.access.encoding then
      match parts with
      | [.expr root, .list chain] => .dot root :: chain.map .step
      | _ => [.dot (.form f parts)]
    else [.dot (.form f parts)]
  | e => [.dot e]

/-- An expression and the steps after it. Identifiers alone are one dotted identifier, and
identifiers before a call are part of its name. -/
def withAccesses (root : Expr) (chain : List Access) : Expr :=
  match root, chain.mapM Access.ident?, chain.dropLast.mapM Access.ident?, chain.getLast? with
  | root, some [], _, _ => root
  | .column i, some is, _, _ => .qualified (i :: is)
  | .column i, none, some is, some (.dot (.form f (.name n :: parts))) =>
    if f.encoding == Form.function.encoding then
      .form f (.name ((i :: is).map .ident ++ n) :: parts)
    else .form .access [.expr root, .list (chain.map Access.part)]
  | _, _, _, _ => .form .access [.expr root, .list (chain.map Access.part)]

/-- What stands after a period: text between single quotes is a name there. -/
def accessAfterPeriod : Rule (List Access) := do
  let t ← peek
  match t.token with
  | .literal .plain text =>
    let _ ← next
    return [.dot (.column ⟨text, some '\'', t.span⟩)]
  | _ => return (← subexpr binds.period).accesses

/-- An expression with all steps to its parts. A period before an asterisk belongs to what comes
after the expression. -/
def compound (root : Expr) : Rule Expr := do
  let chain ← iterate ([] : List Access) fun chain => do
    if ← peekSymbol "." then
      if (← peekAfter 1).token.isSymbol "*" then return (chain, false)
      let _ ← next
      return (chain ++ (← accessAfterPeriod), true)
    if ← symbol "[" then return (chain ++ [.step (← subscript)], true)
    return (chain, false)
  return withAccesses root chain

/-- An expression whose operators bind more strongly than the precedence. -/
def subexprRule (precedence : Nat) : Rule Expr := nested do
  let e ← compound (← primary)
  iterate e fun e => do
    let next ← nextPrecedence
    if precedence ≥ next || (← peekSymbol ".") then return (e, false)
    return (← infixRule e next, true)

end ColumnMask.Sql
