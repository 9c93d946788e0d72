-- Trees in their JSON notation. The form of a node says what the node and its fields
-- are called; the parts stand in the order of the fields.
import ColumnMask.Json.Value
import ColumnMask.Sql.Keyword
import ColumnMask.Sql.Printer

namespace ColumnMask.Sql

/-! ## Places and tokens -/

def Position.json (p : Position) : Json :=
  .object [("line", .ofNat p.line), ("column", .ofNat p.column)]

def Span.json (s : Span) : Json := .object [("start", s.start.json), ("end", s.stop.json)]

/-- A quote as text. -/
def quoteJson (quote : Option Char) : Json :=
  .ofOption (fun c => .text (String.singleton c)) quote

def Ident.json (i : Ident) : Json :=
  .object [("value", .text i.value), ("quote_style", quoteJson i.quote), ("span", i.span.json)]

/-- What the symbols are called that a tree keeps. -/
def symbolName : String → String
  | "*" => "Mul"
  | ")" => "RParen"
  | "(" => "LParen"
  | "," => "Comma"
  | text => text

/-- The name of a keyword; a word that is none has a name for that. -/
def keywordName (key : String) : String :=
  if keywordTable.contains key then key else "NoKeyword"

/-- The name of a kind of text literal. -/
def Literal.name : Literal → String
  | .plain => "SingleQuotedString"
  | .wide => "DoubleQuotedString"
  | .national => "NationalStringLiteral"
  | .escaped => "EscapedStringLiteral"
  | .unicode => "UnicodeStringLiteral"
  | .hex => "HexStringLiteral"
  | .bytes => "SingleQuotedByteStringLiteral"
  | .wideBytes => "DoubleQuotedByteStringLiteral"
  | .raw => "SingleQuotedRawStringLiteral"
  | .wideRaw => "DoubleQuotedRawStringLiteral"
  | .tripleRaw => "TripleSingleQuotedRawStringLiteral"
  | .tripleWideRaw => "TripleDoubleQuotedRawStringLiteral"

/-- The name of a literal between delimiters of its own. -/
def delimitedName (national : Bool) : String :=
  if national then "NationalQuoteDelimitedStringLiteral" else "QuoteDelimitedStringLiteral"

/-- A literal with a number, a tag or delimiters; tokens and values share their notation. -/
def numberJson (digits : String) (long : Bool) : Json :=
  .object [("Number", .array [.text digits, .bool long])]

def dollarJson (tag : Option String) (text : String) : Json :=
  .object [("DollarQuotedString", .object [("value", .text text), ("tag", .ofOption .text tag)])]

def delimitedJson (national : Bool) (opening closing : Char) (text : String) : Json :=
  .object [(delimitedName national, .object [("start_quote", .text (String.singleton opening)),
    ("value", .text text), ("end_quote", .text (String.singleton closing))])]

def Token.json : Token → Json
  | .word value quote key => .object [("Word", .object [("value", .text value),
      ("quote_style", quoteJson quote), ("keyword", .text (keywordName key))])]
  | .number digits long => numberJson digits long
  | .literal kind text => .object [(kind.name, .text text)]
  | .dollar tag text => dollarJson tag text
  | .delimited national opening closing text => delimitedJson national opening closing text
  | .placeholder text => .object [("Placeholder", .text text)]
  | .symbol text => .text (symbolName text)
  | .blank text => .object [("Whitespace", .text text)]
  | .other c => .object [("Char", .text (String.singleton c))]
  | .finish => .text "EOF"

def Value.json : Value → Json
  | .number digits long => numberJson digits long
  | .text kind s => .object [(kind.name, .text s)]
  | .dollar tag s => dollarJson tag s
  | .delimited national opening closing s => delimitedJson national opening closing s
  | .boolean b => .object [("Boolean", .bool b)]
  | .null => .text "Null"
  | .placeholder s => .object [("Placeholder", .text s)]

/-! ## Names of closed choices -/

def JoinKind.name : JoinKind → String
  | .join => "Join"
  | .inner => "Inner"
  | .left => "Left"
  | .leftOuter => "LeftOuter"
  | .right => "Right"
  | .rightOuter => "RightOuter"
  | .fullOuter => "FullOuter"
  | .cross => "CrossJoin"
  | .semi => "Semi"
  | .leftSemi => "LeftSemi"
  | .rightSemi => "RightSemi"
  | .anti => "Anti"
  | .leftAnti => "LeftAnti"
  | .rightAnti => "RightAnti"
  | .straight => "StraightJoin"

def SetOperator.name : SetOperator → String
  | .union => "Union"
  | .except => "Except"
  | .intersect => "Intersect"
  | .minus => "Minus"

def SelectFlavor.name : SelectFlavor → String
  | .standard => "Standard"
  | .fromFirst => "FromFirst"
  | .fromOnly => "FromFirstNoSelect"

/-- A list of tables in its role; the role of a USING list has no name. -/
def TableRole.json (tables : Json) : TableRole → Json
  | .beforeSet => .object [("BeforeSet", tables)]
  | .afterSet => .object [("AfterSet", tables)]
  | .fromKeyword => .object [("WithFromKeyword", tables)]
  | .withoutKeyword => .object [("WithoutKeyword", tables)]
  | .usingList => tables

/-! ## Nodes -/

/-- A node with its parts. -/
def Encoding.json (e : Encoding) (parts : List Json) : Json :=
  match e with
  | .record fields => .object (fields.zip parts)
  | .unit name => .text name
  | .newtype name => .object [(name, parts.headD .null)]
  | .tuple name => .object [(name, .array parts)]
  | .variant name fields => .object [(name, .object (fields.zip parts))]
  | .array => .array parts
  | .bare => parts.headD .null

mutual

def NamePart.json : NamePart → Json
  | .ident i => .object [("Identifier", i.json)]
  | .call name args =>
    .object [("Function", .object [("name", name.json), ("args", .array (jsonsOfParts args))])]

def jsonsOfName : List NamePart → List Json
  | [] => []
  | p :: ps => p.json :: jsonsOfName ps

def jsonsOfNames : List (List NamePart) → List Json
  | [] => []
  | n :: ns => .array (jsonsOfName n) :: jsonsOfNames ns

def Expr.json : Expr → Json
  | .column i => .object [("Identifier", i.json)]
  | .qualified parts => .object [("CompoundIdentifier", .array (parts.map Ident.json))]
  | .form f parts => f.encoding.json (jsonsOfParts parts)

def Query.json : Query → Json
  | .mk ctes body clauses => Form.query.encoding.json (ctes.json :: body.json :: jsonsOfParts clauses)

def Body.json : Body → Json
  | .select s => s.json
  | .query q => .object [("Query", q.json)]
  | .setOperation left operator quantifier right =>
    .object [("SetOperation", .object [("op", .text operator.name),
      ("set_quantifier", match quantifier.json with
        | .null => .text "None"
        | j => j), ("left", left.json), ("right", right.json)])]
  | .statement s => match s.json with
    | .object [(name, value)] => .object [(name, .object [(name, value)])]
    | j => j
  | .form f parts => f.encoding.json (jsonsOfParts parts)

def Select.json : Select → Json
  | .mk flavor mode head projection middle tables clauses =>
    let parts := jsonsOfParts head ++ .array (jsonsOfItems projection) :: jsonsOfParts middle ++
      .array (jsonsOfTables tables) :: jsonsOfParts clauses
    selectEncoding.json (parts.take 19 ++ [mode.json] ++ parts.drop 19 ++ [.text flavor.name])

def SelectItem.json : SelectItem → Json
  | .plain e => .object [("UnnamedExpr", e.json)]
  | .aliased e i => .object [("ExprWithAlias", .object [("expr", e.json), ("alias", i.json)])]
  | .form f parts => f.encoding.json (jsonsOfParts parts)

def jsonsOfItems : List SelectItem → List Json
  | [] => []
  | i :: is => i.json :: jsonsOfItems is

def Alias.json : Alias → Json
  | .absent => .null
  | .named explicit name columns =>
    .object [("explicit", .bool explicit), ("name", name.json),
      ("columns", .array (jsonsOfParts columns))]

def TableFactor.json : TableFactor → Json
  | .table name label details =>
    Form.table.encoding.json (.array (jsonsOfName name) :: label.json :: jsonsOfParts details)
  | .derived lateral q label =>
    .object [("Derived", .object [("lateral", .bool lateral), ("subquery", q.json),
      ("alias", label.json)])]
  | .nested t label =>
    .object [("NestedJoin", .object [("table_with_joins", t.json), ("alias", label.json)])]
  | .form f parts => f.encoding.json (jsonsOfParts parts)

def TableWithJoins.json : TableWithJoins → Json
  | .mk relation joins =>
    .object [("relation", relation.json), ("joins", .array (jsonsOfJoins joins))]

def jsonsOfTables : List TableWithJoins → List Json
  | [] => []
  | t :: ts => t.json :: jsonsOfTables ts

def Join.json : Join → Json
  | .constrained relation global kind constraint =>
    .object [("relation", relation.json), ("global", .bool global),
      ("join_operator", .object [(kind.name, constraint.json)])]
  | .asOf relation global condition constraint =>
    .object [("relation", relation.json), ("global", .bool global),
      ("join_operator", .object [("AsOf", .object [("match_condition", condition.json),
        ("constraint", constraint.json)])])]
  | .apply relation global outer =>
    .object [("relation", relation.json), ("global", .bool global),
      ("join_operator", .text (if outer then "OuterApply" else "CrossApply"))]

def jsonsOfJoins : List Join → List Json
  | [] => []
  | j :: js => j.json :: jsonsOfJoins js

def JoinConstraint.json : JoinConstraint → Json
  | .on condition => .object [("On", condition.json)]
  | .using names => .object [("Using", .array (jsonsOfNames names))]
  | .natural => .text "Natural"
  | .absent => .text "None"

def Target.json : Target → Json
  | .name n => .object [("ColumnName", .array (jsonsOfName n))]
  | .tuple ns => .object [("Tuple", .array (jsonsOfNames ns))]

def Assignment.json : Assignment → Json
  | .mk target value => .object [("target", target.json), ("value", value.json)]

def jsonsOfAssignments : List Assignment → List Json
  | [] => []
  | a :: as => a.json :: jsonsOfAssignments as

def ConflictTarget.json : ConflictTarget → Json
  | .absent => .null
  | .columns is => .object [("Columns", .array (is.map Ident.json))]
  | .constraint n => .object [("OnConstraint", .array (jsonsOfName n))]

def OnInsert.json : OnInsert → Json
  | .absent => .null
  | .duplicateKey assignments =>
    .object [("DuplicateKeyUpdate", .array (jsonsOfAssignments assignments))]
  | .conflictNothing target =>
    .object [("OnConflict", .object [("conflict_target", target.json),
      ("action", .text "DoNothing")])]
  | .conflictUpdate target assignments condition =>
    .object [("OnConflict", .object [("conflict_target", target.json),
      ("action", .object [("DoUpdate", .object
        [("assignments", .array (jsonsOfAssignments assignments)),
          ("selection", condition.json)])])])]

def TableClause.json : TableClause → Json
  | .absent => .null
  | .present role tables => role.json (.array (jsonsOfTables tables))

/-- A statement in the JSON notation. -/
def Statement.json : Statement → Json
  | .query q => .object [("Query", q.json)]
  | .insert head columns middle on clauses =>
    insertEncoding.json (jsonsOfParts head ++ .array (columns.map Ident.json) ::
      jsonsOfParts middle ++ on.json :: jsonsOfParts clauses)
  | .update head table assignments source clauses =>
    Form.update.encoding.json (jsonsOfParts head ++ [table.json,
      .array (jsonsOfAssignments assignments), source.json] ++ jsonsOfParts clauses)
  | .delete head source others clauses =>
    Form.delete.encoding.json (jsonsOfParts head ++ [source.json, others.json] ++
      jsonsOfParts clauses)
  | .other f parts => f.encoding.json (jsonsOfParts parts)

def Part.json : Part → Json
  | .absent => .null
  | .flag b => .bool b
  | .number n => .ofInt n
  | .text s => .text s
  | .choice name _ => .text name
  | .value v => v.json
  | .token t => t.json
  | .span s => s.json
  | .ident i => i.json
  | .name n => .array (jsonsOfName n)
  | .relation n => .array (jsonsOfName n)
  | .expr e => e.json
  | .query q => q.json
  | .item i => i.json
  | .factor f => f.json
  | .tables t => t.json
  | .join j => j.json
  | .assignment a => a.json
  | .label a => a.json
  | .statement s => s.json
  | .list ps => .array (jsonsOfParts ps)
  | .node f ps => f.encoding.json (jsonsOfParts ps)

def jsonsOfParts : List Part → List Json
  | [] => []
  | p :: ps => p.json :: jsonsOfParts ps

end

end ColumnMask.Sql
