-- What a definition says of a column: its name, its type and its options. A data type
-- may hold columns of its own, so this stands before the rules of the data types.
import ColumnMask.Sql.Grammar.Names

namespace ColumnMask.Sql

/-! ## Numbers -/

/-- A number as an expression, with a sign if it has one. -/
def numberExpr : Rule Expr := do
  let value : Rule Expr := do
    let (v, s) ← numberAt
    return .ofValue v s
  let signed (name sign : String) : Rule Expr := do
    return .form ⟨.variant "UnaryOp" ["op", "expr"], [.part 0, .part 1]⟩
      [.choice name sign, .expr (← value)]
  if ← symbol "+" then signed "Plus" "+"
  else if ← symbol "-" then signed "Minus" "-"
  else value

/-! ## Options with values -/

/-- ASC or DESC, if one comes next: whether the order ascends. -/
def direction : Rule (Option Bool) := do
  return (← oneOf ["ASC", "DESC"]).map (· == "ASC")

/-- A direction as it is written after what it orders. -/
def directionWord : Option Bool → String
  | some true => " ASC"
  | some false => " DESC"
  | none => ""

/-- A choice with the word in front of it that it is called by. -/
def Part.named (name : String) (layout : List Piece) (part : Part) : Part :=
  .node ⟨.newtype name, layout⟩ [part]

/-- How an index is clustered. -/
def clusteredOption : Rule Part := do
  let clustered (name : String) (layout : List Piece) (part : Part) : Part :=
    .named "Clustered" [.part 0] (.named name layout part)
  if ← keywords ["CLUSTERED", "COLUMNSTORE", "INDEX", "ORDER"] then
    let columns ← identifierList
    return clustered "ColumnstoreIndexOrder"
      [.word "CLUSTERED COLUMNSTORE INDEX ORDER (", .list 0 ", ", .word ")"]
      (listOf .ident columns)
  if ← keywords ["CLUSTERED", "COLUMNSTORE", "INDEX"] then
    return .named "Clustered" [.part 0]
      (.choice "ColumnstoreIndex" "CLUSTERED COLUMNSTORE INDEX")
  if ← keywords ["CLUSTERED", "INDEX"] then
    let columns ← parenthesized (commaList do
      let name ← identifier
      let ascending ← direction
      return Part.node ⟨.record ["name", "asc"], [.part 0, .word (directionWord ascending)]⟩
        [.ident name, optional .flag ascending])
    return clustered "Index" [.word "CLUSTERED INDEX (", .list 0 ", ", .word ")"] (.list columns)
  refuse "invalid CLUSTERED sequence"

/-- The ranges that a table is divided into. -/
def partitionOption : Rule Part := do
  let _ ← expectKeyword "PARTITION"
  let _ ← expectSymbol "("
  let column ← identifier
  let _ ← expectKeyword "RANGE"
  let direction ← match ← oneOf ["LEFT", "RIGHT"] with
    | some "LEFT" => pure (Part.choice "Left" "LEFT")
    | some _ => pure (.choice "Right" "RIGHT")
    | none => pure .absent
  expectKeywords ["FOR", "VALUES"]
  let values ← parenthesized (commaList expr)
  let _ ← expectSymbol ")"
  return .node ⟨.variant "Partition" ["column_name", "range_direction", "for_values"],
      [.word "PARTITION (", .part 0, .word " RANGE", .opt 1 " " "", .word " FOR VALUES (",
        .list 2 ", ", .word "))"]⟩
    [.ident column, direction, listOf .expr values]

/-- An option of a definition: a name and its value, or one of a few clauses. -/
def sqlOption : Rule Part := do
  match (← peek).token.key with
  | "HEAP" => return .named "Ident" [.part 0] (.ident (← identifier))
  | "PARTITION" => partitionOption
  | "CLUSTERED" => clusteredOption
  | _ =>
    let name ← identifier
    let _ ← expectSymbol "="
    let value ← expr
    return .node ⟨.variant "KeyValue" ["key", "value"], [.part 0, .word " = ", .part 1]⟩
      [.ident name, .expr value]

/-- Options in parentheses. -/
def sqlOptions : Rule (List Part) := parenthesized (commaList0 sqlOption ")")

/-! ## References -/

/-- What happens to a row when the one it refers to changes. -/
def referentialAction : Rule Part := do
  let actions : List (List String × String) :=
    [(["RESTRICT"], "Restrict"), (["CASCADE"], "Cascade"), (["SET", "NULL"], "SetNull"),
      (["NO", "ACTION"], "NoAction"), (["SET", "DEFAULT"], "SetDefault")]
  match ← actions.findM? fun (words, _) => keywords words with
  | some (words, name) => return .choice name (" ".intercalate words)
  | none => unexpected "one of RESTRICT, CASCADE, SET NULL, NO ACTION or SET DEFAULT" (← peek)

/-- Which parts of a key have to match the row that is referred to. -/
def matchKind : Rule Part := do
  match ← oneOf ["FULL", "PARTIAL", "SIMPLE"] with
  | some "FULL" => return .choice "Full" "MATCH FULL"
  | some "PARTIAL" => return .choice "Partial" "MATCH PARTIAL"
  | some _ => return .choice "Simple" "MATCH SIMPLE"
  | none => unexpected "one of FULL, PARTIAL or SIMPLE" (← peek)

/-- When a constraint is checked; each of the three settings may be made once. -/
structure Timing where
  deferrable : Option Bool := none
  immediate : Option Bool := none
  enforced : Option Bool := none

/-- The spelling of a setting. -/
def settingWords (yes no : String) : Option Bool → String
  | some true => yes
  | some false => no
  | none => ""

def Timing.part (t : Timing) : Part :=
  if t.deferrable.isNone && t.immediate.isNone && t.enforced.isNone then .absent
  else
    let initially := t.immediate.map fun b =>
      if b then Part.choice "Immediate" "" else .choice "Deferred" ""
    .node ⟨.record ["deferrable", "initially", "enforced"],
        [.joined " " [.word (settingWords "DEFERRABLE" "NOT DEFERRABLE" t.deferrable),
          .word (settingWords "INITIALLY IMMEDIATE" "INITIALLY DEFERRED" t.immediate),
          .word (settingWords "ENFORCED" "NOT ENFORCED" t.enforced)]]⟩
      [optional .flag t.deferrable, optional id initially, optional .flag t.enforced]

def constraintTiming : Rule Part := do
  let t ← iterate ({} : Timing) fun t => do
    if t.deferrable.isNone then
      if ← keywords ["NOT", "DEFERRABLE"] then return ({ t with deferrable := some false }, true)
      if ← keyword "DEFERRABLE" then return ({ t with deferrable := some true }, true)
    if t.immediate.isNone then
      if ← keyword "INITIALLY" then
        match ← oneOf ["DEFERRED", "IMMEDIATE"] with
        | some word => return ({ t with immediate := some (word == "IMMEDIATE") }, true)
        | none => unexpected "one of DEFERRED or IMMEDIATE" (← peek)
    if t.enforced.isNone then
      if ← keyword "ENFORCED" then return ({ t with enforced := some true }, true)
      if ← keywords ["NOT", "ENFORCED"] then return ({ t with enforced := some false }, true)
    return (t, false)
  return t.part

/-- The table and the columns that a key refers to: table, columns, match, actions on deletion and
on change, and timing. -/
def referencedTable : Rule (List Part) := do
  let table ← objectName
  let columns ← optionalIdentifierList
  let (kind, deletion, change) ←
    iterate (Part.absent, Part.absent, Part.absent) fun (kind, deletion, change) => do
      if kind.isAbsent then
        if ← keyword "MATCH" then return ((← matchKind, deletion, change), true)
      if deletion.isAbsent then
        if ← keywords ["ON", "DELETE"] then
          return ((kind, ← referentialAction, change), true)
      if change.isAbsent then
        if ← keywords ["ON", "UPDATE"] then
          return ((kind, deletion, ← referentialAction), true)
      return ((kind, deletion, change), false)
  return [.name table, listOf .ident columns, deletion, change, kind, ← constraintTiming]

/-! ## Constraints of a column -/

/-- A key that a column is by itself: fields and timing. -/
def keyOption (name word : String) (fields : List String) (parts : List Part) : Rule Part := do
  let timing ← constraintTiming
  return .named name [.part 0]
    (.node ⟨.record (fields ++ ["characteristics"]), [.word word, .opt fields.length " " ""]⟩
      (parts ++ [timing]))

def primaryKeyOption : Rule Part :=
  keyOption "PrimaryKey" "PRIMARY KEY"
    ["name", "index_name", "index_type", "columns", "index_options"]
    [.absent, .absent, .absent, .list [], .list []]

def uniqueOption : Rule Part := do
  let display ← match ← oneOf ["KEY", "INDEX"] with
    | some "KEY" => pure (Part.choice "Key" "")
    | some _ => pure (.choice "Index" "")
    | none => pure (.choice "None" "")
  keyOption "Unique" "UNIQUE"
    ["name", "index_name", "index_type_display", "index_type", "columns", "index_options",
      "nulls_distinct"]
    [.absent, .absent, display, .absent, .list [], .list [], .choice "None" ""]

def referencesOption : Rule Part := do
  let parts ← referencedTable
  return .named "ForeignKey" [.part 0]
    (.node ⟨.record ["name", "index_name", "columns", "foreign_table", "referred_columns",
        "on_delete", "on_update", "match_kind", "characteristics"],
      [.word "REFERENCES ", .part 3, .someList 4 " (" ", " ")", .opt 7 " " "",
        .opt 5 " ON DELETE " "", .opt 6 " ON UPDATE " "", .opt 8 " " ""]⟩
      ([.absent, .absent, .list []] ++ parts))

/-- A condition in parentheses; what stands in the parentheses is an expression like any other. -/
def normalCondition : Rule Expr := parenthesized (inMode .normal expr)

def checkOption : Rule Part := do
  let e ← normalCondition
  return .named "Check" [.part 0]
    (.node ⟨.record ["name", "expr", "enforced"], [.word "CHECK (", .part 1, .word ")"]⟩
      [.absent, .expr e, .absent])

/-! ## Values of a column -/

/-- An expression of an option of a column. -/
def optionExpr : Rule Expr := do
  if ← peekSymbol "(" then inMode .normal primary else expr

/-- The settings of a sequence, in their order. -/
def sequenceSettings : Rule (List Part) := do
  let setting (name : String) (layout : List Piece) (e : Expr) : Part :=
    .named name layout (.expr e)
  let marked (name word mark : String) (used : Bool) (e : Expr) : Part :=
    .node ⟨.tuple name, [.word (" " ++ word), .flag 1 (" " ++ mark) "", .word " ", .part 0]⟩
      [.expr e, .flag used]
  let increment ← if ← keyword "INCREMENT" then do
      let used ← keyword "BY"
      pure [marked "IncrementBy" "INCREMENT" "BY" used (← numberExpr)]
    else pure []
  let bound (name word : String) : Rule (List Part) := do
    if ← keyword word then return [setting name [.word (" " ++ word ++ " "), .part 0] (← numberExpr)]
    if ← keywords ["NO", word] then return [.named name [.word (" NO " ++ word)] .absent]
    return []
  let least ← bound "MinValue" "MINVALUE"
  let most ← bound "MaxValue" "MAXVALUE"
  let start ← if ← keyword "START" then do
      let used ← keyword "WITH"
      pure [marked "StartWith" "START" "WITH" used (← numberExpr)]
    else pure []
  let cache ← if ← keyword "CACHE" then do
      pure [setting "Cache" [.word " CACHE ", .part 0] (← numberExpr)]
    else pure []
  let cycle ← if ← keywords ["NO", "CYCLE"] then pure [Part.named "Cycle" [.word " NO CYCLE"] (.flag true)]
    else if ← keyword "CYCLE" then pure [.named "Cycle" [.word " CYCLE"] (.flag false)]
    else pure []
  return increment ++ least ++ most ++ start ++ cache ++ cycle

/-- How the value of a column is made. -/
def Form.generated (layout : List Piece) : Form :=
  ⟨.variant "Generated" ["generated_as", "sequence_options", "generation_expr",
    "generation_expr_mode", "generated_keyword"], layout⟩

/-- A column whose values come from a sequence. -/
def identityFrom (name word : String) : Rule Part := do
  let settings ← if ← symbol "(" then do
      let settings ← sequenceSettings
      let _ ← expectSymbol ")"
      pure settings
    else pure []
  return .node (.generated [.word ("GENERATED " ++ word ++ " AS IDENTITY"), .someList 1 " (" "" " )"])
    [.choice name "", .list settings, .absent, .absent, .flag true]

/-- A column whose values are computed, after the parentheses around the expression. -/
def computedFrom (e : Expr) (isGenerated : Bool) : Rule Part := do
  let (name, mode) ← match ← oneOf ["STORED", "VIRTUAL"] with
    | some "STORED" => pure ("ExpStored", Part.choice "Stored" "STORED")
    | some _ => pure ("Always", .choice "Virtual" "VIRTUAL")
    | none => pure ("Always", .absent)
  return .node (.generated [.flag 4 "GENERATED ALWAYS " "", .word "AS (", .part 2, .word ")",
      .opt 3 " " ""])
    [.choice name "", .absent, .expr e, mode, .flag isGenerated]

/-- How the value of a column is generated, after GENERATED. -/
def generatedOption : Rule (Option Part) := do
  if ← keywords ["ALWAYS", "AS", "IDENTITY"] then return some (← identityFrom "Always" "ALWAYS")
  if ← keywords ["BY", "DEFAULT", "AS", "IDENTITY"] then
    return some (← identityFrom "ByDefault" "BY DEFAULT")
  if ← keywords ["ALWAYS", "AS"] then
    if ← peekSymbol "(" then return some (← computedFrom (← normalCondition) true)
  return none

/-- A column that counts by itself. -/
def identityOption : Rule Part := do
  let parameters ← if ← symbol "(" then do
      let seed ← numberExpr
      let _ ← expectSymbol ","
      let increment ← numberExpr
      let _ ← expectSymbol ")"
      pure (Part.named "FunctionCall" [.part 0]
        (.node ⟨.record ["seed", "increment"], [.word "(", .part 0, .word ", ", .part 1, .word ")"]⟩
          [.expr seed, .expr increment]))
    else pure .absent
  return .named "Identity" [.part 0] (.named "Identity" [.part 0]
    (.node ⟨.record ["parameters", "order"], [.word "IDENTITY", .part 0]⟩ [parameters, .absent]))

/-- The text of a comment. -/
def commentText : Rule String := do
  let t ← next
  match t.token with
  | .literal .plain text | .dollar _ text => return text
  | _ => unexpected "string literal" t

/-! ## Columns -/

/-- An option that is one word. -/
def wordOption (word : String) : Part :=
  .node ⟨.newtype "DialectSpecific", [.word word]⟩ [.list [.token (.ofWord word)]]

/-- An option of a column, if one comes next. -/
def columnOption : Rule (Option Part) := do
  let valued (name word : String) (p : Part) : Rule (Option Part) :=
    return some (.named name [.word (word ++ " "), .part 0] p)
  if ← keywords ["CHARACTER", "SET"] then
    return ← valued "CharacterSet" "CHARACTER SET" (.name (← objectName))
  if ← keyword "COLLATE" then return ← valued "Collation" "COLLATE" (.name (← objectName))
  if ← keywords ["NOT", "NULL"] then return some (.choice "NotNull" "NOT NULL")
  if ← keyword "COMMENT" then
    return ← valued "Comment" "COMMENT" (quotedPart (← commentText))
  if ← keyword "NULL" then return some (.choice "Null" "NULL")
  if ← keyword "DEFAULT" then return ← valued "Default" "DEFAULT" (.expr (← optionExpr))
  if ← keyword "MATERIALIZED" then
    return ← valued "Materialized" "MATERIALIZED" (.expr (← optionExpr))
  if ← keyword "ALIAS" then return ← valued "Alias" "ALIAS" (.expr (← optionExpr))
  if ← keyword "EPHEMERAL" then
    let e ← if (← peekSymbol ",") || (← peekSymbol ")") then pure none
      else do pure (some (← optionExpr))
    return some (.named "Ephemeral" [.word "EPHEMERAL", .opt 0 " " ""] (optional .expr e))
  if ← keywords ["PRIMARY", "KEY"] then return some (← primaryKeyOption)
  if ← keyword "UNIQUE" then return some (← uniqueOption)
  if ← keyword "REFERENCES" then return some (← referencesOption)
  if ← keyword "CHECK" then return some (← checkOption)
  match ← oneOf ["AUTO_INCREMENT", "AUTOINCREMENT", "ASC", "DESC"] with
  | some word => return some (wordOption word)
  | none =>
    if ← keywords ["ON", "UPDATE"] then return ← valued "OnUpdate" "ON UPDATE" (.expr (← expr))
    if ← keyword "GENERATED" then return ← generatedOption
    if ← keyword "OPTIONS" then
      return some (.named "Options" [.word "OPTIONS(", .list 0 ", ", .word ")"] (.list (← sqlOptions)))
    if ← keyword "AS" then return some (← computedFrom (← parenthesized expr) false)
    if ← keyword "SRID" then return ← valued "Srid" "SRID" (.expr (← expr))
    if ← keyword "IDENTITY" then return some (← identityOption)
    if ← keywords ["ON", "CONFLICT"] then
      let word ← expectOneOf ["ROLLBACK", "ABORT", "FAIL", "IGNORE", "REPLACE"]
      return ← valued "OnConflict" "ON CONFLICT" (.text word)
    if ← keyword "INVISIBLE" then return some (.choice "Invisible" "INVISIBLE")
    return none

/-- A column with its type and its options. -/
def columnDefinition : Rule Part := do
  let name ← identifier
  let type ← dataType
  let options ← many do
    let label ← after "CONSTRAINT" identifier
    match ← inMode .columnDefinition columnOption with
    | some o =>
      return some (Part.node ⟨.record ["name", "option"], [.opt 0 "CONSTRAINT " " ", .part 1]⟩
        [optional .ident label, o])
    | none =>
      if label.isSome then unexpected "constraint details after CONSTRAINT <name>" (← peek)
      return none
  return .node ⟨.record ["name", "data_type", "options"],
      [.part 0, .word " ", .part 1, .someList 2 " " " " ""]⟩
    [.ident name, type, .list options]

end ColumnMask.Sql
