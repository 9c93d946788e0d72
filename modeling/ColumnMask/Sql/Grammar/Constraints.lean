-- What a table is held to: its indexes, its keys and its conditions, and the list of
-- columns and constraints that a table is defined by.
import ColumnMask.Sql.Grammar.Phrases

namespace ColumnMask.Sql

/-! ## Indexes -/

/-- A column of an index: an expression with its order, and the class of its operators. -/
def indexColumn : Rule Part := do
  let e ← expr
  let kind ← if ← peekOneOf ["ASC", "DESC", "NULLS", "WITH"] then pure none else attempt objectName
  let options ← orderOptions
  let fill ← fillPart
  return .node ⟨.array, [.part 0, .part 1, .opt 2 " " "", .opt 3 " " ""]⟩
    [.expr e, options, fill, optional .name kind]

def indexColumns : Rule Part := do
  if !(← peekSymbol "(") then unexpected "a list of columns in parentheses" (← peek)
  return inParens (← parenthesized (commaList indexColumn))

/-- The kind of an index after USING. -/
def indexKind : Rule Part := do
  clause ["USING"] do
    match ← oneOf ["BTREE", "HASH", "GIN", "GIST", "SPGIST", "BRIN", "BLOOM"] with
    | some word => return .text word
    | none => identPart

/-- The options of an index: its kind and comments. -/
def indexOptions : Rule (List Part) :=
  many do
    match ← indexKind with
    | .absent =>
      match ← clause ["COMMENT"] (return .text ("'" ++ (← literalString) ++ "'")) with
      | .absent => return none
      | comment => return some comment
    | kind => return some kind

/-- Whether nulls count as different. -/
def nullsDistinct : Rule Part := do
  if !(← keyword "NULLS") then return .absent
  let negated ← keyword "NOT"
  let _ ← expectKeyword "DISTINCT"
  return .text (if negated then "NULLS NOT DISTINCT" else "NULLS DISTINCT")

/-! ## Constraints -/

/-- A key of a table: its name, kind, columns, options and timing. -/
def keyConstraint (words : List Part) : Rule (List Part) := do
  let name ← attempt identifier
  let kind ← indexKind
  let columns ← indexColumns
  let options ← indexOptions
  return words ++ [optional .ident name, kind, columns] ++ options ++ [← constraintTiming]

/-- A key that refers to another table. -/
def foreignKey : Rule (List Part) := do
  let name ← attempt identifier
  let columns ← identifierList
  let _ ← expectKeyword "REFERENCES"
  let target ← referencedTable
  return [.text "FOREIGN KEY", optional .ident name, inParens (columns.map .ident),
    .node ⟨.array, [.word "REFERENCES ", .part 0, .someList 1 "(" ", " ")", .opt 4 " " "",
      .opt 2 " ON DELETE " "", .opt 3 " ON UPDATE " "", .opt 5 " " ""]⟩ target]

/-- A constraint of a table, if one comes next. -/
def tableConstraint : Rule (Option Part) := do
  let start ← get
  let label ← after "CONSTRAINT" identifier
  let labelled (parts : List Part) : Option Part :=
    some (.node .phrase (led "CONSTRAINT" (optional .ident label) :: parts))
  let t ← next
  match t.token.key with
  | "UNIQUE" =>
    let shown ← optionalWord ["KEY", "INDEX"]
    let nulls ← nullsDistinct
    return labelled (← keyConstraint [.text "UNIQUE", nulls, shown])
  | "PRIMARY" =>
    let _ ← expectKeyword "KEY"
    return labelled (← keyConstraint [.text "PRIMARY KEY"])
  | "FOREIGN" =>
    let _ ← expectKeyword "KEY"
    return labelled (← foreignKey)
  | "CHECK" =>
    let condition ← conditionPart
    return labelled [.text "CHECK", condition,
      ← optionalChoice [["ENFORCED"], ["NOT", "ENFORCED"]]]
  | key =>
    if (key == "INDEX" || key == "KEY") && label.isNone then
      let name ← if ← peekKeyword "USING" then pure none else attempt identifier
      let kind ← indexKind
      let columns ← indexColumns
      return labelled [.text key, optional .ident name, kind, columns, withCommas (← indexOptions)]
    if key == "FULLTEXT" || key == "SPATIAL" then
      if let some i := label then
        unexpected "FULLTEXT or SPATIAL option without constraint name" ⟨.ofWord i.show, t.span⟩
      let shown ← optionalWord ["KEY", "INDEX"]
      let name ← attempt identifier
      return labelled [.text key, shown, optional .ident name, ← indexColumns]
    if label.isSome then unexpected "UNIQUE, PRIMARY, FOREIGN, or CHECK" t
    set start
    return none

/-! ## Tables -/

/-- The columns and the constraints of a table, in parentheses. -/
def tableColumns : Rule Part := do
  if !(← symbol "(") then return .absent
  if ← symbol ")" then return .absent
  let (columns, constraints) ← iterate (([] : List Part), ([] : List Part)) fun (columns, constraints) => do
    let found ← match ← tableConstraint with
      | some c => pure (columns, c :: constraints)
      | none => do
        if (← peek).token.isWord then pure ((← columnDefinition) :: columns, constraints)
        else unexpected "column name or constraint definition" (← peek)
    let comma ← symbol ","
    let closing ← peekSymbol ")"
    if !comma && !closing then unexpected "',' or ')' after column definition" (← peek)
    if closing && !comma then
      let _ ← next
      return (found, false)
    return (found, true)
  return inParens (columns.reverse ++ constraints.reverse)

end ColumnMask.Sql
