-- The statements that change rows: INSERT, REPLACE, UPDATE, DELETE and MERGE.
import ColumnMask.Sql.Grammar.Selects

namespace ColumnMask.Sql

/-! ## Shared parts -/

/-- What happens to rows that violate a constraint. -/
def conflictPart : Rule Part := do
  for (word, name) in [("REPLACE", "Replace"), ("ROLLBACK", "Rollback"), ("ABORT", "Abort"),
      ("FAIL", "Fail"), ("IGNORE", "Ignore")] do
    if ← keywords ["OR", word] then return .choice name ("OR " ++ word)
  if ← keyword "REPLACE" then return .choice "Replace" "OR REPLACE"
  return .absent

def assignment : Rule Assignment := do
  let target ← if ← symbol "(" then do
      let names ← commaList objectName
      let _ ← expectSymbol ")"
      pure (Target.tuple names)
    else do pure (.name (← objectName))
  let _ ← expectSymbol "="
  return .mk target (← expr)

def assignmentList : Rule (List Assignment) := commaList assignment

/-- The items after RETURNING. -/
def returningPart : Rule Part := do
  if ← keyword "RETURNING" then return listOf .item (← selectItems) else return .absent

/-! ## INSERT -/

/-- The words for the formats of files. -/
def fileFormats : List String :=
  ["AVRO", "JSONFILE", "ORC", "PARQUET", "RCFILE", "SEQUENCEFILE", "TEXTFILE"]

/-- The format of a file. -/
def fileFormat : Rule Part := do
  let t ← next
  if fileFormats.contains t.token.key then return .choice t.token.key t.token.key
  unexpected "fileformat" t

def priorityPart : Rule Part := do
  match ← oneOf ["LOW_PRIORITY", "DELAYED", "HIGH_PRIORITY"] with
  | some "LOW_PRIORITY" => return .choice "LowPriority" "LOW_PRIORITY"
  | some "DELAYED" => return .choice "Delayed" "DELAYED"
  | some _ => return .choice "HighPriority" "HIGH_PRIORITY"
  | none => return .absent

/-- What an INSERT does on a conflict. -/
def onInsert : Rule OnInsert := do
  if !(← keyword "ON") then return .absent
  if ← keyword "CONFLICT" then
    let target ← if ← keywords ["ON", "CONSTRAINT"] then do
        pure (ConflictTarget.constraint (← objectName))
      else if ← peekSymbol "(" then do pure (.columns (← identifierList))
      else pure .absent
    let _ ← expectKeyword "DO"
    if ← keyword "NOTHING" then return .conflictNothing target
    expectKeywords ["UPDATE", "SET"]
    let assignments ← assignmentList
    return .conflictUpdate target assignments (← exprAfter "WHERE")
  expectKeywords ["DUPLICATE", "KEY", "UPDATE"]
  return .duplicateKey (← assignmentList)

/-- The names for the new row. -/
def insertAlias : Rule Part := do
  if !(← keyword "AS") then return .absent
  let name ← objectName
  let columns ← optionalIdentifierList
  return .node ⟨.record ["row_alias", "col_aliases"], [.part 0, .someList 1 " (" ", " ")"]⟩
    [.name name, listOf .ident columns]

/-- The columns, the partitions and the source of the rows of an INSERT. -/
def insertRows : Rule (List Ident × Part × Part) := do
  if ← keywords ["DEFAULT", "VALUES"] then return ([], .absent, .absent)
  let (columns, partitions) ←
    if (← peekSymbol "(") && (← peekAfter 1).token.key == "SELECT" then pure ([], Part.absent)
    else do
      let columns ← optionalIdentifierList
      let partitions ← if ← keyword "PARTITION" then do
          pure (listOf .expr (← parenthesized (commaList expr)))
        else pure .absent
      pure (columns, partitions)
  if ← peekOneOf ["FORMAT", "SETTINGS"] then return (columns, partitions, .absent)
  return (columns, partitions, .query (← query))

/-- The table that rows are inserted into. -/
def insertTable (name : ObjectName) : Part :=
  .node ⟨.newtype "TableName", [.part 0]⟩ [.relation name]

/-- An INSERT after its first word; `replaces` says whether that word is REPLACE. -/
def insertRule (replaces : Bool) : Rule Statement := do
  let first ← lastRead
  let conflict ← conflictPart
  let priority ← priorityPart
  let ignore ← keyword "IGNORE"
  let overwrite ← keyword "OVERWRITE"
  let into ← keyword "INTO"
  let isLocal ← keyword "LOCAL"
  if ← keyword "DIRECTORY" then
    let path ← literalString
    let format ← if ← keywords ["STORED", "AS"] then fileFormat else pure .absent
    let q ← query
    return .other ⟨.variant "Directory" ["overwrite", "local", "path", "file_format", "source"],
        [.word "INSERT", .flag 0 " OVERWRITE" "", .flag 1 " LOCAL" "", .word " DIRECTORY ", .part 2,
          .opt 3 " STORED AS " "", .word " ", .part 4]⟩
      [.flag overwrite, .flag isLocal, quotedPart path, format, .query q]
  let hasTable ← keyword "TABLE"
  let name ← objectName
  let table := insertTable name
  let (columns, partitions, source) ← insertRows
  let label ← insertAlias
  let on ← onInsert
  let returning ← returningPart
  return .insert [attached first, conflict, .flag ignore, .flag into, table, .absent] columns
    [.flag overwrite, source, .list [], partitions, .list [], .flag hasTable] on
    [returning, .flag replaces, priority, label, .absent, .absent]

/-! ## UPDATE and DELETE -/

def updateRule : Rule Statement := do
  let first ← lastRead
  let conflict ← conflictPart
  let table ← tables
  let early ← after "FROM" tableList
  let _ ← expectKeyword "SET"
  let assignments ← assignmentList
  let source ← match early with
    | some found => pure (TableClause.present .beforeSet found)
    | none => do
      match ← after "FROM" tableList with
      | some found => pure (.present .afterSet found)
      | none => pure .absent
  let selection ← exprAfter "WHERE"
  let returning ← returningPart
  let limit ← exprAfter "LIMIT"
  return .update [attached first] table assignments source [selection, returning, conflict, limit]

/-- The number after LIMIT; ALL says nothing. -/
def limitPart : Rule Part := do
  if !(← keyword "LIMIT") then return .absent
  if ← keyword "ALL" then return .absent
  return .expr (← expr)

def deleteRule : Rule Statement := do
  let first ← lastRead
  let role := if ← keyword "FROM" then TableRole.fromKeyword else .withoutKeyword
  let source ← tableList
  let others ← match ← after "USING" tableList with
    | some found => pure (TableClause.present .usingList found)
    | none => pure .absent
  let selection ← exprAfter "WHERE"
  let returning ← returningPart
  let order ← listAfter ["ORDER", "BY"] orderItem
  let limit ← limitPart
  return .delete [attached first, .list []] (.present role source) others
    [selection, returning, order, limit]

/-! ## MERGE -/

/-- Which rows a clause of a MERGE is about: name, spelling, and whether they are new rows. -/
def mergeKind : Rule (Part × String × Bool) := do
  let negated ← keyword "NOT"
  let _ ← expectKeyword "MATCHED"
  if negated then
    if ← keywords ["BY", "SOURCE"] then
      return (.choice "NotMatchedBySource" "NOT MATCHED BY SOURCE", "NOT MATCHED BY SOURCE", false)
    if ← keywords ["BY", "TARGET"] then
      return (.choice "NotMatchedByTarget" "NOT MATCHED BY TARGET", "NOT MATCHED BY TARGET", true)
    return (.choice "NotMatched" "NOT MATCHED", "NOT MATCHED", true)
  return (.choice "Matched" "MATCHED", "MATCHED", false)

def mergeAction (spelling : String) (isNew : Bool) : Rule Part := do
  let allow (word : String) (allowed : Bool) : Rule Unit :=
    if allowed then pure ()
    else refuse (word ++ " is not allowed in a " ++ spelling ++ " merge clause")
  match ← oneOf ["UPDATE", "INSERT", "DELETE"] with
  | some "UPDATE" =>
    allow "UPDATE" !isNew
    let first ← lastRead
    let _ ← expectKeyword "SET"
    let assignments ← assignmentList
    return .node ⟨.variant "Update" ["update_token", "assignments"],
        [.word "UPDATE SET ", .list 1 ", "]⟩
      [attached first, listOf .assignment assignments]
  | some "DELETE" =>
    allow "DELETE" !isNew
    return .node ⟨.variant "Delete" ["delete_token"], [.word "DELETE"]⟩ [attached (← lastRead)]
  | some _ =>
    allow "INSERT" isNew
    let first ← lastRead
    let columns ← optionalIdentifierList
    let rows ← if ← keyword "ROW" then do
        pure [attached (← lastRead), Part.choice "Row" "ROW"]
      else do
        let second ← expectKeyword "VALUES"
        let (form, rows) ← valueRows false
        pure [attached second, .node form rows]
    return .node ⟨.variant "Insert" ["insert_token", "columns", "kind_token", "kind"],
        [.word "INSERT ", .someList 1 "(" ", " ") ", .part 3]⟩
      ([attached first, listOf .ident columns] ++ rows)
  | none => refuse "expected UPDATE, DELETE or INSERT in merge clause"

def mergeClause : Rule (Option Part) := do
  if !(← keyword "WHEN") then return none
  let first ← lastRead
  let (kind, spelling, isNew) ← mergeKind
  let predicate ← exprAfter "AND"
  let _ ← expectKeyword "THEN"
  let action ← mergeAction spelling isNew
  return some (.node ⟨.record ["when_token", "clause_kind", "predicate", "action"],
      [.word "WHEN ", .part 1, .opt 2 " AND " "", .word " THEN ", .part 3]⟩
    [attached first, kind, predicate, action])

/-- The rows that a MERGE gives back. -/
def outputPart : Rule Part := do
  if ← keyword "OUTPUT" then
    let first ← lastRead
    let items ← projection
    return .node ⟨.variant "Output" ["output_token", "select_items", "into_table"],
        [.word "OUTPUT ", .list 1 ", ", .opt 2 " " ""]⟩
      [attached first, listOf .item items, ← intoPart]
  if ← keyword "RETURNING" then
    let first ← lastRead
    return .node ⟨.variant "Returning" ["returning_token", "select_items"],
        [.word "RETURNING ", .list 1 ", "]⟩
      [attached first, listOf .item (← projection)]
  return .absent

def mergeRule : Rule Statement := do
  let first ← lastRead
  let into ← keyword "INTO"
  let table ← factor
  let _ ← expectKeyword "USING"
  let source ← factor
  let _ ← expectKeyword "ON"
  let on ← expr
  let clauses ← many mergeClause
  let output ← outputPart
  return .other ⟨.variant "Merge" ["merge_token", "into", "table", "source", "on", "clauses", "output"],
      [.word "MERGE", .flag 1 " INTO" "", .word " ", .part 2, .word " USING ", .part 3, .word " ON ",
        .part 4, .someList 5 " " " " "", .opt 6 " " ""]⟩
    [attached first, .flag into, .factor table, .factor source, .expr on, .list clauses, output]

end ColumnMask.Sql
