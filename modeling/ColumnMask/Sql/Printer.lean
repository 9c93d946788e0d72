-- Printing trees as SQL text. The text of a node is made from the texts of its parts by
-- the layout of its form, so printing is one pass over the tree.
import ColumnMask.Sql.Tree

namespace ColumnMask.Sql

/-! ## Words of closed choices -/

/-- The words in front of the joined source. -/
def JoinKind.words : JoinKind → String
  | .join => "JOIN"
  | .inner => "INNER JOIN"
  | .left => "LEFT JOIN"
  | .leftOuter => "LEFT OUTER JOIN"
  | .right => "RIGHT JOIN"
  | .rightOuter => "RIGHT OUTER JOIN"
  | .fullOuter => "FULL JOIN"
  | .cross => "CROSS JOIN"
  | .semi => "SEMI JOIN"
  | .leftSemi => "LEFT SEMI JOIN"
  | .rightSemi => "RIGHT SEMI JOIN"
  | .anti => "ANTI JOIN"
  | .leftAnti => "LEFT ANTI JOIN"
  | .rightAnti => "RIGHT ANTI JOIN"
  | .straight => "STRAIGHT_JOIN"

def SetOperator.words : SetOperator → String
  | .union => "UNION"
  | .except => "EXCEPT"
  | .intersect => "INTERSECT"
  | .minus => "MINUS"

/-- What stands in front of a list of tables. -/
def TableRole.words : TableRole → String
  | .beforeSet | .afterSet | .fromKeyword => " FROM "
  | .withoutKeyword => " "
  | .usingList => " USING "

/-! ## Layouts of the nodes with fields -/

/-- A query: WITH, body, ORDER BY, LIMIT, FETCH, locks, FOR, SETTINGS, FORMAT, pipes. -/
def Form.query : Form where
  encoding := .record ["with", "body", "order_by", "limit_clause", "fetch", "locks", "for_clause",
    "settings", "format_clause", "pipe_operators"]
  layout := [.opt 0 "" " ", .part 1, .opt 2 " " "", .part 3, .someList 7 " SETTINGS " ", " "",
    .opt 4 " " "", .someList 5 " " " " "", .opt 6 " " "", .opt 8 " " "",
    .someList 9 " |> " " |> " ""]

/-- A SELECT block. The parts are those of the tree notation; the last two are the value table
mode and the flavor. -/
def selectEncoding : Encoding :=
  .variant "Select" ["select_token", "distinct", "top", "top_before_distinct", "projection",
    "exclude", "into", "from", "lateral_views", "prewhere", "selection", "group_by", "cluster_by",
    "distribute_by", "sort_by", "having", "named_window", "qualify", "window_before_qualify",
    "value_table_mode", "connect_by", "flavor"]

def selectLayout (opening closing : List Piece) : List Piece :=
  opening ++ [.opt 19 " " "", .part 22, .someList 4 " " ", " "", .opt 5 " " "",
    .opt 6 " " ""] ++ closing ++ [.list 8 "", .opt 9 " PREWHERE " "", .opt 10 " WHERE " "",
    .part 11, .someList 12 " CLUSTER BY " ", " "", .someList 13 " DISTRIBUTE BY " ", " "",
    .someList 14 " SORT BY " ", " "", .opt 15 " HAVING " "", .part 23, .opt 20 " " ""]

/-- A SELECT block of the flavor. Parts 22 and 23 are not in the tree notation: TOP and DISTINCT,
and WINDOW and QUALIFY, in the order they were written in. -/
def Form.select : SelectFlavor → Form
  | .standard => ⟨selectEncoding, selectLayout [.word "SELECT"] [.someList 7 " FROM " ", " ""]⟩
  | .fromFirst =>
    ⟨selectEncoding, selectLayout [.word "FROM ", .list 7 ", ", .word " SELECT"] []⟩
  | .fromOnly => ⟨selectEncoding, selectLayout [.word "FROM ", .list 7 ", "] []⟩

/-- An INSERT: token, OR, IGNORE, INTO, table, alias, columns, OVERWRITE, source, assignments,
partitions, columns after them, TABLE, ON, RETURNING, REPLACE, priority, row alias, SETTINGS,
FORMAT. -/
def insertEncoding : Encoding :=
  .variant "Insert" ["insert_token", "or", "ignore", "into", "table", "table_alias", "columns",
    "overwrite", "source", "assignments", "partitioned", "after_columns", "has_table_keyword", "on",
    "returning", "replace_into", "priority", "insert_alias", "settings", "format_clause"]

def insertLayout (opening : List Piece) : List Piece :=
  opening ++ [.part 4, .opt 5 " AS " "", .word " ", .someList 6 "(" ", " ") ",
    .someList 10 "PARTITION (" ", " ") ", .someList 11 "(" ", " ") ",
    .someList 18 "SETTINGS " ", " " ", .part 20, .opt 17 " AS " "", .part 13,
    .someList 14 " RETURNING " ", " ""]

/-- An INSERT with OR says INTO; any other says what it was written with. Part 20 is the source of
the rows in whatever form it has. -/
def Form.insert (alternative : Bool) : Form where
  encoding := insertEncoding
  layout := insertLayout (if alternative then [.word "INSERT ", .part 1, .word " INTO "] else
    [.flag 15 "REPLACE" "INSERT", .opt 16 " " "", .flag 2 " IGNORE" "", .flag 7 " OVERWRITE" "",
      .flag 3 " INTO" "", .flag 12 " TABLE" "", .word " "])

/-- An UPDATE: token, table, assignments, FROM, WHERE, RETURNING, OR, LIMIT. Parts 8 and 9 are the
source tables before and after SET. -/
def Form.update : Form where
  encoding := .variant "Update" ["update_token", "table", "assignments", "from", "selection",
    "returning", "or", "limit"]
  layout := [.word "UPDATE ", .opt 6 "" " ", .part 1, .part 8, .someList 2 " SET " ", " "", .part 9,
    .opt 4 " WHERE " "", .someList 5 " RETURNING " ", " "", .opt 7 " LIMIT " ""]

/-- A DELETE: token, tables, FROM, USING, WHERE, RETURNING, ORDER BY, LIMIT. -/
def Form.delete : Form where
  encoding := .variant "Delete" ["delete_token", "tables", "from", "using", "selection",
    "returning", "order_by", "limit"]
  layout := [.word "DELETE", .someList 1 " " ", " "", .part 2, .part 3, .opt 4 " WHERE " "",
    .someList 5 " RETURNING " ", " "", .someList 6 " ORDER BY " ", " "", .opt 7 " LIMIT " ""]

/-- A table: name, alias, arguments, hints, version, ordinality, partitions, path, sample, index
hints. -/
def Form.table : Form where
  encoding := .variant "Table" ["name", "alias", "args", "with_hints", "version",
    "with_ordinality", "partitions", "json_path", "sample", "index_hints"]
  layout := [.part 0, .part 7, .someList 6 "PARTITION (" ", " ")", .opt 2 "(" ")",
    .flag 5 " WITH ORDINALITY" "", .opt 1 " " "", .someList 9 " " " " "",
    .someList 3 " WITH (" ", " ")", .opt 4 " " "", .opt 8 " " ""]

/-! ## Texts of the nodes -/

/-- A text in a place that may hold nothing. -/
def shownText (s : String) : Shown := if s = "" then .absent else .text s

/-- The parts in which a SELECT block keeps TOP and DISTINCT, and WINDOW and QUALIFY, in order. -/
def selectOrder (parts : List Shown) : List Shown :=
  let one (i : Nat) (before : String) := Form.write ⟨.bare, [.opt i before ""]⟩ parts
  let top := one 2 " "
  let distinct := one 1 " "
  let windows := Form.write ⟨.bare, [.someList 16 " WINDOW " ", " ""]⟩ parts
  let qualify := one 17 " QUALIFY "
  let isSet (i : Nat) := parts.getD i .absent == .flag true
  [ .text (if isSet 3 then top ++ distinct else distinct ++ top),
    .text (if isSet 18 then windows ++ qualify else qualify ++ windows) ]

/-- The source of the rows of an INSERT: a query, assignments, a format, or the defaults. -/
def insertSource (parts : List Shown) : Shown :=
  match parts.getD 8 .absent, parts.getD 9 .absent, parts.getD 19 .absent with
  | .text source, _, _ => .text source
  | _, .list (a :: as), _ => .text ("SET " ++ ", ".intercalate (a :: as))
  | _, _, .text format => .text format
  | _, _, _ => if (parts.getD 6 .absent).items.isEmpty then .text "DEFAULT VALUES" else .absent

mutual

def NamePart.show : NamePart → String
  | .ident i => i.show
  | .call name args => name.show ++ "(" ++ ", ".intercalate (textsOfParts args) ++ ")"

def textsOfName : List NamePart → List String
  | [] => []
  | p :: ps => p.show :: textsOfName ps

def textsOfNames : List (List NamePart) → List String
  | [] => []
  | n :: ns => ".".intercalate (textsOfName n) :: textsOfNames ns

def Expr.show : Expr → String
  | .column i => i.show
  | .qualified parts => ".".intercalate (parts.map Ident.show)
  | .form f parts => f.write (shownParts parts)

def Query.show : Query → String
  | .mk ctes body clauses =>
    Form.query.write (ctes.shown :: .text body.show :: shownParts clauses)

def Body.show : Body → String
  | .select s => s.show
  | .query q => "(" ++ q.show ++ ")"
  | .setOperation left operator quantifier right =>
    left.show ++ " " ++ operator.words ++
      Form.write ⟨.bare, [.opt 0 " " ""]⟩ [quantifier.shown] ++ " " ++ right.show
  | .statement s => s.show
  | .form f parts => f.write (shownParts parts)

def Select.show : Select → String
  | .mk flavor mode head projection middle tables clauses =>
    let parts := shownParts head ++ [.list (textsOfItems projection)] ++ shownParts middle ++
      [.list (textsOfTables tables)] ++ shownParts clauses
    let parts := parts.take 19 ++ [mode.shown] ++ parts.drop 19 ++ [.text ""]
    (Form.select flavor).write (parts ++ selectOrder parts)

def SelectItem.show : SelectItem → String
  | .plain e => e.show
  | .aliased e i => e.show ++ " AS " ++ i.show
  | .form f parts => f.write (shownParts parts)

def textsOfItems : List SelectItem → List String
  | [] => []
  | i :: is => i.show :: textsOfItems is

def Alias.show : Alias → String
  | .absent => ""
  | .named explicit name columns =>
    (if explicit then "AS " else "") ++ name.show ++
      (if columns.isEmpty then "" else " (" ++ ", ".intercalate (textsOfParts columns) ++ ")")

def TableFactor.show : TableFactor → String
  | .table name label details =>
    Form.table.write
      (.text (".".intercalate (textsOfName name)) :: shownText label.show :: shownParts details)
  | .derived lateral q label =>
    (if lateral then "LATERAL " else "") ++ "(" ++ q.show ++ ")" ++
      Form.write ⟨.bare, [.opt 0 " " ""]⟩ [shownText label.show]
  | .nested t label =>
    "(" ++ t.show ++ ")" ++ Form.write ⟨.bare, [.opt 0 " " ""]⟩ [shownText label.show]
  | .form f parts => f.write (shownParts parts)

def TableWithJoins.show : TableWithJoins → String
  | .mk relation joins => relation.show ++ String.join (textsOfJoins joins)

def textsOfTables : List TableWithJoins → List String
  | [] => []
  | t :: ts => t.show :: textsOfTables ts

def Join.show : Join → String
  | .constrained relation global kind constraint =>
    (if global then "GLOBAL " else "") ++ constraint.lead ++ kind.words ++ " " ++
      relation.show ++ constraint.show
  | .asOf relation global condition constraint =>
    (if global then "GLOBAL " else "") ++ "ASOF JOIN " ++ relation.show ++
      " MATCH_CONDITION (" ++ condition.show ++ ")" ++ constraint.show
  | .apply relation global outer =>
    (if global then "GLOBAL " else "") ++ (if outer then "OUTER APPLY " else "CROSS APPLY ")
      ++ relation.show

def textsOfJoins : List Join → List String
  | [] => []
  | j :: js => (" " ++ j.show) :: textsOfJoins js

/-- What a constraint puts in front of the join. -/
def JoinConstraint.lead : JoinConstraint → String
  | .natural => "NATURAL "
  | _ => ""

/-- What a constraint puts after the join. -/
def JoinConstraint.show : JoinConstraint → String
  | .on condition => " ON " ++ condition.show
  | .using names => " USING(" ++ ", ".intercalate (textsOfNames names) ++ ")"
  | .natural => ""
  | .absent => ""

def Target.show : Target → String
  | .name n => ".".intercalate (textsOfName n)
  | .tuple ns => "(" ++ ", ".intercalate (textsOfNames ns) ++ ")"

def Assignment.show : Assignment → String
  | .mk target value => target.show ++ " = " ++ value.show

def textsOfAssignments : List Assignment → List String
  | [] => []
  | a :: as => a.show :: textsOfAssignments as

def ConflictTarget.show : ConflictTarget → String
  | .absent => ""
  | .columns is => "(" ++ ", ".intercalate (is.map Ident.show) ++ ")"
  | .constraint n => " ON CONSTRAINT " ++ ".".intercalate (textsOfName n)

def OnInsert.show : OnInsert → String
  | .absent => ""
  | .duplicateKey assignments =>
    " ON DUPLICATE KEY UPDATE " ++ ", ".intercalate (textsOfAssignments assignments)
  | .conflictNothing target => " ON CONFLICT" ++ target.show ++ " DO NOTHING"
  | .conflictUpdate target assignments condition =>
    " ON CONFLICT" ++ target.show ++ " DO UPDATE SET " ++
      ", ".intercalate (textsOfAssignments assignments) ++
      Form.write ⟨.bare, [.opt 0 " WHERE " ""]⟩ [condition.shown]

def TableClause.show : TableClause → String
  | .absent => ""
  | .present role tables => role.words ++ ", ".intercalate (textsOfTables tables)

/-- The text of a list of source tables in one role, and nothing in any other. -/
def TableClause.showIn (role : TableRole) : TableClause → String
  | .absent => ""
  | .present r tables =>
    if r = role then role.words ++ ", ".intercalate (textsOfTables tables) else ""

/-- A statement as SQL text. -/
def Statement.show : Statement → String
  | .query q => q.show
  | .insert head columns middle on clauses =>
    let parts := shownParts head ++ [.list (columns.map Ident.show)] ++ shownParts middle ++
      [.text on.show] ++ shownParts clauses
    (Form.insert (parts.getD 1 .absent != .absent)).write (parts ++ [insertSource parts])
  | .update head table assignments source clauses =>
    Form.update.write (shownParts head ++ [.text table.show, .list (textsOfAssignments assignments),
      .absent] ++ shownParts clauses ++
      [.text (source.showIn .beforeSet), .text (source.showIn .afterSet)])
  | .delete head source others clauses =>
    Form.delete.write (shownParts head ++ [.text source.show, .text others.show] ++
      shownParts clauses)
  | .other f parts => f.write (shownParts parts)

def Part.shown : Part → Shown
  | .absent => .absent
  | .flag b => .flag b
  | .number n => .text (toString n)
  | .text s => .text s
  | .choice _ spelling => .text spelling
  | .value v => .text v.show
  | .token _ => .absent
  | .span _ => .absent
  | .ident i => .text i.show
  | .name n => .text (".".intercalate (textsOfName n))
  | .relation n => .text (".".intercalate (textsOfName n))
  | .expr e => .text e.show
  | .query q => .text q.show
  | .item i => .text i.show
  | .factor f => .text f.show
  | .tables t => .text t.show
  | .join j => .text j.show
  | .assignment a => .text a.show
  | .label a => shownText a.show
  | .statement s => .text s.show
  | .list ps => .list (textsOfParts ps)
  | .node f ps => .text (f.write (shownParts ps))

def shownParts : List Part → List Shown
  | [] => []
  | p :: ps => p.shown :: shownParts ps

def textsOfParts : List Part → List String
  | [] => []
  | p :: ps => p.shown.plain :: textsOfParts ps

end

end ColumnMask.Sql
