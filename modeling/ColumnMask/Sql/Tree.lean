-- The syntax trees of SQL statements. What can hold a column site, a relation or an
-- alias has a type of its own; every other production is a form with its parts, which
-- stand in the order in which a walk visits them.
import ColumnMask.Sql.Form

namespace ColumnMask.Sql

/-! ## Closed choices -/

/-- How the two sides of a join with a constraint are combined. -/
inductive JoinKind where
  | join | inner | left | leftOuter | right | rightOuter | fullOuter | cross
  | semi | leftSemi | rightSemi | anti | leftAnti | rightAnti | straight
  deriving DecidableEq, Repr

inductive SetOperator where
  | union | except | intersect | minus
  deriving DecidableEq, Repr

/-- Which of SELECT and FROM a block is written with, and in which order. -/
inductive SelectFlavor where
  | standard | fromFirst | fromOnly
  deriving DecidableEq, Repr

/-- Where a list of tables stands in an UPDATE or a DELETE. -/
inductive TableRole where
  | beforeSet | afterSet | fromKeyword | withoutKeyword | usingList
  deriving DecidableEq, Repr

/-! ## Trees -/

mutual

/-- A part of a dotted name: an identifier, or a call that computes one. -/
inductive NamePart where
  | ident (i : Ident)
  | call (name : Ident) (args : List Part)

/-- An expression. A lone identifier and the last part of a dotted one name columns. -/
inductive Expr where
  | column (name : Ident)
  | qualified (parts : List Ident)
  | form (form : Form) (parts : List Part)

/-- A query: its WITH clause, its body, and the clauses after the body. -/
inductive Query where
  | mk (ctes : Part) (body : Body) (clauses : List Part)

/-- The body of a query. -/
inductive Body where
  | select (select : Select)
  | query (query : Query)
  | setOperation (left : Body) (operator : SetOperator) (quantifier : Part) (right : Body)
  | statement (statement : Statement)
  | form (form : Form) (parts : List Part)

/-- A SELECT block: how it is written, its value table mode, and what stands before the
projection, between it and the tables, and after the tables. -/
inductive Select where
  | mk (flavor : SelectFlavor) (mode : Part) (head : List Part) (projection : List SelectItem) (middle : List Part)
      (tables : List TableWithJoins) (clauses : List Part)

/-- An item of a projection. -/
inductive SelectItem where
  | plain (expr : Expr)
  | aliased (expr : Expr) (label : Ident)
  | form (form : Form) (parts : List Part)

/-- The name a table is given, with the names of its columns. -/
inductive Alias where
  | absent
  | named (explicit : Bool) (name : Ident) (columns : List Part)

/-- A source of rows. -/
inductive TableFactor where
  | table (name : List NamePart) (label : Alias) (details : List Part)
  | derived (lateral : Bool) (query : Query) (label : Alias)
  | nested (table : TableWithJoins) (label : Alias)
  | form (form : Form) (parts : List Part)

/-- A source of rows and what is joined to it. -/
inductive TableWithJoins where
  | mk (relation : TableFactor) (joins : List Join)

/-- A joined source of rows. -/
inductive Join where
  | constrained (relation : TableFactor) (global : Bool) (kind : JoinKind)
      (constraint : JoinConstraint)
  | asOf (relation : TableFactor) (global : Bool) (condition : Expr) (constraint : JoinConstraint)
  | apply (relation : TableFactor) (global : Bool) (outer : Bool)

inductive JoinConstraint where
  | on (condition : Expr)
  | using (columns : List (List NamePart))
  | natural
  | absent

/-- What an assignment sets: one name, or a tuple of names. -/
inductive Target where
  | name (name : List NamePart)
  | tuple (names : List (List NamePart))

inductive Assignment where
  | mk (target : Target) (value : Expr)

/-- Which conflict an INSERT speaks of. -/
inductive ConflictTarget where
  | absent
  | columns (columns : List Ident)
  | constraint (name : List NamePart)

/-- What an INSERT does with a row that is already there. -/
inductive OnInsert where
  | absent
  | duplicateKey (assignments : List Assignment)
  | conflictNothing (target : ConflictTarget)
  | conflictUpdate (target : ConflictTarget) (assignments : List Assignment) (condition : Part)

/-- A list of tables of an UPDATE or a DELETE, in its role. -/
inductive TableClause where
  | absent
  | present (role : TableRole) (tables : List TableWithJoins)

/-- A statement. Queries and the three statements on rows have fields; any other statement is a
form. -/
inductive Statement where
  | query (query : Query)
  | insert (head : List Part) (columns : List Ident) (middle : List Part) (on : OnInsert)
      (clauses : List Part)
  | update (head : List Part) (table : TableWithJoins) (assignments : List Assignment)
      (source : TableClause) (clauses : List Part)
  | delete (head : List Part) (source : TableClause) (others : TableClause) (clauses : List Part)
  | other (form : Form) (parts : List Part)

/-- A part of a node. -/
inductive Part where
  /-- An optional part that is not there. -/
  | absent
  | flag (b : Bool)
  | number (n : Int)
  | text (s : String)
  /-- One of a closed list of words: its name in the tree notation, and its spelling. -/
  | choice (name : String) (spelling : String)
  | value (v : Value)
  | token (t : Token)
  | span (s : Span)
  | ident (i : Ident)
  /-- A name that is not visited as a relation. -/
  | name (name : List NamePart)
  /-- The name of a relation. -/
  | relation (name : List NamePart)
  | expr (e : Expr)
  | query (q : Query)
  | item (i : SelectItem)
  | factor (f : TableFactor)
  | tables (t : TableWithJoins)
  | join (j : Join)
  | assignment (a : Assignment)
  /-- The name a table is given. -/
  | label (a : Alias)
  | statement (s : Statement)
  | list (parts : List Part)
  | node (form : Form) (parts : List Part)

end

/-- A dotted name. -/
abbrev ObjectName := List NamePart

/-- Whether a part is not there. -/
def Part.isAbsent : Part → Bool
  | .absent => true
  | _ => false

instance : Inhabited Expr := ⟨.column ⟨"", none, .nowhere⟩⟩
instance : Inhabited Part := ⟨.absent⟩

end ColumnMask.Sql
