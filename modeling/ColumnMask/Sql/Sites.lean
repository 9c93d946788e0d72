-- Where columns stand outside expressions: in the USING lists of joins, and in the
-- target lists of INSERT, UPDATE and DELETE. Each place is given twice, as the list of
-- its identifiers and as a change of them; both go through the places in one order.
import ColumnMask.Sql.Tree

namespace ColumnMask.Sql

variable {m : Type → Type} [Monad m]

/-! ## The last part of a name -/

/-- The identifier that a dotted name ends in, if it ends in one. -/
def lastIdent : ObjectName → Option Ident
  | [] => none
  | [.ident i] => some i
  | [.call ..] => none
  | _ :: p :: ps => lastIdent (p :: ps)

/-- Changes the identifier that a dotted name ends in, if it ends in one. -/
def mapLastIdent (f : Ident → m Ident) : ObjectName → m ObjectName
  | [] => pure []
  | [.ident i] => do return [.ident (← f i)]
  | [.call n args] => pure [.call n args]
  | p :: q :: ps => do return p :: (← mapLastIdent f (q :: ps))

/-- Changes the last identifier of every name of a list. -/
def mapLastIdents (f : Ident → m Ident) : List ObjectName → m (List ObjectName)
  | [] => pure []
  | n :: ns => do
    let n ← mapLastIdent f n
    return n :: (← mapLastIdents f ns)

/-- Changes every item of a list from first to last. -/
def mapEach {α : Type} (f : α → m α) : List α → m (List α)
  | [] => pure []
  | a :: as => do
    let a ← f a
    return a :: (← mapEach f as)

/-! ## USING lists -/

mutual

/-- The columns of the USING lists of a table and its joins, those of nested joins included. -/
def TableWithJoins.usingColumns : TableWithJoins → List Ident
  | .mk relation joins => relation.nestedColumns ++ joinsUsingColumns joins

/-- The USING columns of a parenthesised join; other sources have none. -/
def TableFactor.nestedColumns : TableFactor → List Ident
  | .nested table _ => table.usingColumns
  | _ => []

def joinsUsingColumns : List Join → List Ident
  | [] => []
  | j :: js => j.usingColumns ++ joinsUsingColumns js

/-- The USING columns of a join: first those nested in its source, then its own. -/
def Join.usingColumns : Join → List Ident
  | .constrained relation _ _ constraint => relation.nestedColumns ++ constraint.usingColumns
  | .asOf relation _ _ constraint => relation.nestedColumns ++ constraint.usingColumns
  | .apply relation _ _ => relation.nestedColumns

def JoinConstraint.usingColumns : JoinConstraint → List Ident
  | .using names => names.filterMap lastIdent
  | _ => []

end

mutual

/-- Changes the columns of the USING lists of a table and its joins. -/
def TableWithJoins.mapUsing (f : Ident → m Ident) : TableWithJoins → m TableWithJoins
  | .mk relation joins => do
    let relation ← relation.mapNested f
    return .mk relation (← mapJoinsUsing f joins)

/-- Changes the USING columns of a parenthesised join; other sources stay as they are. -/
def TableFactor.mapNested (f : Ident → m Ident) : TableFactor → m TableFactor
  | .nested table label => do return .nested (← table.mapUsing f) label
  | .table name label details => pure (.table name label details)
  | .derived lateral query label => pure (.derived lateral query label)
  | .form form parts => pure (.form form parts)

def mapJoinsUsing (f : Ident → m Ident) : List Join → m (List Join)
  | [] => pure []
  | j :: js => do
    let j ← j.mapUsing f
    return j :: (← mapJoinsUsing f js)

/-- Changes the USING columns of a join: first those nested in its source, then its own. -/
def Join.mapUsing (f : Ident → m Ident) : Join → m Join
  | .constrained relation global kind constraint => do
    let relation ← relation.mapNested f
    return .constrained relation global kind (← constraint.mapUsing f)
  | .asOf relation global condition constraint => do
    let relation ← relation.mapNested f
    return .asOf relation global condition (← constraint.mapUsing f)
  | .apply relation global outer => do return .apply (← relation.mapNested f) global outer

def JoinConstraint.mapUsing (f : Ident → m Ident) : JoinConstraint → m JoinConstraint
  | .using names => do return .using (← mapLastIdents f names)
  | .on condition => pure (.on condition)
  | .natural => pure .natural
  | .absent => pure .absent

end

/-! ## The SELECT blocks of a query body -/

/-- The SELECT blocks of a body, across set operations. A parenthesised query is a query of its
own and is not entered. -/
def Body.selects : Body → List Select
  | .select s => [s]
  | .setOperation left _ _ right => left.selects ++ right.selects
  | _ => []

def Select.tables : Select → List TableWithJoins
  | .mk _ _ _ _ _ tables _ => tables

/-- The USING columns that a query with this body is entered with. -/
def Body.usingColumns (body : Body) : List Ident :=
  body.selects.flatMap fun s => s.tables.flatMap TableWithJoins.usingColumns

/-! ## Assignments and conflicts -/

/-- The columns that an assignment sets. -/
def Target.columns : Target → List Ident
  | .name n => (lastIdent n).toList
  | .tuple ns => ns.filterMap lastIdent

/-- Changes the columns that an assignment sets. -/
def Target.mapColumns (f : Ident → m Ident) : Target → m Target
  | .name n => do return .name (← mapLastIdent f n)
  | .tuple ns => do return .tuple (← mapLastIdents f ns)

def Assignment.target : Assignment → Target
  | .mk target _ => target

def Assignment.mapTarget (f : Ident → m Ident) : Assignment → m Assignment
  | .mk target value => do return .mk (← target.mapColumns f) value

def assignedColumns (assignments : List Assignment) : List Ident :=
  assignments.flatMap fun a => a.target.columns

def mapAssigned (f : Ident → m Ident) (assignments : List Assignment) : m (List Assignment) :=
  mapEach (Assignment.mapTarget f) assignments

def ConflictTarget.targets : ConflictTarget → List Ident
  | .columns cs => cs
  | _ => []

def ConflictTarget.mapTargets (f : Ident → m Ident) : ConflictTarget → m ConflictTarget
  | .columns cs => do return .columns (← mapEach f cs)
  | .constraint n => pure (.constraint n)
  | .absent => pure .absent

def OnInsert.targets : OnInsert → List Ident
  | .absent => []
  | .duplicateKey assignments => assignedColumns assignments
  | .conflictNothing target => target.targets
  | .conflictUpdate target assignments _ => target.targets ++ assignedColumns assignments

def OnInsert.mapTargets (f : Ident → m Ident) : OnInsert → m OnInsert
  | .absent => pure .absent
  | .duplicateKey assignments => do return .duplicateKey (← mapAssigned f assignments)
  | .conflictNothing target => do return .conflictNothing (← target.mapTargets f)
  | .conflictUpdate target assignments condition => do
    let target ← target.mapTargets f
    return .conflictUpdate target (← mapAssigned f assignments) condition

def TableClause.usingColumns : TableClause → List Ident
  | .absent => []
  | .present _ tables => tables.flatMap TableWithJoins.usingColumns

def TableClause.mapUsing (f : Ident → m Ident) : TableClause → m TableClause
  | .absent => pure .absent
  | .present role tables => do
    return .present role (← mapEach (TableWithJoins.mapUsing f) tables)

/-! ## The targets of a statement -/

/-- The columns in the target lists of a statement, and in the USING lists of the tables it
changes. -/
def Statement.targets : Statement → List Ident
  | .insert _ columns _ on _ => columns ++ on.targets
  | .update _ table assignments source _ =>
    assignedColumns assignments ++ table.usingColumns ++ source.usingColumns
  | .delete _ source others _ => source.usingColumns ++ others.usingColumns
  | .query _ => []
  | .other .. => []

/-- Changes the columns in the target lists of a statement, and in the USING lists of the tables
it changes. -/
def Statement.mapTargets (f : Ident → m Ident) : Statement → m Statement
  | .insert head columns middle on clauses => do
    let columns ← mapEach f columns
    return .insert head columns middle (← on.mapTargets f) clauses
  | .update head table assignments source clauses => do
    let assignments ← mapAssigned f assignments
    let table ← table.mapUsing f
    return .update head table assignments (← source.mapUsing f) clauses
  | .delete head source others clauses => do
    let source ← source.mapUsing f
    return .delete head source (← others.mapUsing f) clauses
  | .query q => pure (.query q)
  | .other form parts => pure (.other form parts)

end ColumnMask.Sql
