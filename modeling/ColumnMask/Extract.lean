-- Which columns a statement names. Columns stand in three kinds of places: the target
-- lists of a top-level INSERT, UPDATE or DELETE, the USING lists of joins, and the
-- expressions. They are collected in the order in which a walk of the tree meets them.
import ColumnMask.Columns
import ColumnMask.Sql.Sites

namespace ColumnMask.Sql

/-! ## The walk -/

mutual

def NamePart.columns : NamePart → List String
  | .ident _ => []
  | .call _ args => columnsOfParts args

def columnsOfName : List NamePart → List String
  | [] => []
  | p :: ps => p.columns ++ columnsOfName ps

def columnsOfNames : List (List NamePart) → List String
  | [] => []
  | n :: ns => columnsOfName n ++ columnsOfNames ns

/-- A lone identifier is a column unless it is the word `DEFAULT`; of a dotted identifier the
last part is one. -/
def Expr.columns : Expr → List String
  | .column i => if i.isDefault then [] else [i.value]
  | .qualified parts => (parts.getLast?.map Ident.value).toList
  | .form _ parts => columnsOfParts parts

/-- A query is entered with the USING columns of its SELECT blocks; its parts follow. -/
def Query.columns : Query → List String
  | .mk ctes body clauses =>
    body.usingColumns.map Ident.value ++ ctes.columns ++ body.columns ++ columnsOfParts clauses

def Body.columns : Body → List String
  | .select s => s.columns
  | .query q => q.columns
  | .setOperation left _ quantifier right => left.columns ++ quantifier.columns ++ right.columns
  | .statement s => s.columns
  | .form _ parts => columnsOfParts parts

def Select.columns : Select → List String
  | .mk _ _ head projection middle tables clauses =>
    columnsOfParts head ++ columnsOfItems projection ++ columnsOfParts middle ++
      columnsOfTables tables ++ columnsOfParts clauses

def SelectItem.columns : SelectItem → List String
  | .plain e => e.columns
  | .aliased e _ => e.columns
  | .form _ parts => columnsOfParts parts

def columnsOfItems : List SelectItem → List String
  | [] => []
  | i :: is => i.columns ++ columnsOfItems is

def Alias.columns : Alias → List String
  | .absent => []
  | .named _ _ columns => columnsOfParts columns

def TableFactor.columns : TableFactor → List String
  | .table name label details => columnsOfName name ++ label.columns ++ columnsOfParts details
  | .derived _ query label => query.columns ++ label.columns
  | .nested table label => table.columns ++ label.columns
  | .form _ parts => columnsOfParts parts

def TableWithJoins.columns : TableWithJoins → List String
  | .mk relation joins => relation.columns ++ columnsOfJoins joins

def columnsOfTables : List TableWithJoins → List String
  | [] => []
  | t :: ts => t.columns ++ columnsOfTables ts

def Join.columns : Join → List String
  | .constrained relation _ _ constraint => relation.columns ++ constraint.columns
  | .asOf relation _ condition constraint =>
    relation.columns ++ condition.columns ++ constraint.columns
  | .apply relation _ _ => relation.columns

def columnsOfJoins : List Join → List String
  | [] => []
  | j :: js => j.columns ++ columnsOfJoins js

def JoinConstraint.columns : JoinConstraint → List String
  | .on condition => condition.columns
  | .using names => columnsOfNames names
  | .natural => []
  | .absent => []

def Target.inner : Target → List String
  | .name n => columnsOfName n
  | .tuple ns => columnsOfNames ns

def Assignment.columns : Assignment → List String
  | .mk target value => target.inner ++ value.columns

def columnsOfAssignments : List Assignment → List String
  | [] => []
  | a :: as => a.columns ++ columnsOfAssignments as

def ConflictTarget.inner : ConflictTarget → List String
  | .constraint n => columnsOfName n
  | .columns _ => []
  | .absent => []

def OnInsert.columns : OnInsert → List String
  | .absent => []
  | .duplicateKey assignments => columnsOfAssignments assignments
  | .conflictNothing target => target.inner
  | .conflictUpdate target assignments condition =>
    target.inner ++ columnsOfAssignments assignments ++ condition.columns

def TableClause.columns : TableClause → List String
  | .absent => []
  | .present _ tables => columnsOfTables tables

/-- The columns of a statement's expressions and queries. -/
def Statement.columns : Statement → List String
  | .query q => q.columns
  | .insert head _ middle on clauses =>
    columnsOfParts head ++ columnsOfParts middle ++ on.columns ++ columnsOfParts clauses
  | .update head table assignments source clauses =>
    columnsOfParts head ++ table.columns ++ columnsOfAssignments assignments ++ source.columns ++
      columnsOfParts clauses
  | .delete head source others clauses =>
    columnsOfParts head ++ source.columns ++ others.columns ++ columnsOfParts clauses
  | .other _ parts => columnsOfParts parts

def Part.columns : Part → List String
  | .name n => columnsOfName n
  | .relation n => columnsOfName n
  | .expr e => e.columns
  | .query q => q.columns
  | .item i => i.columns
  | .factor f => f.columns
  | .tables t => t.columns
  | .join j => j.columns
  | .assignment a => a.columns
  | .label a => a.columns
  | .statement s => s.columns
  | .list ps => columnsOfParts ps
  | .node _ ps => columnsOfParts ps
  | _ => []

def columnsOfParts : List Part → List String
  | [] => []
  | p :: ps => p.columns ++ columnsOfParts ps

end

/-! ## Batches -/

/-- The names at all column sites of a statement, in order: first the targets, then the walk. -/
def Statement.sites (s : Statement) : List String := s.targets.map Ident.value ++ s.columns

end ColumnMask.Sql

namespace ColumnMask

/-- The columns that a batch of statements names, in the order in which they are first met. -/
def extractColumns (batch : List Sql.Statement) : ColumnSet :=
  .ofList (batch.flatMap Sql.Statement.sites)

end ColumnMask
