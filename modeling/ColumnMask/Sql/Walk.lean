-- One walk over a tree that may change the identifiers it meets. A walker says what
-- becomes of the identifiers in each kind of place; all else is rebuilt as it was. The
-- order of the walk is the order in which the columns of a statement are collected.
import ColumnMask.Sql.Sites

namespace ColumnMask.Sql

/-! ## Walkers -/

/-- What a walk does with the identifiers it meets, and on entering a query. -/
structure Walker (m : Type → Type) where
  /-- A query with this body is entered; nothing of it has been changed yet. -/
  enter : Body → m Unit
  /-- An expression that is a lone identifier. -/
  lone : Ident → m Ident
  /-- The last part of a dotted identifier. -/
  last : Ident → m Ident
  /-- Any earlier part of a dotted identifier. -/
  qualifier : Ident → m Ident
  /-- The last part of a USING column of a join in a SELECT block. -/
  joined : Ident → m Ident
  /-- A part of the name of a relation. -/
  relation : Ident → m Ident
  /-- The name given to a table or to a subquery in a list of tables. -/
  source : Ident → m Ident
  /-- The name given to an item of a projection. -/
  label : Ident → m Ident

/-- The walker that changes nothing. -/
def Walker.keep {m : Type → Type} [Monad m] : Walker m where
  enter _ := pure ()
  lone := pure
  last := pure
  qualifier := pure
  joined := pure
  relation := pure
  source := pure
  label := pure

variable {m : Type → Type} [Monad m]

/-! ## Dotted identifiers -/

/-- Changes the parts of a dotted identifier: the last one and the ones before it. -/
def mapParts (qualifier last : Ident → m Ident) : List Ident → m (List Ident)
  | [] => pure []
  | [i] => do return [← last i]
  | i :: j :: is => do
    let i ← qualifier i
    return i :: (← mapParts qualifier last (j :: is))

/-! ## The walk -/

mutual

/-- Walks the part of a name; `visit` says what becomes of an identifier. -/
def NamePart.walk (w : Walker m) (visit : Ident → m Ident) : NamePart → m NamePart
  | .ident i => do return .ident (← visit i)
  | .call n args => do return .call n (← walkParts w args)

def walkName (w : Walker m) (visit : Ident → m Ident) : List NamePart → m (List NamePart)
  | [] => pure []
  | p :: ps => do
    let p ← p.walk w visit
    return p :: (← walkName w visit ps)

def walkNames (w : Walker m) : List (List NamePart) → m (List (List NamePart))
  | [] => pure []
  | n :: ns => do
    let n ← walkName w pure n
    return n :: (← walkNames w ns)

def Expr.walk (w : Walker m) : Expr → m Expr
  | .column i => do return .column (← w.lone i)
  | .qualified parts => do return .qualified (← mapParts w.qualifier w.last parts)
  | .form f parts => do return .form f (← walkParts w parts)

def Query.walk (w : Walker m) : Query → m Query
  | .mk ctes body clauses => do
    w.enter body
    let ctes ← ctes.walk w
    let body ← body.walk w
    return .mk ctes body (← walkParts w clauses)

def Body.walk (w : Walker m) : Body → m Body
  | .select s => do return .select (← s.walk w)
  | .query q => do return .query (← q.walk w)
  | .setOperation left operator quantifier right => do
    let left ← left.walk w
    let quantifier ← quantifier.walk w
    return .setOperation left operator quantifier (← right.walk w)
  | .statement s => do return .statement (← s.walk w)
  | .form f parts => do return .form f (← walkParts w parts)

def Select.walk (w : Walker m) : Select → m Select
  | .mk flavor mode head projection middle tables clauses => do
    let head ← walkParts w head
    let projection ← walkItems w w.label projection
    let middle ← walkParts w middle
    let tables ← walkTables w true tables
    return .mk flavor mode head projection middle tables (← walkParts w clauses)

/-- Walks an item of a list of expressions; `label` says what becomes of its alias. -/
def SelectItem.walk (w : Walker m) (label : Ident → m Ident) : SelectItem → m SelectItem
  | .plain e => do return .plain (← e.walk w)
  | .aliased e i => do
    let i ← label i
    return .aliased (← e.walk w) i
  | .form f parts => do return .form f (← walkParts w parts)

def walkItems (w : Walker m) (label : Ident → m Ident) : List SelectItem → m (List SelectItem)
  | [] => pure []
  | i :: is => do
    let i ← i.walk w label
    return i :: (← walkItems w label is)

/-- Walks an alias; `visit` says what becomes of its name. -/
def Alias.walk (w : Walker m) (visit : Ident → m Ident) : Alias → m Alias
  | .absent => pure .absent
  | .named explicit i columns => do
    let i ← visit i
    return .named explicit i (← walkParts w columns)

/-- Walks a source of rows; `inSelect` says whether its USING lists belong to a SELECT block. -/
def TableFactor.walk (w : Walker m) (inSelect : Bool) : TableFactor → m TableFactor
  | .table n a details => do
    let n ← walkName w w.relation n
    let a ← a.walk w w.source
    return .table n a (← walkParts w details)
  | .derived lateral q a => do
    let q ← q.walk w
    return .derived lateral q (← a.walk w w.source)
  | .nested t a => do
    let t ← t.walk w inSelect
    return .nested t (← a.walk w pure)
  | .form f parts => do return .form f (← walkParts w parts)

def TableWithJoins.walk (w : Walker m) (inSelect : Bool) : TableWithJoins → m TableWithJoins
  | .mk relation joins => do
    let relation ← relation.walk w inSelect
    return .mk relation (← walkJoins w inSelect joins)

def walkTables (w : Walker m) (inSelect : Bool) : List TableWithJoins → m (List TableWithJoins)
  | [] => pure []
  | t :: ts => do
    let t ← t.walk w inSelect
    return t :: (← walkTables w inSelect ts)

def Join.walk (w : Walker m) (inSelect : Bool) : Join → m Join
  | .constrained relation global kind c => do
    let relation ← relation.walk w inSelect
    return .constrained relation global kind (← c.walk w inSelect)
  | .asOf relation global condition c => do
    let relation ← relation.walk w inSelect
    let condition ← condition.walk w
    return .asOf relation global condition (← c.walk w inSelect)
  | .apply relation global outer => do return .apply (← relation.walk w inSelect) global outer

def walkJoins (w : Walker m) (inSelect : Bool) : List Join → m (List Join)
  | [] => pure []
  | j :: js => do
    let j ← j.walk w inSelect
    return j :: (← walkJoins w inSelect js)

def JoinConstraint.walk (w : Walker m) (inSelect : Bool) : JoinConstraint → m JoinConstraint
  | .on condition => do return .on (← condition.walk w)
  | .using names => do
    let names ← walkNames w names
    if inSelect then return .using (← mapLastIdents w.joined names) else return .using names
  | .natural => pure .natural
  | .absent => pure .absent

def Target.walk (w : Walker m) : Target → m Target
  | .name n => do return .name (← walkName w pure n)
  | .tuple ns => do return .tuple (← walkNames w ns)

def Assignment.walk (w : Walker m) : Assignment → m Assignment
  | .mk target value => do
    let target ← target.walk w
    return .mk target (← value.walk w)

def walkAssignments (w : Walker m) : List Assignment → m (List Assignment)
  | [] => pure []
  | a :: as => do
    let a ← a.walk w
    return a :: (← walkAssignments w as)

def ConflictTarget.walk (w : Walker m) : ConflictTarget → m ConflictTarget
  | .absent => pure .absent
  | .columns is => pure (.columns is)
  | .constraint n => do return .constraint (← walkName w pure n)

def OnInsert.walk (w : Walker m) : OnInsert → m OnInsert
  | .absent => pure .absent
  | .duplicateKey assignments => do return .duplicateKey (← walkAssignments w assignments)
  | .conflictNothing target => do return .conflictNothing (← target.walk w)
  | .conflictUpdate target assignments condition => do
    let target ← target.walk w
    let assignments ← walkAssignments w assignments
    return .conflictUpdate target assignments (← condition.walk w)

def TableClause.walk (w : Walker m) : TableClause → m TableClause
  | .absent => pure .absent
  | .present role tables => do return .present role (← walkTables w false tables)

def Statement.walk (w : Walker m) : Statement → m Statement
  | .query q => do return .query (← q.walk w)
  | .insert head columns middle on clauses => do
    let head ← walkParts w head
    let middle ← walkParts w middle
    let on ← on.walk w
    return .insert head columns middle on (← walkParts w clauses)
  | .update head table assignments source clauses => do
    let head ← walkParts w head
    let table ← table.walk w false
    let assignments ← walkAssignments w assignments
    let source ← source.walk w
    return .update head table assignments source (← walkParts w clauses)
  | .delete head source others clauses => do
    let head ← walkParts w head
    let source ← source.walk w
    let others ← others.walk w
    return .delete head source others (← walkParts w clauses)
  | .other f parts => do return .other f (← walkParts w parts)

def Part.walk (w : Walker m) : Part → m Part
  | .absent => pure .absent
  | .flag b => pure (.flag b)
  | .number n => pure (.number n)
  | .text s => pure (.text s)
  | .choice n s => pure (.choice n s)
  | .value v => pure (.value v)
  | .token t => pure (.token t)
  | .span s => pure (.span s)
  | .ident i => pure (.ident i)
  | .name n => do return .name (← walkName w pure n)
  | .relation n => do return .relation (← walkName w w.relation n)
  | .expr e => do return .expr (← e.walk w)
  | .query q => do return .query (← q.walk w)
  | .item i => do return .item (← i.walk w pure)
  | .factor f => do return .factor (← f.walk w false)
  | .tables t => do return .tables (← t.walk w false)
  | .join j => do return .join (← j.walk w false)
  | .assignment a => do return .assignment (← a.walk w)
  | .label a => do return .label (← a.walk w pure)
  | .statement s => do return .statement (← s.walk w)
  | .list ps => do return .list (← walkParts w ps)
  | .node f ps => do return .node f (← walkParts w ps)

def walkParts (w : Walker m) : List Part → m (List Part)
  | [] => pure []
  | p :: ps => do
    let p ← p.walk w
    return p :: (← walkParts w ps)

end

end ColumnMask.Sql
