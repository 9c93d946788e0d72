-- What a walk of a tree meets, as a list. Extraction and rewriting are two walks of
-- their own; both are measured against this one list, so they name the same columns in
-- the same order.
import ColumnMask.Extract

namespace ColumnMask.Sql

/-! ## Visits -/

/-- One thing that a walk meets. USING columns are met where their query is entered. -/
inductive Visit where
  /-- A query with this body is entered. -/
  | enter (body : Body)
  /-- An expression that is a lone identifier. -/
  | lone (i : Ident)
  /-- The last part of a dotted identifier. -/
  | last (i : Ident)
  /-- Any earlier part of a dotted identifier. -/
  | qualifier (i : Ident)
  /-- A part of the name of a relation. -/
  | relation (i : Ident)
  /-- The name given to a table or to a subquery in a list of tables. -/
  | source (i : Ident)
  /-- The name given to an item of a projection. -/
  | label (i : Ident)
  /-- A statement below another one. -/
  | inner (s : Statement)

/-- The column sites at a visit. -/
def Visit.sites : Visit → List Ident
  | .enter body => body.usingColumns
  | .lone i => if i.isDefault then [] else [i]
  | .last i => [i]
  | _ => []

/-- Nothing is met at an identifier of a plain name. -/
def unmet (_ : Ident) : List Visit := []

def atRelation (i : Ident) : List Visit := [.relation i]

def atSource (i : Ident) : List Visit := [.source i]

def atLabel (i : Ident) : List Visit := [.label i]

def visitsOfIdents : List Ident → List Visit
  | [] => []
  | [i] => [.last i]
  | i :: j :: is => .qualifier i :: visitsOfIdents (j :: is)

mutual

/-- The visits of a part of a name; `on` says what is met at an identifier. -/
def NamePart.visits (on : Ident → List Visit) : NamePart → List Visit
  | .ident i => on i
  | .call _ args => visitsOfParts args

def visitsOfName (on : Ident → List Visit) : List NamePart → List Visit
  | [] => []
  | p :: ps => p.visits on ++ visitsOfName on ps

def visitsOfNames : List (List NamePart) → List Visit
  | [] => []
  | n :: ns => visitsOfName unmet n ++ visitsOfNames ns

def Expr.visits : Expr → List Visit
  | .column i => [.lone i]
  | .qualified parts => visitsOfIdents parts
  | .form _ parts => visitsOfParts parts

def Query.visits : Query → List Visit
  | .mk ctes body clauses => .enter body :: (ctes.visits ++ body.visits ++ visitsOfParts clauses)

def Body.visits : Body → List Visit
  | .select s => s.visits
  | .query q => q.visits
  | .setOperation left _ quantifier right => left.visits ++ quantifier.visits ++ right.visits
  | .statement s => .inner s :: s.visits
  | .form _ parts => visitsOfParts parts

def Select.visits : Select → List Visit
  | .mk _ _ head projection middle tables clauses =>
    visitsOfParts head ++ visitsOfItems atLabel projection ++ visitsOfParts middle ++
      visitsOfTables tables ++ visitsOfParts clauses

/-- The visits of an item; `on` says what is met at its alias. -/
def SelectItem.visits (on : Ident → List Visit) : SelectItem → List Visit
  | .plain e => e.visits
  | .aliased e i => on i ++ e.visits
  | .form _ parts => visitsOfParts parts

def visitsOfItems (on : Ident → List Visit) : List SelectItem → List Visit
  | [] => []
  | i :: is => i.visits on ++ visitsOfItems on is

/-- The visits of an alias; `on` says what is met at its name. -/
def Alias.visits (on : Ident → List Visit) : Alias → List Visit
  | .absent => []
  | .named _ i columns => on i ++ visitsOfParts columns

def TableFactor.visits : TableFactor → List Visit
  | .table n a details =>
    visitsOfName atRelation n ++ a.visits atSource ++
      visitsOfParts details
  | .derived _ q a => q.visits ++ a.visits atSource
  | .nested t a => t.visits ++ a.visits unmet
  | .form _ parts => visitsOfParts parts

def TableWithJoins.visits : TableWithJoins → List Visit
  | .mk relation joins => relation.visits ++ visitsOfJoins joins

def visitsOfTables : List TableWithJoins → List Visit
  | [] => []
  | t :: ts => t.visits ++ visitsOfTables ts

def Join.visits : Join → List Visit
  | .constrained relation _ _ c => relation.visits ++ c.visits
  | .asOf relation _ condition c => relation.visits ++ condition.visits ++ c.visits
  | .apply relation _ _ => relation.visits

def visitsOfJoins : List Join → List Visit
  | [] => []
  | j :: js => j.visits ++ visitsOfJoins js

def JoinConstraint.visits : JoinConstraint → List Visit
  | .on condition => condition.visits
  | .using names => visitsOfNames names
  | .natural => []
  | .absent => []

def Target.visits : Target → List Visit
  | .name n => visitsOfName unmet n
  | .tuple ns => visitsOfNames ns

def Assignment.visits : Assignment → List Visit
  | .mk target value => target.visits ++ value.visits

def visitsOfAssignments : List Assignment → List Visit
  | [] => []
  | a :: as => a.visits ++ visitsOfAssignments as

def ConflictTarget.visits : ConflictTarget → List Visit
  | .absent => []
  | .columns _ => []
  | .constraint n => visitsOfName unmet n

def OnInsert.visits : OnInsert → List Visit
  | .absent => []
  | .duplicateKey assignments => visitsOfAssignments assignments
  | .conflictNothing target => target.visits
  | .conflictUpdate target assignments condition =>
    target.visits ++ visitsOfAssignments assignments ++ condition.visits

def TableClause.visits : TableClause → List Visit
  | .absent => []
  | .present _ tables => visitsOfTables tables

def Statement.visits : Statement → List Visit
  | .query q => q.visits
  | .insert head _ middle on clauses =>
    visitsOfParts head ++ visitsOfParts middle ++ on.visits ++ visitsOfParts clauses
  | .update head table assignments source clauses =>
    visitsOfParts head ++ table.visits ++ visitsOfAssignments assignments ++ source.visits ++
      visitsOfParts clauses
  | .delete head source others clauses =>
    visitsOfParts head ++ source.visits ++ others.visits ++ visitsOfParts clauses
  | .other _ parts => visitsOfParts parts

def Part.visits : Part → List Visit
  | .absent => []
  | .flag _ => []
  | .number _ => []
  | .text _ => []
  | .choice _ _ => []
  | .value _ => []
  | .token _ => []
  | .span _ => []
  | .ident _ => []
  | .name n => visitsOfName unmet n
  | .relation n => visitsOfName atRelation n
  | .expr e => e.visits
  | .query q => q.visits
  | .item i => i.visits unmet
  | .factor f => f.visits
  | .tables t => t.visits
  | .join j => j.visits
  | .assignment a => a.visits
  | .label a => a.visits unmet
  | .statement s => .inner s :: s.visits
  | .list ps => visitsOfParts ps
  | .node _ ps => visitsOfParts ps

def visitsOfParts : List Part → List Visit
  | [] => []
  | p :: ps => p.visits ++ visitsOfParts ps

end

/-! ## The columns at the visits -/

/-- The names of the columns at the visits of a list. -/
def namesAt (vs : List Visit) : List String := (vs.flatMap Visit.sites).map Ident.value

@[simp]
theorem namesAt_nil : namesAt [] = [] := rfl

@[simp]
theorem namesAt_cons (v : Visit) (vs : List Visit) :
    namesAt (v :: vs) = v.sites.map Ident.value ++ namesAt vs := by
  simp [namesAt]

@[simp]
theorem namesAt_append (vs ws : List Visit) : namesAt (vs ++ ws) = namesAt vs ++ namesAt ws := by
  simp [namesAt]

theorem namesAt_idents (is : List Ident) :
    namesAt (visitsOfIdents is) = (is.getLast?.map Ident.value).toList := by
  induction is with
  | nil => rfl
  | cons i is ih =>
    cases is with
    | nil => rfl
    | cons j js =>
      simp only [visitsOfIdents, namesAt_cons, ih, List.getLast?_cons_cons]
      rfl

/-! ## Extraction meets the visits -/

/-- No column is met at an identifier. -/
def Siteless (on : Ident → List Visit) : Prop := ∀ i, namesAt (on i) = []

theorem siteless_unmet : Siteless unmet := fun _ => rfl

theorem siteless_relation : Siteless atRelation := fun _ => rfl

theorem siteless_source : Siteless atSource := fun _ => rfl

theorem siteless_label : Siteless atLabel := fun _ => rfl

mutual

theorem NamePart.columns_eq {on : Ident → List Visit} (h : Siteless on) :
    ∀ p : NamePart, p.columns = namesAt (p.visits on)
  | .ident i => by simp [NamePart.columns, NamePart.visits, h i]
  | .call _ args => by simp [NamePart.columns, NamePart.visits, columnsOfParts_eq args]

theorem columnsOfName_eq {on : Ident → List Visit} (h : Siteless on) :
    ∀ n, columnsOfName n = namesAt (visitsOfName on n)
  | [] => rfl
  | p :: ps => by
    simp [columnsOfName, visitsOfName, p.columns_eq h, columnsOfName_eq h ps]

theorem columnsOfNames_eq : ∀ ns, columnsOfNames ns = namesAt (visitsOfNames ns)
  | [] => rfl
  | n :: ns => by
    simp [columnsOfNames, visitsOfNames, columnsOfName_eq siteless_unmet n, columnsOfNames_eq ns]

theorem Expr.columns_eq : ∀ e : Expr, e.columns = namesAt e.visits
  | .column i => by
    simp only [Expr.columns, Expr.visits, namesAt_cons, namesAt_nil, Visit.sites]
    split <;> rfl
  | .qualified parts => by simp [Expr.columns, Expr.visits, namesAt_idents]
  | .form _ parts => by simp [Expr.columns, Expr.visits, columnsOfParts_eq parts]

theorem Query.columns_eq : ∀ q : Query, q.columns = namesAt q.visits
  | .mk ctes body clauses => by
    simp [Query.columns, Query.visits, Visit.sites, ctes.columns_eq, body.columns_eq,
      columnsOfParts_eq clauses]

theorem Body.columns_eq : ∀ b : Body, b.columns = namesAt b.visits
  | .select s => by simp [Body.columns, Body.visits, s.columns_eq]
  | .query q => by simp [Body.columns, Body.visits, q.columns_eq]
  | .setOperation left _ quantifier right => by
    simp [Body.columns, Body.visits, left.columns_eq, quantifier.columns_eq, right.columns_eq]
  | .statement s => by simp [Body.columns, Body.visits, Visit.sites, s.columns_eq]
  | .form _ parts => by simp [Body.columns, Body.visits, columnsOfParts_eq parts]

theorem Select.columns_eq : ∀ s : Select, s.columns = namesAt s.visits
  | .mk _ _ head projection middle tables clauses => by
    simp [Select.columns, Select.visits, columnsOfParts_eq head,
      columnsOfItems_eq siteless_label projection, columnsOfParts_eq middle,
      columnsOfTables_eq tables, columnsOfParts_eq clauses]

theorem SelectItem.columns_eq {on : Ident → List Visit} (h : Siteless on) :
    ∀ i : SelectItem, i.columns = namesAt (i.visits on)
  | .plain e => by simp [SelectItem.columns, SelectItem.visits, e.columns_eq]
  | .aliased e i => by simp [SelectItem.columns, SelectItem.visits, h i, e.columns_eq]
  | .form _ parts => by simp [SelectItem.columns, SelectItem.visits, columnsOfParts_eq parts]

theorem columnsOfItems_eq {on : Ident → List Visit} (h : Siteless on) :
    ∀ is, columnsOfItems is = namesAt (visitsOfItems on is)
  | [] => rfl
  | i :: is => by
    simp [columnsOfItems, visitsOfItems, i.columns_eq h, columnsOfItems_eq h is]

theorem Alias.columns_eq {on : Ident → List Visit} (h : Siteless on) :
    ∀ a : Alias, a.columns = namesAt (a.visits on)
  | .absent => rfl
  | .named _ i columns => by simp [Alias.columns, Alias.visits, h i, columnsOfParts_eq columns]

theorem TableFactor.columns_eq : ∀ f : TableFactor, f.columns = namesAt f.visits
  | .table n a details => by
    simp [TableFactor.columns, TableFactor.visits, columnsOfName_eq siteless_relation n,
      a.columns_eq siteless_source, columnsOfParts_eq details]
  | .derived _ q a => by
    simp [TableFactor.columns, TableFactor.visits, q.columns_eq, a.columns_eq siteless_source]
  | .nested t a => by
    simp [TableFactor.columns, TableFactor.visits, t.columns_eq, a.columns_eq siteless_unmet]
  | .form _ parts => by simp [TableFactor.columns, TableFactor.visits, columnsOfParts_eq parts]

theorem TableWithJoins.columns_eq : ∀ t : TableWithJoins, t.columns = namesAt t.visits
  | .mk relation joins => by
    simp [TableWithJoins.columns, TableWithJoins.visits, relation.columns_eq,
      columnsOfJoins_eq joins]

theorem columnsOfTables_eq : ∀ ts, columnsOfTables ts = namesAt (visitsOfTables ts)
  | [] => rfl
  | t :: ts => by
    simp [columnsOfTables, visitsOfTables, t.columns_eq, columnsOfTables_eq ts]

theorem Join.columns_eq : ∀ j : Join, j.columns = namesAt j.visits
  | .constrained relation _ _ c => by
    simp [Join.columns, Join.visits, relation.columns_eq, c.columns_eq]
  | .asOf relation _ condition c => by
    simp [Join.columns, Join.visits, relation.columns_eq, condition.columns_eq, c.columns_eq]
  | .apply relation _ _ => by simp [Join.columns, Join.visits, relation.columns_eq]

theorem columnsOfJoins_eq : ∀ js, columnsOfJoins js = namesAt (visitsOfJoins js)
  | [] => rfl
  | j :: js => by simp [columnsOfJoins, visitsOfJoins, j.columns_eq, columnsOfJoins_eq js]

theorem JoinConstraint.columns_eq : ∀ c : JoinConstraint, c.columns = namesAt c.visits
  | .on condition => by simp [JoinConstraint.columns, JoinConstraint.visits, condition.columns_eq]
  | .using names => by
    simp [JoinConstraint.columns, JoinConstraint.visits, columnsOfNames_eq names]
  | .natural => rfl
  | .absent => rfl

theorem Target.inner_eq : ∀ t : Target, t.inner = namesAt t.visits
  | .name n => by simp [Target.inner, Target.visits, columnsOfName_eq siteless_unmet n]
  | .tuple ns => by simp [Target.inner, Target.visits, columnsOfNames_eq ns]

theorem Assignment.columns_eq : ∀ a : Assignment, a.columns = namesAt a.visits
  | .mk target value => by
    simp [Assignment.columns, Assignment.visits, target.inner_eq, value.columns_eq]

theorem columnsOfAssignments_eq :
    ∀ as, columnsOfAssignments as = namesAt (visitsOfAssignments as)
  | [] => rfl
  | a :: as => by
    simp [columnsOfAssignments, visitsOfAssignments, a.columns_eq, columnsOfAssignments_eq as]

theorem ConflictTarget.inner_eq : ∀ t : ConflictTarget, t.inner = namesAt t.visits
  | .absent => rfl
  | .columns _ => rfl
  | .constraint n => by
    simp [ConflictTarget.inner, ConflictTarget.visits, columnsOfName_eq siteless_unmet n]

theorem OnInsert.columns_eq : ∀ o : OnInsert, o.columns = namesAt o.visits
  | .absent => rfl
  | .duplicateKey assignments => by
    simp [OnInsert.columns, OnInsert.visits, columnsOfAssignments_eq assignments]
  | .conflictNothing target => by simp [OnInsert.columns, OnInsert.visits, target.inner_eq]
  | .conflictUpdate target assignments condition => by
    simp [OnInsert.columns, OnInsert.visits, target.inner_eq, columnsOfAssignments_eq assignments,
      condition.columns_eq]

theorem TableClause.columns_eq : ∀ c : TableClause, c.columns = namesAt c.visits
  | .absent => rfl
  | .present _ tables => by
    simp [TableClause.columns, TableClause.visits, columnsOfTables_eq tables]

theorem Statement.columns_eq : ∀ s : Statement, s.columns = namesAt s.visits
  | .query q => by simp [Statement.columns, Statement.visits, q.columns_eq]
  | .insert head _ middle on clauses => by
    simp [Statement.columns, Statement.visits, columnsOfParts_eq head, columnsOfParts_eq middle,
      on.columns_eq, columnsOfParts_eq clauses]
  | .update head table assignments source clauses => by
    simp [Statement.columns, Statement.visits, columnsOfParts_eq head, table.columns_eq,
      columnsOfAssignments_eq assignments, source.columns_eq, columnsOfParts_eq clauses]
  | .delete head source others clauses => by
    simp [Statement.columns, Statement.visits, columnsOfParts_eq head, source.columns_eq,
      others.columns_eq, columnsOfParts_eq clauses]
  | .other _ parts => by simp [Statement.columns, Statement.visits, columnsOfParts_eq parts]

theorem Part.columns_eq : ∀ p : Part, p.columns = namesAt p.visits
  | .absent => rfl
  | .flag _ => rfl
  | .number _ => rfl
  | .text _ => rfl
  | .choice _ _ => rfl
  | .value _ => rfl
  | .token _ => rfl
  | .span _ => rfl
  | .ident _ => rfl
  | .name n => by simp [Part.columns, Part.visits, columnsOfName_eq siteless_unmet n]
  | .relation n => by simp [Part.columns, Part.visits, columnsOfName_eq siteless_relation n]
  | .expr e => by simp [Part.columns, Part.visits, e.columns_eq]
  | .query q => by simp [Part.columns, Part.visits, q.columns_eq]
  | .item i => by simp [Part.columns, Part.visits, i.columns_eq siteless_unmet]
  | .factor f => by simp [Part.columns, Part.visits, f.columns_eq]
  | .tables t => by simp [Part.columns, Part.visits, t.columns_eq]
  | .join j => by simp [Part.columns, Part.visits, j.columns_eq]
  | .assignment a => by simp [Part.columns, Part.visits, a.columns_eq]
  | .label a => by simp [Part.columns, Part.visits, a.columns_eq siteless_unmet]
  | .statement s => by simp [Part.columns, Part.visits, Visit.sites, s.columns_eq]
  | .list ps => by simp [Part.columns, Part.visits, columnsOfParts_eq ps]
  | .node _ ps => by simp [Part.columns, Part.visits, columnsOfParts_eq ps]

theorem columnsOfParts_eq : ∀ ps, columnsOfParts ps = namesAt (visitsOfParts ps)
  | [] => rfl
  | p :: ps => by simp [columnsOfParts, visitsOfParts, p.columns_eq, columnsOfParts_eq ps]

end

/-! ## The sites of a statement -/

/-- The identifiers at the column sites of a statement: the target lists, then the visits. -/
def Statement.siteIdents (s : Statement) : List Ident := s.targets ++ s.visits.flatMap Visit.sites

theorem Statement.sites_eq (s : Statement) : s.sites = s.siteIdents.map Ident.value := by
  unfold Statement.sites Statement.siteIdents
  rw [s.columns_eq, List.map_append]
  rfl

end ColumnMask.Sql
