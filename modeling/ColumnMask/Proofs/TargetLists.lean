-- The target lists of a statement: the columns that an INSERT or an UPDATE sets, and the
-- USING lists of the tables that a statement changes. A change of them fails at the first
-- of them at which it fails, and the walk that comes after meets what it met before.
import ColumnMask.Proofs.Settled

namespace ColumnMask.Sql

variable {ε : Type}

/-! ## A change that may fail -/

section

variable (f : Ident → Except ε Ident)

mutual

theorem TableWithJoins.mapUsing_eq : ∀ t : TableWithJoins,
    t.mapUsing f = do t.usingColumns.forM (tested f); return (t.mapUsing (sure f)).run
  | .mk relation joins => by
    simp [TableWithJoins.mapUsing, TableWithJoins.usingColumns, relation.mapNested_eq,
      mapJoinsUsing_eq joins]

theorem TableFactor.mapNested_eq : ∀ t : TableFactor,
    t.mapNested f = do t.nestedColumns.forM (tested f); return (t.mapNested (sure f)).run
  | .table n a details => by simp [TableFactor.mapNested, TableFactor.nestedColumns]
  | .derived lateral q a => by simp [TableFactor.mapNested, TableFactor.nestedColumns]
  | .nested t a => by
    simp [TableFactor.mapNested, TableFactor.nestedColumns, t.mapUsing_eq]
  | .form form parts => by simp [TableFactor.mapNested, TableFactor.nestedColumns]

theorem mapJoinsUsing_eq : ∀ js, mapJoinsUsing f js =
    do (joinsUsingColumns js).forM (tested f); return (mapJoinsUsing (sure f) js).run
  | [] => by simp [mapJoinsUsing, joinsUsingColumns]
  | j :: js => by simp [mapJoinsUsing, joinsUsingColumns, j.mapUsing_eq, mapJoinsUsing_eq js]

theorem Join.mapUsing_eq : ∀ j : Join,
    j.mapUsing f = do j.usingColumns.forM (tested f); return (j.mapUsing (sure f)).run
  | .constrained relation global kind c => by
    simp [Join.mapUsing, Join.usingColumns, relation.mapNested_eq, c.mapUsing_eq]
  | .asOf relation global condition c => by
    simp [Join.mapUsing, Join.usingColumns, relation.mapNested_eq, c.mapUsing_eq]
  | .apply relation global outer => by
    simp [Join.mapUsing, Join.usingColumns, relation.mapNested_eq]

theorem JoinConstraint.mapUsing_eq : ∀ c : JoinConstraint,
    c.mapUsing f = do c.usingColumns.forM (tested f); return (c.mapUsing (sure f)).run
  | .on condition => by simp [JoinConstraint.mapUsing, JoinConstraint.usingColumns]
  | .using names => by
    simp [JoinConstraint.mapUsing, JoinConstraint.usingColumns, mapLastIdents_eq f names]
  | .natural => by simp [JoinConstraint.mapUsing, JoinConstraint.usingColumns]
  | .absent => by simp [JoinConstraint.mapUsing, JoinConstraint.usingColumns]

end

theorem Target.mapColumns_eq (t : Target) :
    t.mapColumns f = do t.columns.forM (tested f); return (t.mapColumns (sure f)).run := by
  cases t with
  | name n => simp [Target.mapColumns, Target.columns, mapLastIdent_eq f n]
  | tuple ns => simp [Target.mapColumns, Target.columns, mapLastIdents_eq f ns]

theorem Assignment.mapTarget_eq (a : Assignment) :
    a.mapTarget f = do a.target.columns.forM (tested f); return (a.mapTarget (sure f)).run := by
  cases a with
  | mk target value => simp [Assignment.mapTarget, Assignment.target, target.mapColumns_eq f]

theorem mapAssigned_eq (as : List Assignment) :
    mapAssigned f as =
      do (assignedColumns as).forM (tested f); return (mapAssigned (sure f) as).run :=
  mapEach_eq (Assignment.mapTarget_eq f) as

theorem mapIdents_eq (is : List Ident) :
    mapEach f is = do is.forM (tested f); return (mapEach (sure f) is).run := by
  induction is with
  | nil => rfl
  | cons i is ih =>
    rw [mapEach, eq_tested f i, ih]
    simp [mapEach]

theorem ConflictTarget.mapTargets_eq (t : ConflictTarget) :
    t.mapTargets f = do t.targets.forM (tested f); return (t.mapTargets (sure f)).run := by
  cases t with
  | absent => simp [ConflictTarget.mapTargets, ConflictTarget.targets]
  | columns is => simp [ConflictTarget.mapTargets, ConflictTarget.targets, mapIdents_eq f is]
  | constraint n => simp [ConflictTarget.mapTargets, ConflictTarget.targets]

theorem OnInsert.mapTargets_eq (o : OnInsert) :
    o.mapTargets f = do o.targets.forM (tested f); return (o.mapTargets (sure f)).run := by
  cases o with
  | absent => simp [OnInsert.mapTargets, OnInsert.targets]
  | duplicateKey assignments =>
    simp [OnInsert.mapTargets, OnInsert.targets, mapAssigned_eq f assignments]
  | conflictNothing target =>
    simp [OnInsert.mapTargets, OnInsert.targets, target.mapTargets_eq f]
  | conflictUpdate target assignments condition =>
    simp [OnInsert.mapTargets, OnInsert.targets, target.mapTargets_eq f,
      mapAssigned_eq f assignments]

theorem TableClause.mapUsing_eq (c : TableClause) :
    c.mapUsing f = do c.usingColumns.forM (tested f); return (c.mapUsing (sure f)).run := by
  cases c with
  | absent => simp [TableClause.mapUsing, TableClause.usingColumns]
  | present role tables =>
    simp [TableClause.mapUsing, TableClause.usingColumns,
      mapEach_eq (TableWithJoins.mapUsing_eq f) tables]

/-- The targets of a statement are changed, or the first one fails at which the change fails. -/
theorem Statement.mapTargets_eq (s : Statement) :
    s.mapTargets f = do s.targets.forM (tested f); return (s.mapTargets (sure f)).run := by
  cases s with
  | query q => simp [Statement.mapTargets, Statement.targets]
  | insert head columns middle on clauses =>
    simp [Statement.mapTargets, Statement.targets, mapIdents_eq f columns, on.mapTargets_eq f]
  | update head table assignments source clauses =>
    simp [Statement.mapTargets, Statement.targets, mapAssigned_eq f assignments,
      table.mapUsing_eq f, source.mapUsing_eq f]
  | delete head source others clauses =>
    simp [Statement.mapTargets, Statement.targets, source.mapUsing_eq f, others.mapUsing_eq f]
  | other form parts => simp [Statement.mapTargets, Statement.targets]

end

/-! ## What the walk meets after the change -/

section

variable (f : Ident → Id Ident)

theorem visits_mapLastIdent : ∀ n : ObjectName,
    visitsOfName unmet (mapLastIdent f n).run = visitsOfName unmet n
  | [] => rfl
  | [.ident i] => rfl
  | [.call n args] => rfl
  | p :: q :: ps => by
    simp only [mapLastIdent, Id.run_bind, Id.run_pure, visitsOfName,
      visits_mapLastIdent (q :: ps)]

theorem visits_mapLastIdents (ns : List ObjectName) :
    visitsOfNames (mapLastIdents f ns).run = visitsOfNames ns := by
  induction ns with
  | nil => rfl
  | cons n ns ih =>
    simp only [mapLastIdents, Id.run_bind, Id.run_pure, visitsOfNames, visits_mapLastIdent, ih]

mutual

theorem TableWithJoins.visits_mapUsing : ∀ t : TableWithJoins,
    (t.mapUsing f).run.visits = t.visits
  | .mk relation joins => by
    simp [TableWithJoins.mapUsing, TableWithJoins.visits, relation.visits_mapNested,
      visits_mapJoinsUsing joins]

theorem TableFactor.visits_mapNested : ∀ t : TableFactor, (t.mapNested f).run.visits = t.visits
  | .table n a details => rfl
  | .derived lateral q a => rfl
  | .nested t a => by simp [TableFactor.mapNested, TableFactor.visits, t.visits_mapUsing]
  | .form form parts => rfl

theorem visits_mapJoinsUsing : ∀ js, visitsOfJoins (mapJoinsUsing f js).run = visitsOfJoins js
  | [] => rfl
  | j :: js => by
    simp [mapJoinsUsing, visitsOfJoins, j.visits_mapUsing, visits_mapJoinsUsing js]

theorem Join.visits_mapUsing : ∀ j : Join, (j.mapUsing f).run.visits = j.visits
  | .constrained relation global kind c => by
    simp [Join.mapUsing, Join.visits, relation.visits_mapNested, c.visits_mapUsing]
  | .asOf relation global condition c => by
    simp [Join.mapUsing, Join.visits, relation.visits_mapNested, c.visits_mapUsing]
  | .apply relation global outer => by
    simp [Join.mapUsing, Join.visits, relation.visits_mapNested]

theorem JoinConstraint.visits_mapUsing : ∀ c : JoinConstraint,
    (c.mapUsing f).run.visits = c.visits
  | .on condition => rfl
  | .using names => by
    simp [JoinConstraint.mapUsing, JoinConstraint.visits, visits_mapLastIdents f names]
  | .natural => rfl
  | .absent => rfl

end

theorem Target.visits_mapColumns (t : Target) : (t.mapColumns f).run.visits = t.visits := by
  cases t with
  | name n => simp [Target.mapColumns, Target.visits, visits_mapLastIdent f n]
  | tuple ns => simp [Target.mapColumns, Target.visits, visits_mapLastIdents f ns]

theorem visits_mapAssigned (as : List Assignment) :
    visitsOfAssignments (mapAssigned f as).run = visitsOfAssignments as := by
  induction as with
  | nil => rfl
  | cons a as ih =>
    unfold mapAssigned at ih ⊢
    cases a with
    | mk target value =>
      simp [mapEach, Assignment.mapTarget, visitsOfAssignments, Assignment.visits, ih,
        target.visits_mapColumns f]

theorem ConflictTarget.visits_mapTargets (t : ConflictTarget) :
    (t.mapTargets f).run.visits = t.visits := by
  cases t <;> rfl

theorem OnInsert.visits_mapTargets (o : OnInsert) : (o.mapTargets f).run.visits = o.visits := by
  cases o with
  | absent => rfl
  | duplicateKey assignments =>
    simp [OnInsert.mapTargets, OnInsert.visits, visits_mapAssigned f assignments]
  | conflictNothing target =>
    simp [OnInsert.mapTargets, OnInsert.visits, target.visits_mapTargets f]
  | conflictUpdate target assignments condition =>
    simp [OnInsert.mapTargets, OnInsert.visits, target.visits_mapTargets f,
      visits_mapAssigned f assignments]

theorem visits_mapTables (ts : List TableWithJoins) :
    visitsOfTables (mapEach (TableWithJoins.mapUsing f) ts).run = visitsOfTables ts := by
  induction ts with
  | nil => rfl
  | cons t ts ih => simp [mapEach, visitsOfTables, ih, t.visits_mapUsing f]

theorem TableClause.visits_mapUsing (c : TableClause) : (c.mapUsing f).run.visits = c.visits := by
  cases c with
  | absent => rfl
  | present role tables =>
    simp [TableClause.mapUsing, TableClause.visits, visits_mapTables f tables]

/-- A change of the targets of a statement changes nothing that the walk meets. -/
theorem Statement.visits_mapTargets (s : Statement) : (s.mapTargets f).run.visits = s.visits := by
  cases s with
  | query q => rfl
  | insert head columns middle on clauses =>
    simp [Statement.mapTargets, Statement.visits, on.visits_mapTargets f]
  | update head table assignments source clauses =>
    simp [Statement.mapTargets, Statement.visits, table.visits_mapUsing f,
      visits_mapAssigned f assignments, source.visits_mapUsing f]
  | delete head source others clauses =>
    simp [Statement.mapTargets, Statement.visits, source.visits_mapUsing f,
      others.visits_mapUsing f]
  | other form parts => rfl

end

end ColumnMask.Sql
