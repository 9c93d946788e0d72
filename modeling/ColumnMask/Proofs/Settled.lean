-- A walk that may fail, such as the renaming of columns, against the walk that never
-- fails. The failing walk stops at the first visit whose test fails; if there is none, it
-- gives what the settled walk gives.
import ColumnMask.Proofs.Visits
import ColumnMask.Sql.Walk

set_option linter.unusedSectionVars false

namespace ColumnMask.Sql

variable {ε : Type}

/-! ## Changes of one identifier -/

/-- What a change makes of an identifier; it stays as it is where the change fails. -/
def settled (f : Ident → Except ε Ident) (i : Ident) : Ident := (f i).toOption.getD i

/-- Whether a change fails. -/
def tested (f : Ident → Except ε Ident) (i : Ident) : Except ε Unit := do
  let _ ← f i

/-- The settled change as one that cannot fail. -/
def sure (f : Ident → Except ε Ident) (i : Ident) : Id Ident := pure (settled f i)

theorem eq_tested (f : Ident → Except ε Ident) (i : Ident) :
    f i = do tested f i; return (sure f i).run := by
  unfold tested sure settled
  rcases f i with e | j <;> rfl

/-! ## Target lists and USING lists -/

theorem mapEach_eq {α : Type} {f : α → Except ε α} {g : α → Id α} {on : α → List Ident}
    {test : Ident → Except ε Unit} (h : ∀ a, f a = do (on a).forM test; return (g a).run)
    (as : List α) :
    mapEach f as = do (as.flatMap on).forM test; return (mapEach g as).run := by
  induction as with
  | nil => rfl
  | cons a as ih =>
    simp only [mapEach, h a, ih, List.flatMap_cons]
    simp

theorem mapLastIdent_eq (f : Ident → Except ε Ident) : ∀ n, mapLastIdent f n =
    do (lastIdent n).toList.forM (tested f)
       return (mapLastIdent (sure f) n).run
  | [] => rfl
  | [.ident i] => by
    rw [mapLastIdent, eq_tested f i]
    simp [mapLastIdent, lastIdent]
  | [.call n args] => rfl
  | p :: q :: ps => by
    simp only [mapLastIdent, lastIdent, mapLastIdent_eq f (q :: ps)]
    simp

theorem mapLastIdents_eq (f : Ident → Except ε Ident) (ns : List ObjectName) : mapLastIdents f ns =
    do (ns.filterMap lastIdent).forM (tested f)
       return (mapLastIdents (sure f) ns).run := by
  induction ns with
  | nil => rfl
  | cons n ns ih =>
    simp only [mapLastIdents, mapLastIdent_eq f n, ih]
    rcases h : lastIdent n with _ | i <;> simp [h]

/-! ## Walkers that may fail -/

namespace Walker

/-- The walker that does what another one does where that succeeds. -/
def settled (w : Walker (Except ε)) : Walker Id where
  enter _ := pure ()
  lone := sure w.lone
  last := sure w.last
  qualifier := sure w.qualifier
  joined := sure w.joined
  relation := sure w.relation
  source := sure w.source
  label := sure w.label

/-- Whether a walker fails at a visit. -/
def test (w : Walker (Except ε)) : Visit → Except ε Unit
  | .enter body => w.enter body
  | .lone i => tested w.lone i
  | .last i => tested w.last i
  | .qualifier i => tested w.qualifier i
  | .relation i => tested w.relation i
  | .source i => tested w.source i
  | .label i => tested w.label i
  | .inner _ => pure ()

/-- The walker fails at none of the columns of USING lists. -/
def Joins (w : Walker (Except ε)) (is : List Ident) : Prop :=
  ∀ i ∈ is, tested w.joined i = .ok ()

/-- A query is only entered if the walker fails at none of its USING columns. -/
def Guards (w : Walker (Except ε)) : Prop :=
  ∀ body, w.enter body = .ok () → w.Joins body.usingColumns

/-- A change fails as the visits `on` do, and gives what `done` gives. -/
def Meets (w : Walker (Except ε)) (change : Ident → Except ε Ident) (on : Ident → List Visit)
    (done : Ident → Id Ident) : Prop :=
  ∀ i, change i = do (on i).forM w.test; return (done i).run

variable {w : Walker (Except ε)}

theorem Joins.left {is js : List Ident} (h : w.Joins (is ++ js)) : w.Joins is :=
  fun i hi => h i (List.mem_append_left js hi)

theorem Joins.right {is js : List Ident} (h : w.Joins (is ++ js)) : w.Joins js :=
  fun i hi => h i (List.mem_append_right is hi)

theorem Joins.forM {is : List Ident} (h : w.Joins is) :
    is.forM (tested w.joined) = .ok () := by
  induction is with
  | nil => rfl
  | cons i is ih =>
    simp only [List.forM, h i (List.mem_cons_self ..)]
    exact ih fun j hj => h j (List.mem_cons_of_mem i hj)

theorem meets_unmet : w.Meets pure unmet pure := fun _ => rfl

theorem meets_relation : w.Meets w.relation atRelation w.settled.relation := by
  intro i
  rw [eq_tested w.relation i]
  simp [atRelation, test, settled]

theorem meets_source : w.Meets w.source atSource w.settled.source := by
  intro i
  rw [eq_tested w.source i]
  simp [atSource, test, settled]

theorem meets_label : w.Meets w.label atLabel w.settled.label := by
  intro i
  rw [eq_tested w.label i]
  simp [atLabel, test, settled]

end Walker

theorem mapParts_eq (w : Walker (Except ε)) : ∀ is, mapParts w.qualifier w.last is =
    do (visitsOfIdents is).forM w.test
       return (mapParts w.settled.qualifier w.settled.last is).run
  | [] => rfl
  | [i] => by
    rw [mapParts, eq_tested w.last i]
    simp [mapParts, visitsOfIdents, Walker.test, Walker.settled]
  | i :: j :: is => by
    rw [mapParts, eq_tested w.qualifier i, mapParts_eq w (j :: is)]
    simp [mapParts, visitsOfIdents, Walker.test, Walker.settled]

/-! ## A walk leaves the last parts of plain names alone -/

theorem lastIdent_walkName (w : Walker Id) : ∀ n : ObjectName,
    lastIdent (walkName w pure n).run = lastIdent n
  | [] => rfl
  | [.ident i] => rfl
  | [.call n args] => rfl
  | p :: q :: ps => by
    have h := lastIdent_walkName w (q :: ps)
    simp only [walkName, Id.run_bind, Id.run_pure, lastIdent] at h ⊢
    exact h

theorem lastIdent_walkNames (w : Walker Id) (ns : List ObjectName) :
    (walkNames w ns).run.filterMap lastIdent = ns.filterMap lastIdent := by
  induction ns with
  | nil => rfl
  | cons n ns ih =>
    simp only [walkNames, Id.run_bind, Id.run_pure, List.filterMap_cons, lastIdent_walkName, ih]

theorem Body.usingColumns_select (s : Select) :
    (Body.select s).usingColumns = s.tables.flatMap TableWithJoins.usingColumns := by
  simp [Body.usingColumns, Body.selects]

theorem Body.usingColumns_setOperation (left right : Body) (operator : SetOperator)
    (quantifier : Part) : (Body.setOperation left operator quantifier right).usingColumns =
      left.usingColumns ++ right.usingColumns := by
  simp [Body.usingColumns, Body.selects]

/-! ## The outcome of a walk -/

section

variable {w : Walker (Except ε)} (hw : w.Guards)
include hw

-- The guard is what makes the induction go through: a USING list in a SELECT block is
-- changed only when the walk gets there, but its query was entered before.
mutual

theorem NamePart.walk_eq {change : Ident → Except ε Ident} {on : Ident → List Visit}
    {done : Ident → Id Ident} (h : w.Meets change on done) : ∀ p : NamePart,
    p.walk w change = do (p.visits on).forM w.test; return (p.walk w.settled done).run
  | .ident i => by simp [NamePart.walk, NamePart.visits, h i]
  | .call n args => by simp [NamePart.walk, NamePart.visits, walkParts_eq args]

theorem walkName_eq {change : Ident → Except ε Ident} {on : Ident → List Visit}
    {done : Ident → Id Ident} (h : w.Meets change on done) : ∀ n, walkName w change n =
    do (visitsOfName on n).forM w.test; return (walkName w.settled done n).run
  | [] => by simp [walkName, visitsOfName]
  | p :: ps => by simp [walkName, visitsOfName, p.walk_eq h, walkName_eq h ps]

theorem walkNames_eq : ∀ ns, walkNames w ns =
    do (visitsOfNames ns).forM w.test; return (walkNames w.settled ns).run
  | [] => by simp [walkNames, visitsOfNames]
  | n :: ns => by
    simp [walkNames, visitsOfNames, walkName_eq (Walker.meets_unmet) n, walkNames_eq ns]

theorem Expr.walk_eq : ∀ e : Expr,
    e.walk w = do e.visits.forM w.test; return (e.walk w.settled).run
  | .column i => by
    rw [Expr.walk, eq_tested w.lone i]
    simp [Expr.walk, Expr.visits, Walker.test, Walker.settled]
  | .qualified parts => by simp [Expr.walk, Expr.visits, mapParts_eq w parts]
  | .form f parts => by simp [Expr.walk, Expr.visits, walkParts_eq parts]

theorem Query.walk_eq : ∀ q : Query,
    q.walk w = do q.visits.forM w.test; return (q.walk w.settled).run
  | .mk ctes body clauses => by
    rcases h : w.enter body with e | ⟨⟩
    · simp [Query.walk, Query.visits, Walker.test, h]
      rfl
    · simp [Query.walk, Query.visits, Walker.test, Walker.settled, h, ctes.walk_eq,
        body.walk_eq (hw body h), walkParts_eq clauses]

theorem Body.walk_eq : ∀ b : Body, w.Joins b.usingColumns →
    b.walk w = do b.visits.forM w.test; return (b.walk w.settled).run
  | .select s, h => by simp [Body.walk, Body.visits, s.walk_eq (Body.usingColumns_select s ▸ h)]
  | .query q, _ => by simp [Body.walk, Body.visits, q.walk_eq]
  | .setOperation left operator quantifier right, h => by
    rw [Body.usingColumns_setOperation] at h
    simp [Body.walk, Body.visits, left.walk_eq h.left, quantifier.walk_eq, right.walk_eq h.right]
  | .statement s, _ => by simp [Body.walk, Body.visits, Walker.test, s.walk_eq]
  | .form f parts, _ => by simp [Body.walk, Body.visits, walkParts_eq parts]

theorem Select.walk_eq : ∀ s : Select, w.Joins (s.tables.flatMap TableWithJoins.usingColumns) →
    s.walk w = do s.visits.forM w.test; return (s.walk w.settled).run
  | .mk flavor mode head projection middle tables clauses, h => by
    simp [Select.walk, Select.visits, walkParts_eq head,
      walkItems_eq (Walker.meets_label) projection, walkParts_eq middle,
      walkTables_eq true tables fun _ => h, walkParts_eq clauses]

theorem SelectItem.walk_eq {change : Ident → Except ε Ident} {on : Ident → List Visit}
    {done : Ident → Id Ident} (h : w.Meets change on done) : ∀ i : SelectItem,
    i.walk w change = do (i.visits on).forM w.test; return (i.walk w.settled done).run
  | .plain e => by simp [SelectItem.walk, SelectItem.visits, e.walk_eq]
  | .aliased e i => by simp [SelectItem.walk, SelectItem.visits, h i, e.walk_eq]
  | .form f parts => by simp [SelectItem.walk, SelectItem.visits, walkParts_eq parts]

theorem walkItems_eq {change : Ident → Except ε Ident} {on : Ident → List Visit}
    {done : Ident → Id Ident} (h : w.Meets change on done) : ∀ is, walkItems w change is =
    do (visitsOfItems on is).forM w.test; return (walkItems w.settled done is).run
  | [] => by simp [walkItems, visitsOfItems]
  | i :: is => by simp [walkItems, visitsOfItems, i.walk_eq h, walkItems_eq h is]

theorem Alias.walk_eq {change : Ident → Except ε Ident} {on : Ident → List Visit}
    {done : Ident → Id Ident} (h : w.Meets change on done) : ∀ a : Alias,
    a.walk w change = do (a.visits on).forM w.test; return (a.walk w.settled done).run
  | .absent => by simp [Alias.walk, Alias.visits]
  | .named explicit i columns => by
    simp [Alias.walk, Alias.visits, h i, walkParts_eq columns]

theorem TableFactor.walk_eq (sel : Bool) : ∀ f : TableFactor,
    (sel = true → w.Joins f.nestedColumns) →
    f.walk w sel = do f.visits.forM w.test; return (f.walk w.settled sel).run
  | .table n a details, _ => by
    simp [TableFactor.walk, TableFactor.visits, walkName_eq (Walker.meets_relation) n,
      a.walk_eq (Walker.meets_source), walkParts_eq details]
  | .derived lateral q a, _ => by
    simp [TableFactor.walk, TableFactor.visits, q.walk_eq, a.walk_eq (Walker.meets_source)]
  | .nested t a, h => by
    simp [TableFactor.walk, TableFactor.visits, t.walk_eq sel h, a.walk_eq (Walker.meets_unmet)]
  | .form f parts, _ => by simp [TableFactor.walk, TableFactor.visits, walkParts_eq parts]

theorem TableWithJoins.walk_eq (sel : Bool) : ∀ t : TableWithJoins,
    (sel = true → w.Joins t.usingColumns) →
    t.walk w sel = do t.visits.forM w.test; return (t.walk w.settled sel).run
  | .mk relation joins, h => by
    simp [TableWithJoins.walk, TableWithJoins.visits, relation.walk_eq sel (h · |>.left),
      walkJoins_eq sel joins (h · |>.right)]

theorem walkTables_eq (sel : Bool) : ∀ ts,
    (sel = true → w.Joins (ts.flatMap TableWithJoins.usingColumns)) →
    walkTables w sel ts =
      do (visitsOfTables ts).forM w.test; return (walkTables w.settled sel ts).run
  | [], _ => by simp [walkTables, visitsOfTables]
  | t :: ts, h => by
    simp [walkTables, visitsOfTables, t.walk_eq sel (h · |>.left),
      walkTables_eq sel ts (h · |>.right)]

theorem Join.walk_eq (sel : Bool) : ∀ j : Join, (sel = true → w.Joins j.usingColumns) →
    j.walk w sel = do j.visits.forM w.test; return (j.walk w.settled sel).run
  | .constrained relation global kind c, h => by
    simp [Join.walk, Join.visits, relation.walk_eq sel (h · |>.left),
      c.walk_eq sel (h · |>.right)]
  | .asOf relation global condition c, h => by
    simp [Join.walk, Join.visits, relation.walk_eq sel (h · |>.left), condition.walk_eq,
      c.walk_eq sel (h · |>.right)]
  | .apply relation global outer, h => by simp [Join.walk, Join.visits, relation.walk_eq sel h]

theorem walkJoins_eq (sel : Bool) : ∀ js, (sel = true → w.Joins (joinsUsingColumns js)) →
    walkJoins w sel js = do (visitsOfJoins js).forM w.test; return (walkJoins w.settled sel js).run
  | [], _ => by simp [walkJoins, visitsOfJoins]
  | j :: js, h => by
    simp [walkJoins, visitsOfJoins, j.walk_eq sel (h · |>.left),
      walkJoins_eq sel js (h · |>.right)]

theorem JoinConstraint.walk_eq (sel : Bool) : ∀ c : JoinConstraint,
    (sel = true → w.Joins c.usingColumns) →
    c.walk w sel = do c.visits.forM w.test; return (c.walk w.settled sel).run
  | .on condition, _ => by simp [JoinConstraint.walk, JoinConstraint.visits, condition.walk_eq]
  | .using names, h => by
    cases sel with
    | false => simp [JoinConstraint.walk, JoinConstraint.visits, walkNames_eq names]
    | true =>
      have hj : (names.filterMap lastIdent).forM (tested w.joined) = .ok () := (h rfl).forM
      simp only [JoinConstraint.walk, JoinConstraint.visits, walkNames_eq names, mapLastIdents_eq,
        bind_assoc, pure_bind, lastIdent_walkNames, hj]
      rfl
  | .natural, _ => by simp [JoinConstraint.walk, JoinConstraint.visits]
  | .absent, _ => by simp [JoinConstraint.walk, JoinConstraint.visits]

theorem Target.walk_eq : ∀ t : Target,
    t.walk w = do t.visits.forM w.test; return (t.walk w.settled).run
  | .name n => by simp [Target.walk, Target.visits, walkName_eq (Walker.meets_unmet) n]
  | .tuple ns => by simp [Target.walk, Target.visits, walkNames_eq ns]

theorem Assignment.walk_eq : ∀ a : Assignment,
    a.walk w = do a.visits.forM w.test; return (a.walk w.settled).run
  | .mk target value => by
    simp [Assignment.walk, Assignment.visits, target.walk_eq, value.walk_eq]

theorem walkAssignments_eq : ∀ as, walkAssignments w as =
    do (visitsOfAssignments as).forM w.test; return (walkAssignments w.settled as).run
  | [] => by simp [walkAssignments, visitsOfAssignments]
  | a :: as => by simp [walkAssignments, visitsOfAssignments, a.walk_eq, walkAssignments_eq as]

theorem ConflictTarget.walk_eq : ∀ t : ConflictTarget,
    t.walk w = do t.visits.forM w.test; return (t.walk w.settled).run
  | .absent => by simp [ConflictTarget.walk, ConflictTarget.visits]
  | .columns is => by simp [ConflictTarget.walk, ConflictTarget.visits]
  | .constraint n => by
    simp [ConflictTarget.walk, ConflictTarget.visits, walkName_eq (Walker.meets_unmet) n]

theorem OnInsert.walk_eq : ∀ o : OnInsert,
    o.walk w = do o.visits.forM w.test; return (o.walk w.settled).run
  | .absent => by simp [OnInsert.walk, OnInsert.visits]
  | .duplicateKey assignments => by
    simp [OnInsert.walk, OnInsert.visits, walkAssignments_eq assignments]
  | .conflictNothing target => by simp [OnInsert.walk, OnInsert.visits, target.walk_eq]
  | .conflictUpdate target assignments condition => by
    simp [OnInsert.walk, OnInsert.visits, target.walk_eq, walkAssignments_eq assignments,
      condition.walk_eq]

theorem TableClause.walk_eq : ∀ c : TableClause,
    c.walk w = do c.visits.forM w.test; return (c.walk w.settled).run
  | .absent => by simp [TableClause.walk, TableClause.visits]
  | .present role tables => by
    simp [TableClause.walk, TableClause.visits, walkTables_eq false tables]

theorem Statement.walk_eq : ∀ s : Statement,
    s.walk w = do s.visits.forM w.test; return (s.walk w.settled).run
  | .query q => by simp [Statement.walk, Statement.visits, q.walk_eq]
  | .insert head columns middle on clauses => by
    simp [Statement.walk, Statement.visits, walkParts_eq head, walkParts_eq middle, on.walk_eq,
      walkParts_eq clauses]
  | .update head table assignments source clauses => by
    simp [Statement.walk, Statement.visits, walkParts_eq head, table.walk_eq false,
      walkAssignments_eq assignments, source.walk_eq, walkParts_eq clauses]
  | .delete head source others clauses => by
    simp [Statement.walk, Statement.visits, walkParts_eq head, source.walk_eq, others.walk_eq,
      walkParts_eq clauses]
  | .other f parts => by simp [Statement.walk, Statement.visits, walkParts_eq parts]

theorem Part.walk_eq : ∀ p : Part,
    p.walk w = do p.visits.forM w.test; return (p.walk w.settled).run
  | .absent => by simp [Part.walk, Part.visits]
  | .flag b => by simp [Part.walk, Part.visits]
  | .number n => by simp [Part.walk, Part.visits]
  | .text s => by simp [Part.walk, Part.visits]
  | .choice n s => by simp [Part.walk, Part.visits]
  | .value v => by simp [Part.walk, Part.visits]
  | .token t => by simp [Part.walk, Part.visits]
  | .span s => by simp [Part.walk, Part.visits]
  | .ident i => by simp [Part.walk, Part.visits]
  | .name n => by simp [Part.walk, Part.visits, walkName_eq (Walker.meets_unmet) n]
  | .relation n => by simp [Part.walk, Part.visits, walkName_eq (Walker.meets_relation) n]
  | .expr e => by simp [Part.walk, Part.visits, e.walk_eq]
  | .query q => by simp [Part.walk, Part.visits, q.walk_eq]
  | .item i => by simp [Part.walk, Part.visits, i.walk_eq (Walker.meets_unmet)]
  | .factor f => by simp [Part.walk, Part.visits, f.walk_eq false]
  | .tables t => by simp [Part.walk, Part.visits, t.walk_eq false]
  | .join j => by simp [Part.walk, Part.visits, j.walk_eq false]
  | .assignment a => by simp [Part.walk, Part.visits, a.walk_eq]
  | .label a => by simp [Part.walk, Part.visits, a.walk_eq (Walker.meets_unmet)]
  | .statement s => by simp [Part.walk, Part.visits, Walker.test, s.walk_eq]
  | .list ps => by simp [Part.walk, Part.visits, walkParts_eq ps]
  | .node f ps => by simp [Part.walk, Part.visits, walkParts_eq ps]

theorem walkParts_eq : ∀ ps : List Part, walkParts w ps =
    do (visitsOfParts ps).forM w.test; return (walkParts w.settled ps).run
  | [] => by simp [walkParts, visitsOfParts]
  | p :: ps => by simp [walkParts, visitsOfParts, p.walk_eq, walkParts_eq ps]

end

end

end ColumnMask.Sql
