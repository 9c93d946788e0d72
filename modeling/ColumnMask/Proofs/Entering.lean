-- What a walk does that acts on nothing but entering a query. It enters the queries of a
-- tree in the order of the visits, and leaves the tree as it was.
import ColumnMask.Proofs.Visits
import ColumnMask.Sql.Walk

set_option linter.unusedSectionVars false

namespace ColumnMask.Sql

variable {m : Type → Type} [Monad m]

/-! ## Watching -/

/-- The walker that acts on entering a query and changes nothing. -/
def Walker.watch (act : Body → m Unit) : Walker m := { Walker.keep with enter := act }

/-- What it does at a visit. -/
def Visit.watched (act : Body → m Unit) : Visit → m Unit
  | .enter body => act body
  | _ => pure ()

variable [LawfulMonad m]

theorem mapLastIdent_keep : ∀ n : ObjectName, mapLastIdent (m := m) pure n = pure n
  | [] => rfl
  | [.ident _] => by simp [mapLastIdent]
  | [.call _ _] => rfl
  | p :: q :: ps => by simp [mapLastIdent, mapLastIdent_keep (q :: ps)]

theorem mapLastIdents_keep (ns : List ObjectName) : mapLastIdents (m := m) pure ns = pure ns := by
  induction ns with
  | nil => rfl
  | cons n ns ih => simp [mapLastIdents, mapLastIdent_keep, ih]

theorem mapParts_keep : ∀ is : List Ident, mapParts (m := m) pure pure is = pure is
  | [] => rfl
  | [_] => by simp [mapParts]
  | i :: j :: is => by simp [mapParts, mapParts_keep (j :: is)]

/-! ## The walk does what it does at the visits -/

section

variable (act : Body → m Unit)

/-- Nothing is done at an identifier. -/
def Unwatched (on : Ident → List Visit) : Prop :=
  ∀ i, forM (on i) (Visit.watched act) = pure ()

theorem unwatched_unmet : Unwatched act unmet := fun _ => rfl

theorem unwatched_relation : Unwatched act atRelation :=
  fun _ => by simp [atRelation, Visit.watched]

theorem unwatched_source : Unwatched act atSource := fun _ => by simp [atSource, Visit.watched]

theorem unwatched_label : Unwatched act atLabel := fun _ => by simp [atLabel, Visit.watched]

theorem unwatched_idents : ∀ is, forM (visitsOfIdents is) (Visit.watched act) = pure ()
  | [] => rfl
  | [_] => by simp [visitsOfIdents, Visit.watched]
  | i :: j :: is => by simp [visitsOfIdents, Visit.watched, unwatched_idents (j :: is)]

mutual

theorem NamePart.walk_watch {on : Ident → List Visit} (h : Unwatched act on) : ∀ p : NamePart,
    p.walk (.watch act) pure = do (p.visits on).forM (Visit.watched act); return p
  | .ident i => by simp [NamePart.walk, NamePart.visits, h i]
  | .call _ args => by simp [NamePart.walk, NamePart.visits, walkParts_watch args]

theorem walkName_watch {on : Ident → List Visit} (h : Unwatched act on) : ∀ n,
    walkName (.watch act) pure n = do (visitsOfName on n).forM (Visit.watched act); return n
  | [] => by simp [walkName, visitsOfName]
  | p :: ps => by simp [walkName, visitsOfName, p.walk_watch h, walkName_watch h ps]

theorem walkNames_watch : ∀ ns,
    walkNames (.watch act) ns = do (visitsOfNames ns).forM (Visit.watched act); return ns
  | [] => by simp [walkNames, visitsOfNames]
  | n :: ns => by
    simp [walkNames, visitsOfNames, walkName_watch (unwatched_unmet act) n, walkNames_watch ns]

theorem Expr.walk_watch : ∀ e : Expr,
    e.walk (.watch act) = do e.visits.forM (Visit.watched act); return e
  | .column i => by simp [Expr.walk, Expr.visits, Visit.watched, Walker.watch, Walker.keep]
  | .qualified parts => by
    simp [Expr.walk, Expr.visits, unwatched_idents, Walker.watch, Walker.keep, mapParts_keep]
  | .form _ parts => by simp [Expr.walk, Expr.visits, walkParts_watch parts]

theorem Query.walk_watch : ∀ q : Query,
    q.walk (.watch act) = do q.visits.forM (Visit.watched act); return q
  | .mk ctes body clauses => by
    have hact : (Walker.watch act).enter body = act body := rfl
    simp [Query.walk, Query.visits, Visit.watched, hact, ctes.walk_watch,
      body.walk_watch, walkParts_watch clauses]

theorem Body.walk_watch : ∀ b : Body,
    b.walk (.watch act) = do b.visits.forM (Visit.watched act); return b
  | .select s => by simp [Body.walk, Body.visits, s.walk_watch]
  | .query q => by simp [Body.walk, Body.visits, q.walk_watch]
  | .setOperation left _ quantifier right => by
    simp [Body.walk, Body.visits, left.walk_watch, quantifier.walk_watch, right.walk_watch]
  | .statement s => by simp [Body.walk, Body.visits, Visit.watched, s.walk_watch]
  | .form _ parts => by simp [Body.walk, Body.visits, walkParts_watch parts]

theorem Select.walk_watch : ∀ s : Select,
    s.walk (.watch act) = do s.visits.forM (Visit.watched act); return s
  | .mk _ _ head projection middle tables clauses => by
    have hlabel : (Walker.watch act).label = pure := rfl
    simp [Select.walk, Select.visits, hlabel, walkParts_watch head,
      walkItems_watch (unwatched_label act) projection, walkParts_watch middle,
      walkTables_watch true tables, walkParts_watch clauses]

theorem SelectItem.walk_watch {on : Ident → List Visit} (h : Unwatched act on) :
    ∀ i : SelectItem,
      i.walk (.watch act) pure = do (i.visits on).forM (Visit.watched act); return i
  | .plain e => by simp [SelectItem.walk, SelectItem.visits, e.walk_watch]
  | .aliased e i => by simp [SelectItem.walk, SelectItem.visits, h i, e.walk_watch]
  | .form _ parts => by simp [SelectItem.walk, SelectItem.visits, walkParts_watch parts]

theorem walkItems_watch {on : Ident → List Visit} (h : Unwatched act on) : ∀ is,
    walkItems (.watch act) pure is = do (visitsOfItems on is).forM (Visit.watched act); return is
  | [] => by simp [walkItems, visitsOfItems]
  | i :: is => by simp [walkItems, visitsOfItems, i.walk_watch h, walkItems_watch h is]

theorem Alias.walk_watch {on : Ident → List Visit} (h : Unwatched act on) : ∀ a : Alias,
    a.walk (.watch act) pure = do (a.visits on).forM (Visit.watched act); return a
  | .absent => by simp [Alias.walk, Alias.visits]
  | .named _ i columns => by simp [Alias.walk, Alias.visits, h i, walkParts_watch columns]

theorem TableFactor.walk_watch (sel : Bool) : ∀ f : TableFactor,
    f.walk (.watch act) sel = do f.visits.forM (Visit.watched act); return f
  | .table n a details => by
    have hrelation : (Walker.watch act).relation = pure := rfl
    have hsource : (Walker.watch act).source = pure := rfl
    simp [TableFactor.walk, TableFactor.visits, hrelation, hsource,
      walkName_watch (unwatched_relation act) n, a.walk_watch (unwatched_source act),
      walkParts_watch details]
  | .derived _ q a => by
    have hsource : (Walker.watch act).source = pure := rfl
    simp [TableFactor.walk, TableFactor.visits, hsource, q.walk_watch,
      a.walk_watch (unwatched_source act)]
  | .nested t a => by
    simp [TableFactor.walk, TableFactor.visits, t.walk_watch sel,
      a.walk_watch (unwatched_unmet act)]
  | .form _ parts => by simp [TableFactor.walk, TableFactor.visits, walkParts_watch parts]

theorem TableWithJoins.walk_watch (sel : Bool) : ∀ t : TableWithJoins,
    t.walk (.watch act) sel = do t.visits.forM (Visit.watched act); return t
  | .mk relation joins => by
    simp [TableWithJoins.walk, TableWithJoins.visits, relation.walk_watch sel,
      walkJoins_watch sel joins]

theorem walkTables_watch (sel : Bool) : ∀ ts,
    walkTables (.watch act) sel ts =
      do (visitsOfTables ts).forM (Visit.watched act); return ts
  | [] => by simp [walkTables, visitsOfTables]
  | t :: ts => by simp [walkTables, visitsOfTables, t.walk_watch sel, walkTables_watch sel ts]

theorem Join.walk_watch (sel : Bool) : ∀ j : Join,
    j.walk (.watch act) sel = do j.visits.forM (Visit.watched act); return j
  | .constrained relation _ _ c => by
    simp [Join.walk, Join.visits, relation.walk_watch sel, c.walk_watch sel]
  | .asOf relation _ condition c => by
    simp [Join.walk, Join.visits, relation.walk_watch sel, condition.walk_watch,
      c.walk_watch sel]
  | .apply relation _ _ => by simp [Join.walk, Join.visits, relation.walk_watch sel]

theorem walkJoins_watch (sel : Bool) : ∀ js,
    walkJoins (.watch act) sel js = do (visitsOfJoins js).forM (Visit.watched act); return js
  | [] => by simp [walkJoins, visitsOfJoins]
  | j :: js => by simp [walkJoins, visitsOfJoins, j.walk_watch sel, walkJoins_watch sel js]

theorem JoinConstraint.walk_watch (sel : Bool) : ∀ c : JoinConstraint,
    c.walk (.watch act) sel = do c.visits.forM (Visit.watched act); return c
  | .on condition => by
    simp [JoinConstraint.walk, JoinConstraint.visits, condition.walk_watch]
  | .using names => by
    have hjoined : (Walker.watch act).joined = pure := rfl
    cases sel <;>
      simp [JoinConstraint.walk, JoinConstraint.visits, hjoined, walkNames_watch names,
        mapLastIdents_keep]
  | .natural => by simp [JoinConstraint.walk, JoinConstraint.visits]
  | .absent => by simp [JoinConstraint.walk, JoinConstraint.visits]

theorem Target.walk_watch : ∀ t : Target,
    t.walk (.watch act) = do t.visits.forM (Visit.watched act); return t
  | .name n => by simp [Target.walk, Target.visits, walkName_watch (unwatched_unmet act) n]
  | .tuple ns => by simp [Target.walk, Target.visits, walkNames_watch ns]

theorem Assignment.walk_watch : ∀ a : Assignment,
    a.walk (.watch act) = do a.visits.forM (Visit.watched act); return a
  | .mk target value => by
    simp [Assignment.walk, Assignment.visits, target.walk_watch, value.walk_watch]

theorem walkAssignments_watch : ∀ as, walkAssignments (.watch act) as =
    do (visitsOfAssignments as).forM (Visit.watched act); return as
  | [] => by simp [walkAssignments, visitsOfAssignments]
  | a :: as => by
    simp [walkAssignments, visitsOfAssignments, a.walk_watch, walkAssignments_watch as]

theorem ConflictTarget.walk_watch : ∀ t : ConflictTarget,
    t.walk (.watch act) = do t.visits.forM (Visit.watched act); return t
  | .absent => by simp [ConflictTarget.walk, ConflictTarget.visits]
  | .columns _ => by simp [ConflictTarget.walk, ConflictTarget.visits]
  | .constraint n => by
    simp [ConflictTarget.walk, ConflictTarget.visits, walkName_watch (unwatched_unmet act) n]

theorem OnInsert.walk_watch : ∀ o : OnInsert,
    o.walk (.watch act) = do o.visits.forM (Visit.watched act); return o
  | .absent => by simp [OnInsert.walk, OnInsert.visits]
  | .duplicateKey assignments => by
    simp [OnInsert.walk, OnInsert.visits, walkAssignments_watch assignments]
  | .conflictNothing target => by simp [OnInsert.walk, OnInsert.visits, target.walk_watch]
  | .conflictUpdate target assignments condition => by
    simp [OnInsert.walk, OnInsert.visits, target.walk_watch, walkAssignments_watch assignments,
      condition.walk_watch]

theorem TableClause.walk_watch : ∀ c : TableClause,
    c.walk (.watch act) = do c.visits.forM (Visit.watched act); return c
  | .absent => by simp [TableClause.walk, TableClause.visits]
  | .present _ tables => by
    simp [TableClause.walk, TableClause.visits, walkTables_watch false tables]

/-- A walk that only watches does what it does at the visits, one after the other. -/
theorem Statement.walk_watch : ∀ s : Statement,
    s.walk (.watch act) = do s.visits.forM (Visit.watched act); return s
  | .query q => by simp [Statement.walk, Statement.visits, q.walk_watch]
  | .insert head columns middle on clauses => by
    simp [Statement.walk, Statement.visits, walkParts_watch head, walkParts_watch middle,
      on.walk_watch, walkParts_watch clauses]
  | .update head table assignments source clauses => by
    simp [Statement.walk, Statement.visits, walkParts_watch head, table.walk_watch false,
      walkAssignments_watch assignments, source.walk_watch, walkParts_watch clauses]
  | .delete head source others clauses => by
    simp [Statement.walk, Statement.visits, walkParts_watch head, source.walk_watch,
      others.walk_watch, walkParts_watch clauses]
  | .other _ parts => by simp [Statement.walk, Statement.visits, walkParts_watch parts]

theorem Part.walk_watch : ∀ p : Part,
    p.walk (.watch act) = do p.visits.forM (Visit.watched act); return p
  | .absent => by simp [Part.walk, Part.visits]
  | .flag _ => by simp [Part.walk, Part.visits]
  | .number _ => by simp [Part.walk, Part.visits]
  | .text _ => by simp [Part.walk, Part.visits]
  | .choice _ _ => by simp [Part.walk, Part.visits]
  | .value _ => by simp [Part.walk, Part.visits]
  | .token _ => by simp [Part.walk, Part.visits]
  | .span _ => by simp [Part.walk, Part.visits]
  | .ident _ => by simp [Part.walk, Part.visits]
  | .name n => by simp [Part.walk, Part.visits, walkName_watch (unwatched_unmet act) n]
  | .relation n => by
    have hrelation : (Walker.watch act).relation = pure := rfl
    simp [Part.walk, Part.visits, hrelation, walkName_watch (unwatched_relation act) n]
  | .expr e => by simp [Part.walk, Part.visits, e.walk_watch]
  | .query q => by simp [Part.walk, Part.visits, q.walk_watch]
  | .item i => by simp [Part.walk, Part.visits, i.walk_watch (unwatched_unmet act)]
  | .factor f => by simp [Part.walk, Part.visits, f.walk_watch false]
  | .tables t => by simp [Part.walk, Part.visits, t.walk_watch false]
  | .join j => by simp [Part.walk, Part.visits, j.walk_watch false]
  | .assignment a => by simp [Part.walk, Part.visits, a.walk_watch]
  | .label a => by simp [Part.walk, Part.visits, a.walk_watch (unwatched_unmet act)]
  | .statement s => by simp [Part.walk, Part.visits, Visit.watched, s.walk_watch]
  | .list ps => by simp [Part.walk, Part.visits, walkParts_watch ps]
  | .node _ ps => by simp [Part.walk, Part.visits, walkParts_watch ps]

theorem walkParts_watch : ∀ ps,
    walkParts (.watch act) ps = do (visitsOfParts ps).forM (Visit.watched act); return ps
  | [] => by simp [walkParts, visitsOfParts]
  | p :: ps => by simp [walkParts, visitsOfParts, p.walk_watch, walkParts_watch ps]

end

end

end ColumnMask.Sql
