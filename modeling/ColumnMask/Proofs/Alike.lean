-- Trees of one shape. Two trees are alike if they differ only in identifiers, and in these
-- only as a change allows for the kind of place they stand in. A walk leaves a tree alike
-- that does to identifiers what the change allows; so does a change of the targets.
import ColumnMask.Proofs.TargetLists
import Mathlib.Data.List.Forall2

set_option linter.unusedSectionVars false

namespace ColumnMask.Sql

/-! ## Changes -/

/-- What may stand for an identifier, for each kind of place that a walk tells apart. The
identifiers of other places stay as they are. -/
structure Change where
  /-- An expression that is a lone identifier. -/
  lone : Ident → Ident → Prop
  /-- The last part of a dotted identifier. -/
  last : Ident → Ident → Prop
  /-- Any earlier part of a dotted identifier. -/
  qualifier : Ident → Ident → Prop
  /-- The last part of a USING column of a join in a SELECT block. -/
  joined : Ident → Ident → Prop
  /-- A part of the name of a relation. -/
  relation : Ident → Ident → Prop
  /-- The name given to a table or to a subquery in a list of tables. -/
  source : Ident → Ident → Prop
  /-- The name given to an item of a projection. -/
  label : Ident → Ident → Prop

/-- Whether the change allows what the walker does. -/
structure Change.Allows (c : Change) (w : Walker Id) : Prop where
  lone : ∀ i, c.lone i (w.lone i).run
  last : ∀ i, c.last i (w.last i).run
  qualifier : ∀ i, c.qualifier i (w.qualifier i).run
  joined : ∀ i, c.joined i (w.joined i).run
  relation : ∀ i, c.relation i (w.relation i).run
  source : ∀ i, c.source i (w.source i).run
  label : ∀ i, c.label i (w.label i).run

/-! ## Trees that are alike -/

def alikeIdents (c : Change) : List Ident → List Ident → Prop
  | [], js => js = []
  | [i], js => ∃ j, js = [j] ∧ c.last i j
  | i :: k :: is, js => ∃ j js', js = j :: js' ∧ c.qualifier i j ∧ alikeIdents c (k :: is) js'

mutual

/-- Parts of names that are alike; `r` says what may stand for an identifier. -/
def NamePart.alike (c : Change) (r : Ident → Ident → Prop) : NamePart → NamePart → Prop
  | .ident i, q => ∃ j, q = .ident j ∧ r i j
  | .call n args, q => ∃ args', q = .call n args' ∧ alikeParts c args args'
termination_by structural p => p

def alikeName (c : Change) (r : Ident → Ident → Prop) : List NamePart → List NamePart → Prop
  | [], qs => qs = []
  | p :: ps, qs => ∃ q qs', qs = q :: qs' ∧ p.alike c r q ∧ alikeName c r ps qs'
termination_by structural p => p

/-- Names that are alike and may differ in their last identifier, as `u` says. -/
def alikeSite (c : Change) (u : Ident → Ident → Prop) : List NamePart → List NamePart → Prop
  | [], qs => qs = []
  | [p], qs => ∃ q, qs = [q] ∧ p.alike c u q
  | p :: o :: ps, qs => ∃ q qs', qs = q :: qs' ∧ p.alike c Eq q ∧ alikeSite c u (o :: ps) qs'
termination_by structural p => p

def alikeSites (c : Change) (u : Ident → Ident → Prop) :
    List (List NamePart) → List (List NamePart) → Prop
  | [], ms => ms = []
  | n :: ns, ms => ∃ m ms', ms = m :: ms' ∧ alikeSite c u n m ∧ alikeSites c u ns ms'
termination_by structural p => p

def Expr.alike (c : Change) : Expr → Expr → Prop
  | .column i, e => ∃ j, e = .column j ∧ c.lone i j
  | .qualified is, e => ∃ js, e = .qualified js ∧ alikeIdents c is js
  | .form f ps, e => ∃ qs, e = .form f qs ∧ alikeParts c ps qs
termination_by structural p => p

def Query.alike (c : Change) : Query → Query → Prop
  | .mk ctes body clauses, q => ∃ ctes' body' clauses', q = .mk ctes' body' clauses' ∧
      ctes.alike c ctes' ∧ body.alike c body' ∧ alikeParts c clauses clauses'
termination_by structural p => p

def Body.alike (c : Change) : Body → Body → Prop
  | .select s, b => ∃ s', b = .select s' ∧ s.alike c s'
  | .query q, b => ∃ q', b = .query q' ∧ q.alike c q'
  | .setOperation left operator quantifier right, b =>
    ∃ left' quantifier' right', b = .setOperation left' operator quantifier' right' ∧
      left.alike c left' ∧ quantifier.alike c quantifier' ∧ right.alike c right'
  | .statement s, b => ∃ s', b = .statement s' ∧ s.alike c Eq s'
  | .form f ps, b => ∃ qs, b = .form f qs ∧ alikeParts c ps qs
termination_by structural p => p

def Select.alike (c : Change) : Select → Select → Prop
  | .mk flavor mode head projection middle tables clauses, s =>
    ∃ head' projection' middle' tables' clauses',
      s = .mk flavor mode head' projection' middle' tables' clauses' ∧
      alikeParts c head head' ∧ alikeItems c c.label projection projection' ∧
      alikeParts c middle middle' ∧ alikeTables c c.joined tables tables' ∧
      alikeParts c clauses clauses'
termination_by structural p => p

/-- Items that are alike; `r` says what may stand for the alias. -/
def SelectItem.alike (c : Change) (r : Ident → Ident → Prop) : SelectItem → SelectItem → Prop
  | .plain e, i => ∃ e', i = .plain e' ∧ e.alike c e'
  | .aliased e l, i => ∃ e' l', i = .aliased e' l' ∧ r l l' ∧ e.alike c e'
  | .form f ps, i => ∃ qs, i = .form f qs ∧ alikeParts c ps qs
termination_by structural p => p

def alikeItems (c : Change) (r : Ident → Ident → Prop) : List SelectItem → List SelectItem → Prop
  | [], js => js = []
  | i :: is, js => ∃ j js', js = j :: js' ∧ i.alike c r j ∧ alikeItems c r is js'
termination_by structural p => p

/-- Aliases that are alike; `r` says what may stand for the name. -/
def Alias.alike (c : Change) (r : Ident → Ident → Prop) : Alias → Alias → Prop
  | .absent, a => a = .absent
  | .named explicit i columns, a => ∃ j columns', a = .named explicit j columns' ∧ r i j ∧
      alikeParts c columns columns'
termination_by structural p => p

/-- Sources of rows that are alike; `u` says what may stand for a USING column. -/
def TableFactor.alike (c : Change) (u : Ident → Ident → Prop) : TableFactor → TableFactor → Prop
  | .table n a details, t => ∃ n' a' details', t = .table n' a' details' ∧
      alikeName c c.relation n n' ∧ a.alike c c.source a' ∧ alikeParts c details details'
  | .derived lateral q a, t => ∃ q' a', t = .derived lateral q' a' ∧ q.alike c q' ∧
      a.alike c c.source a'
  | .nested j a, t => ∃ j' a', t = .nested j' a' ∧ j.alike c u j' ∧ a.alike c Eq a'
  | .form f ps, t => ∃ qs, t = .form f qs ∧ alikeParts c ps qs
termination_by structural p => p

def TableWithJoins.alike (c : Change) (u : Ident → Ident → Prop) :
    TableWithJoins → TableWithJoins → Prop
  | .mk relation joins, t => ∃ relation' joins', t = .mk relation' joins' ∧
      relation.alike c u relation' ∧ alikeJoins c u joins joins'
termination_by structural p => p

def alikeTables (c : Change) (u : Ident → Ident → Prop) :
    List TableWithJoins → List TableWithJoins → Prop
  | [], ss => ss = []
  | t :: ts, ss => ∃ s ss', ss = s :: ss' ∧ t.alike c u s ∧ alikeTables c u ts ss'
termination_by structural p => p

def Join.alike (c : Change) (u : Ident → Ident → Prop) : Join → Join → Prop
  | .constrained relation global kind on, j => ∃ relation' on',
      j = .constrained relation' global kind on' ∧ relation.alike c u relation' ∧ on.alike c u on'
  | .asOf relation global condition on, j => ∃ relation' condition' on',
      j = .asOf relation' global condition' on' ∧ relation.alike c u relation' ∧
      condition.alike c condition' ∧ on.alike c u on'
  | .apply relation global outer, j => ∃ relation', j = .apply relation' global outer ∧
      relation.alike c u relation'
termination_by structural p => p

def alikeJoins (c : Change) (u : Ident → Ident → Prop) : List Join → List Join → Prop
  | [], ks => ks = []
  | j :: js, ks => ∃ k ks', ks = k :: ks' ∧ j.alike c u k ∧ alikeJoins c u js ks'
termination_by structural p => p

def JoinConstraint.alike (c : Change) (u : Ident → Ident → Prop) :
    JoinConstraint → JoinConstraint → Prop
  | .on condition, o => ∃ condition', o = .on condition' ∧ condition.alike c condition'
  | .using names, o => ∃ names', o = .using names' ∧ alikeSites c u names names'
  | .natural, o => o = .natural
  | .absent, o => o = .absent
termination_by structural p => p

/-- Targets that are alike; `u` says what may stand for a column that is set. -/
def Target.alike (c : Change) (u : Ident → Ident → Prop) : Target → Target → Prop
  | .name n, t => ∃ n', t = .name n' ∧ alikeSite c u n n'
  | .tuple ns, t => ∃ ns', t = .tuple ns' ∧ alikeSites c u ns ns'
termination_by structural p => p

def Assignment.alike (c : Change) (u : Ident → Ident → Prop) : Assignment → Assignment → Prop
  | .mk target value, a => ∃ target' value', a = .mk target' value' ∧ target.alike c u target' ∧
      value.alike c value'
termination_by structural p => p

def alikeAssignments (c : Change) (u : Ident → Ident → Prop) :
    List Assignment → List Assignment → Prop
  | [], bs => bs = []
  | a :: as, bs => ∃ b bs', bs = b :: bs' ∧ a.alike c u b ∧ alikeAssignments c u as bs'
termination_by structural p => p

def ConflictTarget.alike (c : Change) (u : Ident → Ident → Prop) :
    ConflictTarget → ConflictTarget → Prop
  | .absent, t => t = .absent
  | .columns is, t => ∃ js, t = .columns js ∧ List.Forall₂ u is js
  | .constraint n, t => ∃ n', t = .constraint n' ∧ alikeName c Eq n n'
termination_by structural p => p

def OnInsert.alike (c : Change) (u : Ident → Ident → Prop) : OnInsert → OnInsert → Prop
  | .absent, o => o = .absent
  | .duplicateKey assignments, o => ∃ assignments', o = .duplicateKey assignments' ∧
      alikeAssignments c u assignments assignments'
  | .conflictNothing target, o => ∃ target', o = .conflictNothing target' ∧ target.alike c u target'
  | .conflictUpdate target assignments condition, o => ∃ target' assignments' condition',
      o = .conflictUpdate target' assignments' condition' ∧ target.alike c u target' ∧
      alikeAssignments c u assignments assignments' ∧ condition.alike c condition'
termination_by structural p => p

def TableClause.alike (c : Change) (u : Ident → Ident → Prop) : TableClause → TableClause → Prop
  | .absent, t => t = .absent
  | .present role tables, t => ∃ tables', t = .present role tables' ∧ alikeTables c u tables tables'
termination_by structural p => p

/-- Statements that are alike; `u` says what may stand for a target. Below a statement there are
no targets: a statement that is met there keeps them. -/
def Statement.alike (c : Change) (u : Ident → Ident → Prop) : Statement → Statement → Prop
  | .query q, s => ∃ q', s = .query q' ∧ q.alike c q'
  | .insert head columns middle on clauses, s => ∃ head' columns' middle' on' clauses',
      s = .insert head' columns' middle' on' clauses' ∧ alikeParts c head head' ∧
      List.Forall₂ u columns columns' ∧ alikeParts c middle middle' ∧ on.alike c u on' ∧
      alikeParts c clauses clauses'
  | .update head table assignments source clauses, s =>
    ∃ head' table' assignments' source' clauses',
      s = .update head' table' assignments' source' clauses' ∧ alikeParts c head head' ∧
      table.alike c u table' ∧ alikeAssignments c u assignments assignments' ∧
      source.alike c u source' ∧ alikeParts c clauses clauses'
  | .delete head source others clauses, s => ∃ head' source' others' clauses',
      s = .delete head' source' others' clauses' ∧ alikeParts c head head' ∧
      source.alike c u source' ∧ others.alike c u others' ∧ alikeParts c clauses clauses'
  | .other f ps, s => ∃ qs, s = .other f qs ∧ alikeParts c ps qs
termination_by structural p => p

def Part.alike (c : Change) : Part → Part → Prop
  | .absent, q => q = .absent
  | .flag b, q => q = .flag b
  | .number n, q => q = .number n
  | .text s, q => q = .text s
  | .choice n s, q => q = .choice n s
  | .value v, q => q = .value v
  | .token t, q => q = .token t
  | .span s, q => q = .span s
  | .ident i, q => q = .ident i
  | .name n, q => ∃ n', q = .name n' ∧ alikeName c Eq n n'
  | .relation n, q => ∃ n', q = .relation n' ∧ alikeName c c.relation n n'
  | .expr e, q => ∃ e', q = .expr e' ∧ e.alike c e'
  | .query p, q => ∃ p', q = .query p' ∧ p.alike c p'
  | .item i, q => ∃ i', q = .item i' ∧ i.alike c Eq i'
  | .factor t, q => ∃ t', q = .factor t' ∧ t.alike c Eq t'
  | .tables t, q => ∃ t', q = .tables t' ∧ t.alike c Eq t'
  | .join j, q => ∃ j', q = .join j' ∧ j.alike c Eq j'
  | .assignment a, q => ∃ a', q = .assignment a' ∧ a.alike c Eq a'
  | .label a, q => ∃ a', q = .label a' ∧ a.alike c Eq a'
  | .statement s, q => ∃ s', q = .statement s' ∧ s.alike c Eq s'
  | .list ps, q => ∃ qs, q = .list qs ∧ alikeParts c ps qs
  | .node f ps, q => ∃ qs, q = .node f qs ∧ alikeParts c ps qs
termination_by structural p => p

def alikeParts (c : Change) : List Part → List Part → Prop
  | [], qs => qs = []
  | p :: ps, qs => ∃ q qs', qs = q :: qs' ∧ p.alike c q ∧ alikeParts c ps qs'
termination_by structural p => p

end

/-! ## The last part of a name, changed before or after a walk -/

theorem mapLastIdent_pure : ∀ n : ObjectName, (mapLastIdent (m := Id) pure n).run = n
  | [] => rfl
  | [.ident _] => rfl
  | [.call _ _] => rfl
  | p :: q :: ps => by
    simp only [mapLastIdent, Id.run_bind, Id.run_pure, mapLastIdent_pure (q :: ps)]

theorem mapLastIdents_pure (ns : List ObjectName) : (mapLastIdents (m := Id) pure ns).run = ns := by
  induction ns with
  | nil => rfl
  | cons n ns ih =>
    simp only [mapLastIdents, Id.run_bind, Id.run_pure, mapLastIdent_pure, ih]

theorem mapLastIdent_walkName (w : Walker Id) (f : Ident → Id Ident) : ∀ n : ObjectName,
    (mapLastIdent f (walkName w pure n).run).run = (walkName w pure (mapLastIdent f n).run).run
  | [] => rfl
  | [.ident _] => rfl
  | [.call _ _] => rfl
  | p :: q :: ps => by
    have h := mapLastIdent_walkName w f (q :: ps)
    simp only [walkName, mapLastIdent, Id.run_bind, Id.run_pure] at h ⊢
    rw [h]

theorem mapLastIdents_walkNames (w : Walker Id) (f : Ident → Id Ident) (ns : List ObjectName) :
    (mapLastIdents f (walkNames w ns).run).run = (walkNames w (mapLastIdents f ns).run).run := by
  induction ns with
  | nil => rfl
  | cons n ns ih =>
    simp only [walkNames, mapLastIdents, Id.run_bind, Id.run_pure, mapLastIdent_walkName, ih]

/-! ## A walk leaves a tree alike -/

/-- What may stand for a USING column, in a SELECT block and elsewhere. -/
def Change.used (c : Change) : Bool → Ident → Ident → Prop
  | true => c.joined
  | false => Eq

section

variable {c : Change} {w : Walker Id} (hc : c.Allows w)
include hc

theorem alikeIdents_mapParts : ∀ is, alikeIdents c is (mapParts w.qualifier w.last is).run
  | [] => rfl
  | [i] => ⟨_, rfl, hc.last i⟩
  | i :: k :: is => ⟨_, _, rfl, hc.qualifier i, alikeIdents_mapParts (k :: is)⟩

mutual

theorem NamePart.alike_walk {r : Ident → Ident → Prop} {visit : Ident → Id Ident}
    (h : ∀ i, r i (visit i).run) : ∀ p : NamePart, p.alike c r (p.walk w visit).run
  | .ident i => ⟨_, rfl, h i⟩
  | .call _ args => ⟨_, rfl, alikeParts_walk args⟩

theorem alikeName_walk {r : Ident → Ident → Prop} {visit : Ident → Id Ident}
    (h : ∀ i, r i (visit i).run) : ∀ n, alikeName c r n (walkName w visit n).run
  | [] => rfl
  | p :: ps => ⟨_, _, rfl, p.alike_walk h, alikeName_walk h ps⟩

theorem alikeSite_walk {u : Ident → Ident → Prop} {f : Ident → Id Ident}
    (h : ∀ i, u i (f i).run) : ∀ n, alikeSite c u n (walkName w pure (mapLastIdent f n).run).run
  | [] => rfl
  | [.ident i] => ⟨_, rfl, _, rfl, h i⟩
  | [.call _ args] => ⟨_, rfl, _, rfl, alikeParts_walk args⟩
  | p :: o :: ps => by
    rw [mapLastIdent]
    exact ⟨_, _, rfl, p.alike_walk fun _ => rfl, alikeSite_walk h (o :: ps)⟩

theorem alikeSites_walk {u : Ident → Ident → Prop} {f : Ident → Id Ident}
    (h : ∀ i, u i (f i).run) : ∀ ns, alikeSites c u ns (walkNames w (mapLastIdents f ns).run).run
  | [] => rfl
  | n :: ns => ⟨_, _, rfl, alikeSite_walk h n, alikeSites_walk h ns⟩

theorem Expr.alike_walk : ∀ e : Expr, e.alike c (e.walk w).run
  | .column i => ⟨_, rfl, hc.lone i⟩
  | .qualified is => ⟨_, rfl, alikeIdents_mapParts hc is⟩
  | .form _ ps => ⟨_, rfl, alikeParts_walk ps⟩

theorem Query.alike_walk : ∀ q : Query, q.alike c (q.walk w).run
  | .mk ctes body clauses =>
    ⟨_, _, _, rfl, ctes.alike_walk, body.alike_walk, alikeParts_walk clauses⟩

theorem Body.alike_walk : ∀ b : Body, b.alike c (b.walk w).run
  | .select s => ⟨_, rfl, s.alike_walk⟩
  | .query q => ⟨_, rfl, q.alike_walk⟩
  | .setOperation left _ quantifier right =>
    ⟨_, _, _, rfl, left.alike_walk, quantifier.alike_walk, right.alike_walk⟩
  | .statement s => ⟨_, rfl, s.alike_walk⟩
  | .form _ ps => ⟨_, rfl, alikeParts_walk ps⟩

theorem Select.alike_walk : ∀ s : Select, s.alike c (s.walk w).run
  | .mk _ _ head projection middle tables clauses =>
    ⟨_, _, _, _, _, rfl, alikeParts_walk head, alikeItems_walk hc.label projection,
      alikeParts_walk middle, alikeTables_walk true tables, alikeParts_walk clauses⟩

theorem SelectItem.alike_walk {r : Ident → Ident → Prop} {label : Ident → Id Ident}
    (h : ∀ i, r i (label i).run) : ∀ i : SelectItem, i.alike c r (i.walk w label).run
  | .plain e => ⟨_, rfl, e.alike_walk⟩
  | .aliased e i => ⟨_, _, rfl, h i, e.alike_walk⟩
  | .form _ ps => ⟨_, rfl, alikeParts_walk ps⟩

theorem alikeItems_walk {r : Ident → Ident → Prop} {label : Ident → Id Ident}
    (h : ∀ i, r i (label i).run) : ∀ is, alikeItems c r is (walkItems w label is).run
  | [] => rfl
  | i :: is => ⟨_, _, rfl, i.alike_walk h, alikeItems_walk h is⟩

theorem Alias.alike_walk {r : Ident → Ident → Prop} {visit : Ident → Id Ident}
    (h : ∀ i, r i (visit i).run) : ∀ a : Alias, a.alike c r (a.walk w visit).run
  | .absent => rfl
  | .named _ i columns => ⟨_, _, rfl, h i, alikeParts_walk columns⟩

theorem TableFactor.alike_walk (sel : Bool) :
    ∀ t : TableFactor, t.alike c (c.used sel) (t.walk w sel).run
  | .table n a details =>
    ⟨_, _, _, rfl, alikeName_walk hc.relation n, a.alike_walk hc.source, alikeParts_walk details⟩
  | .derived _ q a => ⟨_, _, rfl, q.alike_walk, a.alike_walk hc.source⟩
  | .nested j a => ⟨_, _, rfl, j.alike_walk sel, a.alike_walk fun _ => rfl⟩
  | .form _ ps => ⟨_, rfl, alikeParts_walk ps⟩

theorem TableWithJoins.alike_walk (sel : Bool) :
    ∀ t : TableWithJoins, t.alike c (c.used sel) (t.walk w sel).run
  | .mk relation joins => ⟨_, _, rfl, relation.alike_walk sel, alikeJoins_walk sel joins⟩

theorem alikeTables_walk (sel : Bool) :
    ∀ ts, alikeTables c (c.used sel) ts (walkTables w sel ts).run
  | [] => rfl
  | t :: ts => ⟨_, _, rfl, t.alike_walk sel, alikeTables_walk sel ts⟩

theorem Join.alike_walk (sel : Bool) : ∀ j : Join, j.alike c (c.used sel) (j.walk w sel).run
  | .constrained relation _ _ on => ⟨_, _, rfl, relation.alike_walk sel, on.alike_walk sel⟩
  | .asOf relation _ condition on =>
    ⟨_, _, _, rfl, relation.alike_walk sel, condition.alike_walk, on.alike_walk sel⟩
  | .apply relation _ _ => ⟨_, rfl, relation.alike_walk sel⟩

theorem alikeJoins_walk (sel : Bool) : ∀ js, alikeJoins c (c.used sel) js (walkJoins w sel js).run
  | [] => rfl
  | j :: js => ⟨_, _, rfl, j.alike_walk sel, alikeJoins_walk sel js⟩

theorem JoinConstraint.alike_walk (sel : Bool) :
    ∀ o : JoinConstraint, o.alike c (c.used sel) (o.walk w sel).run
  | .on condition => ⟨_, rfl, condition.alike_walk⟩
  | .using names => by
    cases sel with
    | true =>
      have h := alikeSites_walk hc.joined names
      rw [← mapLastIdents_walkNames] at h
      exact ⟨_, rfl, h⟩
    | false =>
      have h := alikeSites_walk (u := Eq) (f := pure) (fun _ => rfl) names
      rw [mapLastIdents_pure] at h
      exact ⟨_, rfl, h⟩
  | .natural => rfl
  | .absent => rfl

theorem Target.alike_walk : ∀ t : Target, t.alike c Eq (t.walk w).run
  | .name n => by
    have h := alikeSite_walk (u := Eq) (f := pure) (fun _ => rfl) n
    rw [mapLastIdent_pure] at h
    exact ⟨_, rfl, h⟩
  | .tuple ns => by
    have h := alikeSites_walk (u := Eq) (f := pure) (fun _ => rfl) ns
    rw [mapLastIdents_pure] at h
    exact ⟨_, rfl, h⟩

theorem Assignment.alike_walk : ∀ a : Assignment, a.alike c Eq (a.walk w).run
  | .mk target value => ⟨_, _, rfl, target.alike_walk, value.alike_walk⟩

theorem alikeAssignments_walk : ∀ as, alikeAssignments c Eq as (walkAssignments w as).run
  | [] => rfl
  | a :: as => ⟨_, _, rfl, a.alike_walk, alikeAssignments_walk as⟩

theorem ConflictTarget.alike_walk : ∀ t : ConflictTarget, t.alike c Eq (t.walk w).run
  | .absent => rfl
  | .columns is => ⟨_, rfl, List.forall₂_refl is⟩
  | .constraint n => ⟨_, rfl, alikeName_walk (fun _ => rfl) n⟩

theorem OnInsert.alike_walk : ∀ o : OnInsert, o.alike c Eq (o.walk w).run
  | .absent => rfl
  | .duplicateKey assignments => ⟨_, rfl, alikeAssignments_walk assignments⟩
  | .conflictNothing target => ⟨_, rfl, target.alike_walk⟩
  | .conflictUpdate target assignments condition =>
    ⟨_, _, _, rfl, target.alike_walk, alikeAssignments_walk assignments, condition.alike_walk⟩

theorem TableClause.alike_walk : ∀ t : TableClause, t.alike c Eq (t.walk w).run
  | .absent => rfl
  | .present _ tables => ⟨_, rfl, alikeTables_walk false tables⟩

theorem Statement.alike_walk : ∀ s : Statement, s.alike c Eq (s.walk w).run
  | .query q => ⟨_, rfl, q.alike_walk⟩
  | .insert head columns middle on clauses =>
    ⟨_, _, _, _, _, rfl, alikeParts_walk head, List.forall₂_refl columns, alikeParts_walk middle,
      on.alike_walk, alikeParts_walk clauses⟩
  | .update head table assignments source clauses =>
    ⟨_, _, _, _, _, rfl, alikeParts_walk head, table.alike_walk false,
      alikeAssignments_walk assignments, source.alike_walk, alikeParts_walk clauses⟩
  | .delete head source others clauses =>
    ⟨_, _, _, _, rfl, alikeParts_walk head, source.alike_walk, others.alike_walk,
      alikeParts_walk clauses⟩
  | .other _ ps => ⟨_, rfl, alikeParts_walk ps⟩

theorem Part.alike_walk : ∀ p : Part, p.alike c (p.walk w).run
  | .absent => rfl
  | .flag _ => rfl
  | .number _ => rfl
  | .text _ => rfl
  | .choice _ _ => rfl
  | .value _ => rfl
  | .token _ => rfl
  | .span _ => rfl
  | .ident _ => rfl
  | .name n => ⟨_, rfl, alikeName_walk (fun _ => rfl) n⟩
  | .relation n => ⟨_, rfl, alikeName_walk hc.relation n⟩
  | .expr e => ⟨_, rfl, e.alike_walk⟩
  | .query q => ⟨_, rfl, q.alike_walk⟩
  | .item i => ⟨_, rfl, i.alike_walk fun _ => rfl⟩
  | .factor t => ⟨_, rfl, t.alike_walk false⟩
  | .tables t => ⟨_, rfl, t.alike_walk false⟩
  | .join j => ⟨_, rfl, j.alike_walk false⟩
  | .assignment a => ⟨_, rfl, a.alike_walk⟩
  | .label a => ⟨_, rfl, a.alike_walk fun _ => rfl⟩
  | .statement s => ⟨_, rfl, s.alike_walk⟩
  | .list ps => ⟨_, rfl, alikeParts_walk ps⟩
  | .node _ ps => ⟨_, rfl, alikeParts_walk ps⟩

theorem alikeParts_walk : ∀ ps, alikeParts c ps (walkParts w ps).run
  | [] => rfl
  | p :: ps => ⟨_, _, rfl, p.alike_walk, alikeParts_walk ps⟩

end

/-! ## So does a change of the targets before the walk -/

variable {u : Ident → Ident → Prop} {f : Ident → Id Ident} (h : ∀ i, u i (f i).run)
include h

mutual

theorem TableWithJoins.alike_mapUsing : ∀ t : TableWithJoins,
    t.alike c u ((t.mapUsing f).run.walk w false).run
  | .mk relation joins => ⟨_, _, rfl, relation.alike_mapNested, alikeJoins_mapUsing joins⟩

theorem TableFactor.alike_mapNested : ∀ t : TableFactor,
    t.alike c u ((t.mapNested f).run.walk w false).run
  | .table n a details =>
    ⟨_, _, _, rfl, alikeName_walk hc hc.relation n, a.alike_walk hc hc.source,
      alikeParts_walk hc details⟩
  | .derived _ q a => ⟨_, _, rfl, q.alike_walk hc, a.alike_walk hc hc.source⟩
  | .nested j a => ⟨_, _, rfl, j.alike_mapUsing, a.alike_walk hc fun _ => rfl⟩
  | .form _ ps => ⟨_, rfl, alikeParts_walk hc ps⟩

theorem alikeJoins_mapUsing : ∀ js,
    alikeJoins c u js (walkJoins w false (mapJoinsUsing f js).run).run
  | [] => rfl
  | j :: js => ⟨_, _, rfl, j.alike_mapUsing, alikeJoins_mapUsing js⟩

theorem Join.alike_mapUsing : ∀ j : Join, j.alike c u ((j.mapUsing f).run.walk w false).run
  | .constrained relation _ _ on => ⟨_, _, rfl, relation.alike_mapNested, on.alike_mapUsing⟩
  | .asOf relation _ condition on =>
    ⟨_, _, _, rfl, relation.alike_mapNested, condition.alike_walk hc, on.alike_mapUsing⟩
  | .apply relation _ _ => ⟨_, rfl, relation.alike_mapNested⟩

theorem JoinConstraint.alike_mapUsing : ∀ o : JoinConstraint,
    o.alike c u ((o.mapUsing f).run.walk w false).run
  | .on condition => ⟨_, rfl, condition.alike_walk hc⟩
  | .using names => ⟨_, rfl, alikeSites_walk hc h names⟩
  | .natural => rfl
  | .absent => rfl

end

theorem Target.alike_mapColumns (t : Target) : t.alike c u ((t.mapColumns f).run.walk w).run := by
  cases t with
  | name n => exact ⟨_, rfl, alikeSite_walk hc h n⟩
  | tuple ns => exact ⟨_, rfl, alikeSites_walk hc h ns⟩

theorem alikeAssignments_mapAssigned (as : List Assignment) :
    alikeAssignments c u as (walkAssignments w (mapAssigned f as).run).run := by
  induction as with
  | nil => rfl
  | cons a as ih =>
    cases a with
    | mk target value =>
      have ha : (Assignment.mk target value).alike c u
          (((Assignment.mk target value).mapTarget f).run.walk w).run :=
        ⟨_, _, rfl, target.alike_mapColumns hc h, value.alike_walk hc⟩
      exact ⟨_, _, rfl, ha, ih⟩

omit hc in
theorem forall₂_mapEach (is : List Ident) : List.Forall₂ u is (mapEach f is).run := by
  induction is with
  | nil => exact List.Forall₂.nil
  | cons i is ih => exact List.Forall₂.cons (h i) ih

theorem ConflictTarget.alike_mapTargets (t : ConflictTarget) :
    t.alike c u ((t.mapTargets f).run.walk w).run := by
  cases t with
  | absent => rfl
  | columns is => exact ⟨_, rfl, forall₂_mapEach h is⟩
  | constraint n => exact ⟨_, rfl, alikeName_walk hc (fun _ => rfl) n⟩

theorem OnInsert.alike_mapTargets (o : OnInsert) :
    o.alike c u ((o.mapTargets f).run.walk w).run := by
  cases o with
  | absent => rfl
  | duplicateKey assignments => exact ⟨_, rfl, alikeAssignments_mapAssigned hc h assignments⟩
  | conflictNothing target => exact ⟨_, rfl, target.alike_mapTargets hc h⟩
  | conflictUpdate target assignments condition =>
    exact ⟨_, _, _, rfl, target.alike_mapTargets hc h,
      alikeAssignments_mapAssigned hc h assignments, condition.alike_walk hc⟩

theorem alikeTables_mapUsing (ts : List TableWithJoins) : alikeTables c u ts
    (walkTables w false (mapEach (TableWithJoins.mapUsing f) ts).run).run := by
  induction ts with
  | nil => rfl
  | cons t ts ih => exact ⟨_, _, rfl, t.alike_mapUsing hc h, ih⟩

theorem TableClause.alike_mapUsing (t : TableClause) :
    t.alike c u ((t.mapUsing f).run.walk w).run := by
  cases t with
  | absent => rfl
  | present role tables => exact ⟨_, rfl, alikeTables_mapUsing hc h tables⟩

/-- A statement stays alike when its targets are changed and the rest is walked. -/
theorem Statement.alike_mapTargets (s : Statement) :
    s.alike c u ((s.mapTargets f).run.walk w).run := by
  cases s with
  | query q => exact ⟨_, rfl, q.alike_walk hc⟩
  | insert head columns middle on clauses =>
    exact ⟨_, _, _, _, _, rfl, alikeParts_walk hc head, forall₂_mapEach h columns,
      alikeParts_walk hc middle, on.alike_mapTargets hc h, alikeParts_walk hc clauses⟩
  | update head table assignments source clauses =>
    exact ⟨_, _, _, _, _, rfl, alikeParts_walk hc head, table.alike_mapUsing hc h,
      alikeAssignments_mapAssigned hc h assignments, source.alike_mapUsing hc h,
      alikeParts_walk hc clauses⟩
  | delete head source others clauses =>
    exact ⟨_, _, _, _, rfl, alikeParts_walk hc head, source.alike_mapUsing hc h,
      others.alike_mapUsing hc h, alikeParts_walk hc clauses⟩
  | other form parts => exact ⟨_, rfl, alikeParts_walk hc parts⟩

end

end ColumnMask.Sql
