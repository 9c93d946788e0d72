-- What walks of two trees of one shape meet. They meet as many things, one beside the
-- other, and each is to its counterpart as the change says. So the columns of the two
-- trees stand beside each other as well.
import ColumnMask.Proofs.Alike

namespace ColumnMask.Sql

variable {c : Change}

/-! ## Counterparts -/

/-- Two visits of one kind, at places that are alike. -/
inductive Visit.Alike (c : Change) : Visit → Visit → Prop where
  | enter {b b' : Body} (h : b.alike c b') : Alike c (.enter b) (.enter b')
  | lone {i j : Ident} (h : c.lone i j) : Alike c (.lone i) (.lone j)
  | last {i j : Ident} (h : c.last i j) : Alike c (.last i) (.last j)
  | qualifier {i j : Ident} (h : c.qualifier i j) : Alike c (.qualifier i) (.qualifier j)
  | relation {i j : Ident} (h : c.relation i j) : Alike c (.relation i) (.relation j)
  | source {i j : Ident} (h : c.source i j) : Alike c (.source i) (.source j)
  | label {i j : Ident} (h : c.label i j) : Alike c (.label i) (.label j)
  | inner {s s' : Statement} (h : s.alike c Eq s') : Alike c (.inner s) (.inner s')

/-- Two lists of visits, one beside the other. -/
abbrev Counterparts (c : Change) : List Visit → List Visit → Prop := List.Forall₂ (Visit.Alike c)

theorem Counterparts.append {vs vs' ws ws' : List Visit} (hv : Counterparts c vs vs')
    (hw : Counterparts c ws ws') : Counterparts c (vs ++ ws) (vs' ++ ws') :=
  List.rel_append hv hw

theorem Counterparts.one {v v' : Visit} (h : v.Alike c v') : Counterparts c [v] [v'] :=
  .cons h .nil

/-- Identifiers of which one may stand for the other are met as counterparts. -/
def Change.Marks (c : Change) (r : Ident → Ident → Prop) (on : Ident → List Visit) : Prop :=
  ∀ i j, r i j → Counterparts c (on i) (on j)

theorem marks_unmet (r : Ident → Ident → Prop) : c.Marks r unmet := fun _ _ _ => .nil

theorem marks_relation : c.Marks c.relation atRelation := fun _ _ h => .one (.relation h)

theorem marks_source : c.Marks c.source atSource := fun _ _ h => .one (.source h)

theorem marks_label : c.Marks c.label atLabel := fun _ _ h => .one (.label h)

/-! ## The visits of trees that are alike -/

theorem alikeIdents.visits : ∀ {is js}, alikeIdents c is js →
    Counterparts c (visitsOfIdents is) (visitsOfIdents js)
  | [], _, rfl => .nil
  | [_], _, ⟨_, rfl, h⟩ => .one (.last h)
  | _ :: k :: is, _, ⟨j, js, rfl, hq, h⟩ => by
    have ih := h.visits
    -- What stands for two parts or more is again two parts or more.
    cases js with
    | nil => cases is <;> simp [alikeIdents] at h
    | cons l ls => exact .cons (.qualifier hq) ih

mutual

theorem NamePart.alike.visits {r : Ident → Ident → Prop} {on : Ident → List Visit}
    (hr : c.Marks r on) : ∀ {p q : NamePart}, p.alike c r q →
    Counterparts c (p.visits on) (q.visits on)
  | .ident _, _, ⟨_, rfl, h⟩ => hr _ _ h
  | .call _ _, _, ⟨_, rfl, h⟩ => h.visits
termination_by structural p => p

theorem alikeName.visits {r : Ident → Ident → Prop} {on : Ident → List Visit}
    (hr : c.Marks r on) : ∀ {n m}, alikeName c r n m →
    Counterparts c (visitsOfName on n) (visitsOfName on m)
  | [], _, rfl => .nil
  | _ :: _, _, ⟨_, _, rfl, h, hs⟩ => (h.visits hr).append (hs.visits hr)
termination_by structural p => p

theorem alikeSite.visits {u : Ident → Ident → Prop} : ∀ {n m}, alikeSite c u n m →
    Counterparts c (visitsOfName unmet n) (visitsOfName unmet m)
  | [], _, rfl => .nil
  | [_], _, ⟨_, rfl, h⟩ => (h.visits (marks_unmet u)).append .nil
  | _ :: _ :: _, _, ⟨_, _, rfl, h, hs⟩ =>
    (h.visits (marks_unmet Eq)).append hs.visits
termination_by structural p => p

theorem alikeSites.visits {u : Ident → Ident → Prop} : ∀ {ns ms}, alikeSites c u ns ms →
    Counterparts c (visitsOfNames ns) (visitsOfNames ms)
  | [], _, rfl => .nil
  | _ :: _, _, ⟨_, _, rfl, h, hs⟩ => h.visits.append hs.visits
termination_by structural p => p

theorem Expr.alike.visits : ∀ {e e' : Expr}, e.alike c e' → Counterparts c e.visits e'.visits
  | .column _, _, ⟨_, rfl, h⟩ => .one (.lone h)
  | .qualified _, _, ⟨_, rfl, h⟩ => h.visits
  | .form _ _, _, ⟨_, rfl, h⟩ => h.visits
termination_by structural p => p

theorem Query.alike.visits : ∀ {q q' : Query}, q.alike c q' → Counterparts c q.visits q'.visits
  | .mk _ _ _, _, ⟨_, _, _, rfl, hctes, hbody, hclauses⟩ =>
    .cons (.enter hbody) ((hctes.visits.append hbody.visits).append hclauses.visits)
termination_by structural p => p

theorem Body.alike.visits : ∀ {b b' : Body}, b.alike c b' → Counterparts c b.visits b'.visits
  | .select _, _, ⟨_, rfl, h⟩ => h.visits
  | .query _, _, ⟨_, rfl, h⟩ => h.visits
  | .setOperation _ _ _ _, _, ⟨_, _, _, rfl, hl, hq, hr⟩ =>
    (hl.visits.append hq.visits).append hr.visits
  | .statement _, _, ⟨_, rfl, h⟩ => .cons (.inner h) h.visits
  | .form _ _, _, ⟨_, rfl, h⟩ => h.visits
termination_by structural p => p

theorem Select.alike.visits : ∀ {s s' : Select}, s.alike c s' →
    Counterparts c s.visits s'.visits
  | .mk _ _ _ _ _ _ _, _, ⟨_, _, _, _, _, rfl, hhead, hitems, hmiddle, htables, hclauses⟩ =>
    (((hhead.visits.append (hitems.visits marks_label)).append hmiddle.visits).append
      htables.visits).append hclauses.visits
termination_by structural p => p

theorem SelectItem.alike.visits {r : Ident → Ident → Prop} {on : Ident → List Visit}
    (hr : c.Marks r on) : ∀ {i j : SelectItem}, i.alike c r j →
    Counterparts c (i.visits on) (j.visits on)
  | .plain _, _, ⟨_, rfl, h⟩ => h.visits
  | .aliased _ _, _, ⟨_, _, rfl, hl, h⟩ => (hr _ _ hl).append h.visits
  | .form _ _, _, ⟨_, rfl, h⟩ => h.visits
termination_by structural p => p

theorem alikeItems.visits {r : Ident → Ident → Prop} {on : Ident → List Visit}
    (hr : c.Marks r on) : ∀ {is js}, alikeItems c r is js →
    Counterparts c (visitsOfItems on is) (visitsOfItems on js)
  | [], _, rfl => .nil
  | _ :: _, _, ⟨_, _, rfl, h, hs⟩ => (h.visits hr).append (hs.visits hr)
termination_by structural p => p

theorem Alias.alike.visits {r : Ident → Ident → Prop} {on : Ident → List Visit}
    (hr : c.Marks r on) : ∀ {a b : Alias}, a.alike c r b →
    Counterparts c (a.visits on) (b.visits on)
  | .absent, _, rfl => .nil
  | .named _ _ _, _, ⟨_, _, rfl, hn, h⟩ => (hr _ _ hn).append h.visits
termination_by structural p => p

theorem TableFactor.alike.visits {u : Ident → Ident → Prop} : ∀ {t t' : TableFactor},
    t.alike c u t' → Counterparts c t.visits t'.visits
  | .table _ _ _, _, ⟨_, _, _, rfl, hn, ha, h⟩ =>
    ((hn.visits marks_relation).append (ha.visits marks_source)).append
      h.visits
  | .derived _ _ _, _, ⟨_, _, rfl, h, ha⟩ =>
    h.visits.append (ha.visits marks_source)
  | .nested _ _, _, ⟨_, _, rfl, h, ha⟩ =>
    h.visits.append (ha.visits (marks_unmet Eq))
  | .form _ _, _, ⟨_, rfl, h⟩ => h.visits
termination_by structural p => p

theorem TableWithJoins.alike.visits {u : Ident → Ident → Prop} : ∀ {t t' : TableWithJoins},
    t.alike c u t' → Counterparts c t.visits t'.visits
  | .mk _ _, _, ⟨_, _, rfl, h, hs⟩ => h.visits.append hs.visits
termination_by structural p => p

theorem alikeTables.visits {u : Ident → Ident → Prop} : ∀ {ts ts'}, alikeTables c u ts ts' →
    Counterparts c (visitsOfTables ts) (visitsOfTables ts')
  | [], _, rfl => .nil
  | _ :: _, _, ⟨_, _, rfl, h, hs⟩ => h.visits.append hs.visits
termination_by structural p => p

theorem Join.alike.visits {u : Ident → Ident → Prop} : ∀ {j k : Join}, j.alike c u k →
    Counterparts c j.visits k.visits
  | .constrained _ _ _ _, _, ⟨_, _, rfl, h, hon⟩ =>
    h.visits.append hon.visits
  | .asOf _ _ _ _, _, ⟨_, _, _, rfl, h, hcond, hon⟩ =>
    (h.visits.append hcond.visits).append
      hon.visits
  | .apply _ _ _, _, ⟨_, rfl, h⟩ => h.visits
termination_by structural p => p

theorem alikeJoins.visits {u : Ident → Ident → Prop} : ∀ {js ks}, alikeJoins c u js ks →
    Counterparts c (visitsOfJoins js) (visitsOfJoins ks)
  | [], _, rfl => .nil
  | _ :: _, _, ⟨_, _, rfl, h, hs⟩ => h.visits.append hs.visits
termination_by structural p => p

theorem JoinConstraint.alike.visits {u : Ident → Ident → Prop} : ∀ {o o' : JoinConstraint},
    o.alike c u o' → Counterparts c o.visits o'.visits
  | .on _, _, ⟨_, rfl, h⟩ => h.visits
  | .using _, _, ⟨_, rfl, h⟩ => h.visits
  | .natural, _, rfl => .nil
  | .absent, _, rfl => .nil
termination_by structural p => p

theorem Target.alike.visits {u : Ident → Ident → Prop} : ∀ {t t' : Target}, t.alike c u t' →
    Counterparts c t.visits t'.visits
  | .name _, _, ⟨_, rfl, h⟩ => h.visits
  | .tuple _, _, ⟨_, rfl, h⟩ => h.visits
termination_by structural p => p

theorem Assignment.alike.visits {u : Ident → Ident → Prop} : ∀ {a b : Assignment},
    a.alike c u b → Counterparts c a.visits b.visits
  | .mk _ _, _, ⟨_, _, rfl, ht, h⟩ => ht.visits.append h.visits
termination_by structural p => p

theorem alikeAssignments.visits {u : Ident → Ident → Prop} : ∀ {as bs},
    alikeAssignments c u as bs →
    Counterparts c (visitsOfAssignments as) (visitsOfAssignments bs)
  | [], _, rfl => .nil
  | _ :: _, _, ⟨_, _, rfl, h, hs⟩ =>
    h.visits.append hs.visits
termination_by structural p => p

theorem ConflictTarget.alike.visits {u : Ident → Ident → Prop} : ∀ {t t' : ConflictTarget},
    t.alike c u t' → Counterparts c t.visits t'.visits
  | .absent, _, rfl => .nil
  | .columns _, _, ⟨_, rfl, _⟩ => .nil
  | .constraint _, _, ⟨_, rfl, h⟩ => h.visits (marks_unmet Eq)
termination_by structural p => p

theorem OnInsert.alike.visits {u : Ident → Ident → Prop} : ∀ {o o' : OnInsert}, o.alike c u o' →
    Counterparts c o.visits o'.visits
  | .absent, _, rfl => .nil
  | .duplicateKey _, _, ⟨_, rfl, h⟩ => h.visits
  | .conflictNothing _, _, ⟨_, rfl, h⟩ => h.visits
  | .conflictUpdate _ _ _, _, ⟨_, _, _, rfl, ht, hs, hcond⟩ =>
    (ht.visits.append hs.visits).append
      hcond.visits
termination_by structural p => p

theorem TableClause.alike.visits {u : Ident → Ident → Prop} : ∀ {t t' : TableClause},
    t.alike c u t' → Counterparts c t.visits t'.visits
  | .absent, _, rfl => .nil
  | .present _ _, _, ⟨_, rfl, h⟩ => h.visits
termination_by structural p => p

/-- Walks of statements that are alike meet counterparts, whatever the targets are. -/
theorem Statement.alike.visits {u : Ident → Ident → Prop} : ∀ {s s' : Statement},
    s.alike c u s' → Counterparts c s.visits s'.visits
  | .query _, _, ⟨_, rfl, h⟩ => h.visits
  | .insert _ _ _ _ _, _, ⟨_, _, _, _, _, rfl, hhead, _, hmiddle, hon, hclauses⟩ =>
    ((hhead.visits.append hmiddle.visits).append
      hon.visits).append hclauses.visits
  | .update _ _ _ _ _, _, ⟨_, _, _, _, _, rfl, hhead, htable, hassigned, hsource, hclauses⟩ =>
    (((hhead.visits.append htable.visits).append
      hassigned.visits).append hsource.visits).append
      hclauses.visits
  | .delete _ _ _ _, _, ⟨_, _, _, _, rfl, hhead, hsource, hothers, hclauses⟩ =>
    ((hhead.visits.append hsource.visits).append
      hothers.visits).append hclauses.visits
  | .other _ _, _, ⟨_, rfl, h⟩ => h.visits
termination_by structural p => p

theorem Part.alike.visits : ∀ {p q : Part}, p.alike c q → Counterparts c p.visits q.visits
  | .absent, _, rfl => .nil
  | .flag _, _, rfl => .nil
  | .number _, _, rfl => .nil
  | .text _, _, rfl => .nil
  | .choice _ _, _, rfl => .nil
  | .value _, _, rfl => .nil
  | .token _, _, rfl => .nil
  | .span _, _, rfl => .nil
  | .ident _, _, rfl => .nil
  | .name _, _, ⟨_, rfl, h⟩ => h.visits (marks_unmet Eq)
  | .relation _, _, ⟨_, rfl, h⟩ => h.visits marks_relation
  | .expr _, _, ⟨_, rfl, h⟩ => h.visits
  | .query _, _, ⟨_, rfl, h⟩ => h.visits
  | .item _, _, ⟨_, rfl, h⟩ => h.visits (marks_unmet Eq)
  | .factor _, _, ⟨_, rfl, h⟩ => h.visits
  | .tables _, _, ⟨_, rfl, h⟩ => h.visits
  | .join _, _, ⟨_, rfl, h⟩ => h.visits
  | .assignment _, _, ⟨_, rfl, h⟩ => h.visits
  | .label _, _, ⟨_, rfl, h⟩ => h.visits (marks_unmet Eq)
  | .statement _, _, ⟨_, rfl, h⟩ => .cons (.inner h) h.visits
  | .list _, _, ⟨_, rfl, h⟩ => h.visits
  | .node _ _, _, ⟨_, rfl, h⟩ => h.visits
termination_by structural p => p

theorem alikeParts.visits : ∀ {ps qs}, alikeParts c ps qs →
    Counterparts c (visitsOfParts ps) (visitsOfParts qs)
  | [], _, rfl => .nil
  | _ :: _, _, ⟨_, _, rfl, h, hs⟩ => h.visits.append hs.visits
termination_by structural p => p

end

/-! ## The targets of trees that are alike -/

variable {u : Ident → Ident → Prop}

theorem eq_of_forall₂ {α : Type} {as bs : List α} (h : List.Forall₂ Eq as bs) : bs = as := by
  rw [List.forall₂_eq_eq_eq] at h
  exact h.symm

theorem alikeSite.last : ∀ {n m : ObjectName}, alikeSite c u n m →
    Option.Rel u (lastIdent n) (lastIdent m)
  | [], _, rfl => .none
  | [.ident _], _, ⟨_, rfl, _, rfl, h⟩ => .some h
  | [.call _ _], _, ⟨_, rfl, _, rfl, _⟩ => .none
  | _ :: o :: ps, _, ⟨q, qs, rfl, _, h⟩ => by
    have ih := h.last
    cases qs with
    | nil => cases ps <;> simp [alikeSite] at h
    | cons r rs =>
      rw [lastIdent, lastIdent]
      exact ih

theorem alikeSites.forall₂ : ∀ {ns ms : List ObjectName}, alikeSites c u ns ms →
    List.Forall₂ (alikeSite c u) ns ms
  | [], _, rfl => .nil
  | _ :: _, _, ⟨_, _, rfl, h, hs⟩ => .cons h (hs.forall₂)

theorem alikeSites.lasts {ns ms : List ObjectName} (h : alikeSites c u ns ms) :
    List.Forall₂ u (ns.filterMap lastIdent) (ms.filterMap lastIdent) :=
  List.rel_filterMap (fun _ _ hn => hn.last) (h.forall₂)

theorem JoinConstraint.alike.usingColumns : ∀ {o o' : JoinConstraint}, o.alike c u o' →
    List.Forall₂ u o.usingColumns o'.usingColumns
  | .on _, _, ⟨_, rfl, _⟩ => .nil
  | .using _, _, ⟨_, rfl, h⟩ => h.lasts
  | .natural, _, rfl => .nil
  | .absent, _, rfl => .nil

mutual

theorem TableWithJoins.alike.usingColumns : ∀ {t t' : TableWithJoins}, t.alike c u t' →
    List.Forall₂ u t.usingColumns t'.usingColumns
  | .mk _ _, _, ⟨_, _, rfl, h, hs⟩ =>
    List.rel_append h.nestedColumns hs.usingColumns
termination_by structural t => t

theorem TableFactor.alike.nestedColumns : ∀ {t t' : TableFactor}, t.alike c u t' →
    List.Forall₂ u t.nestedColumns t'.nestedColumns
  | .table _ _ _, _, ⟨_, _, _, rfl, _⟩ => .nil
  | .derived _ _ _, _, ⟨_, _, rfl, _⟩ => .nil
  | .nested _ _, _, ⟨_, _, rfl, h, _⟩ => h.usingColumns
  | .form _ _, _, ⟨_, rfl, _⟩ => .nil
termination_by structural t => t

theorem alikeJoins.usingColumns : ∀ {js ks}, alikeJoins c u js ks →
    List.Forall₂ u (joinsUsingColumns js) (joinsUsingColumns ks)
  | [], _, rfl => .nil
  | _ :: _, _, ⟨_, _, rfl, h, hs⟩ =>
    List.rel_append h.usingColumns hs.usingColumns
termination_by structural js => js

theorem Join.alike.usingColumns : ∀ {j k : Join}, j.alike c u k →
    List.Forall₂ u j.usingColumns k.usingColumns
  | .constrained _ _ _ _, _, ⟨_, _, rfl, h, hon⟩ =>
    List.rel_append h.nestedColumns hon.usingColumns
  | .asOf _ _ _ _, _, ⟨_, _, _, rfl, h, _, hon⟩ =>
    List.rel_append h.nestedColumns hon.usingColumns
  | .apply _ _ _, _, ⟨_, rfl, h⟩ => h.nestedColumns
termination_by structural j => j

end

theorem alikeTables.usingColumns : ∀ {ts ts'}, alikeTables c u ts ts' →
    List.Forall₂ u (ts.flatMap TableWithJoins.usingColumns)
      (ts'.flatMap TableWithJoins.usingColumns)
  | [], _, rfl => .nil
  | _ :: _, _, ⟨_, _, rfl, h, hs⟩ => by
    rw [List.flatMap_cons, List.flatMap_cons]
    exact List.rel_append h.usingColumns hs.usingColumns

/-- Queries whose bodies are alike are entered with columns one beside the other. -/
theorem Body.alike.usingColumns : ∀ {b b' : Body}, b.alike c b' →
    List.Forall₂ c.joined b.usingColumns b'.usingColumns
  | .select (.mk _ _ _ _ _ _ _), _, ⟨_, rfl, _, _, _, _, _, rfl, _, _, _, h, _⟩ => by
    rw [Body.usingColumns_select, Body.usingColumns_select]
    exact h.usingColumns
  | .query _, _, ⟨_, rfl, _⟩ => .nil
  | .setOperation _ _ _ _, _, ⟨_, _, _, rfl, hl, _, hr⟩ => by
    rw [Body.usingColumns_setOperation, Body.usingColumns_setOperation]
    exact List.rel_append hl.usingColumns hr.usingColumns
  | .statement _, _, ⟨_, rfl, _⟩ => .nil
  | .form _ _, _, ⟨_, rfl, _⟩ => .nil
termination_by structural b => b

theorem forall₂_toList {a b : Option Ident} (h : Option.Rel u a b) :
    List.Forall₂ u a.toList b.toList := by
  cases h with
  | some h => exact .cons h .nil
  | none => exact .nil

theorem Target.alike.columns {t t' : Target} (h : t.alike c u t') :
    List.Forall₂ u t.columns t'.columns := by
  cases t with
  | name n =>
    obtain ⟨m, rfl, hn⟩ := h
    exact forall₂_toList hn.last
  | tuple ns =>
    obtain ⟨ms, rfl, hs⟩ := h
    exact hs.lasts

theorem alikeAssignments.assignedColumns {as bs : List Assignment}
    (h : alikeAssignments c u as bs) :
    List.Forall₂ u (assignedColumns as) (assignedColumns bs) := by
  induction as generalizing bs with
  | nil =>
    obtain rfl := h
    exact .nil
  | cons a as ih =>
    obtain ⟨b, bs, rfl, ha, hs⟩ := h
    cases a with
    | mk target value =>
      obtain ⟨target', value', rfl, ht, _⟩ := ha
      exact List.rel_append ht.columns (ih hs)

theorem ConflictTarget.alike.targets {t t' : ConflictTarget} (h : t.alike c u t') :
    List.Forall₂ u t.targets t'.targets := by
  cases t with
  | absent =>
    obtain rfl := h
    exact .nil
  | columns is =>
    obtain ⟨js, rfl, hs⟩ := h
    exact hs
  | constraint n =>
    obtain ⟨m, rfl, _⟩ := h
    exact .nil

theorem OnInsert.alike.targets {o o' : OnInsert} (h : o.alike c u o') :
    List.Forall₂ u o.targets o'.targets := by
  cases o with
  | absent =>
    obtain rfl := h
    exact .nil
  | duplicateKey assignments =>
    obtain ⟨assignments', rfl, hs⟩ := h
    exact hs.assignedColumns
  | conflictNothing target =>
    obtain ⟨target', rfl, ht⟩ := h
    exact ht.targets
  | conflictUpdate target assignments condition =>
    obtain ⟨target', assignments', condition', rfl, ht, hs, _⟩ := h
    exact List.rel_append ht.targets hs.assignedColumns

theorem TableClause.alike.usingColumns {t t' : TableClause} (h : t.alike c u t') :
    List.Forall₂ u t.usingColumns t'.usingColumns := by
  cases t with
  | absent =>
    obtain rfl := h
    exact .nil
  | present role tables =>
    obtain ⟨tables', rfl, hs⟩ := h
    exact hs.usingColumns

/-- The targets of statements that are alike stand one beside the other. -/
theorem Statement.alike.targets {s s' : Statement} (h : s.alike c u s') :
    List.Forall₂ u s.targets s'.targets := by
  cases s with
  | query q =>
    obtain ⟨q', rfl, _⟩ := h
    exact .nil
  | insert head columns middle on clauses =>
    obtain ⟨head', columns', middle', on', clauses', rfl, _, hcolumns, _, hon, _⟩ := h
    exact List.rel_append hcolumns hon.targets
  | update head table assignments source clauses =>
    obtain ⟨head', table', assignments', source', clauses', rfl, _, htable, hs, hsource, _⟩ := h
    exact List.rel_append (List.rel_append hs.assignedColumns htable.usingColumns)
      hsource.usingColumns
  | delete head source others clauses =>
    obtain ⟨head', source', others', clauses', rfl, _, hsource, hothers, _⟩ := h
    exact List.rel_append hsource.usingColumns hothers.usingColumns
  | other form parts =>
    obtain ⟨parts', rfl, _⟩ := h
    exact .nil

/-! ## The columns of trees that are alike -/

/-- A change that puts at column sites only what `r` says, and at other places no column. -/
structure Change.AtSites (c : Change) (r : Ident → Ident → Prop) : Prop where
  lone : ∀ i j, c.lone i j → i.isDefault ∧ j.isDefault ∨ ¬ i.isDefault ∧ ¬ j.isDefault ∧ r i j
  last : ∀ i j, c.last i j → r i j
  joined : ∀ i j, c.joined i j → r i j

variable {r : Ident → Ident → Prop}

theorem Visit.Alike.sites (hr : c.AtSites r) {v v' : Visit} (h : v.Alike c v') :
    List.Forall₂ r v.sites v'.sites := by
  cases h with
  | enter h => exact h.usingColumns.imp hr.joined
  | @lone i j h =>
    simp only [Visit.sites]
    rcases hr.lone i j h with ⟨hi, hj⟩ | ⟨hi, hj, hij⟩
    · rw [if_pos hi, if_pos hj]
      exact .nil
    · rw [if_neg hi, if_neg hj]
      exact .cons hij .nil
  | last h => exact .cons (hr.last _ _ h) .nil
  | qualifier h => exact .nil
  | relation h => exact .nil
  | source h => exact .nil
  | label h => exact .nil
  | inner h => exact .nil

/-- The columns of statements that are alike stand one beside the other. -/
theorem Statement.alike.siteIdents (hr : c.AtSites r) (hu : ∀ i j, u i j → r i j)
    {s s' : Statement} (h : s.alike c u s') : List.Forall₂ r s.siteIdents s'.siteIdents :=
  List.rel_append (h.targets.imp hu) (List.rel_flatMap h.visits fun _ _ hv => hv.sites hr)

end ColumnMask.Sql
