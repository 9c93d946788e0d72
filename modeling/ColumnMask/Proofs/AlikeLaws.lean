-- Laws of trees of one shape. A change may be weakened at the places that a walk meets, so
-- what is known of the columns of a tree may be added to it. Two trees that are alike to a
-- third one are alike to each other.
import ColumnMask.Proofs.Counterparts

set_option linter.unusedSectionVars false

namespace ColumnMask.Sql

/-! ## Changes that imply others -/

/-- For the identifiers of a list the first relation implies the second. -/
def ImpliesOn (is : List Ident) (r r' : Ident → Ident → Prop) : Prop :=
  ∀ i ∈ is, ∀ j, r i j → r' i j

/-- At a visit the first change allows only what the second one allows. -/
def Change.ImpliesAt (c d : Change) : Visit → Prop
  | .enter body => ImpliesOn body.usingColumns c.joined d.joined
  | .lone i => ImpliesOn [i] c.lone d.lone
  | .last i => ImpliesOn [i] c.last d.last
  | .qualifier i => ImpliesOn [i] c.qualifier d.qualifier
  | .relation i => ImpliesOn [i] c.relation d.relation
  | .source i => ImpliesOn [i] c.source d.source
  | .label i => ImpliesOn [i] c.label d.label
  | .inner _ => True

def Change.Implies (c d : Change) (vs : List Visit) : Prop := ∀ v ∈ vs, c.ImpliesAt d v

/-- Where the first change implies the second at the visits of an identifier, the first relation
implies the second. -/
def Change.ImpliesBy (c d : Change) (r r' : Ident → Ident → Prop) (on : Ident → List Visit) :
    Prop :=
  ∀ i, c.Implies d (on i) → ImpliesOn [i] r r'

section

variable {c d : Change}

theorem ImpliesOn.self {is : List Ident} {r : Ident → Ident → Prop} : ImpliesOn is r r :=
  fun _ _ _ h => h

theorem ImpliesOn.left {is js : List Ident} {r r' : Ident → Ident → Prop}
    (h : ImpliesOn (is ++ js) r r') : ImpliesOn is r r' :=
  fun i hi => h i (List.mem_append_left js hi)

theorem ImpliesOn.right {is js : List Ident} {r r' : Ident → Ident → Prop}
    (h : ImpliesOn (is ++ js) r r') : ImpliesOn js r r' :=
  fun i hi => h i (List.mem_append_right is hi)

theorem ImpliesOn.one {i j : Ident} {r r' : Ident → Ident → Prop} (h : ImpliesOn [i] r r')
    (hr : r i j) : r' i j :=
  h i (List.mem_singleton_self i) j hr

theorem ImpliesOn.forall₂ {r r' : Ident → Ident → Prop} {is js : List Ident}
    (h : ImpliesOn is r r') (hr : List.Forall₂ r is js) : List.Forall₂ r' is js := by
  have hs := (List.forall₂_and_left _ _).mpr ⟨h, hr⟩
  exact hs.imp fun i j hij => hij.1 j hij.2

theorem Change.Implies.left {vs ws : List Visit} (h : c.Implies d (vs ++ ws)) : c.Implies d vs :=
  fun v hv => h v (List.mem_append_left ws hv)

theorem Change.Implies.right {vs ws : List Visit} (h : c.Implies d (vs ++ ws)) : c.Implies d ws :=
  fun v hv => h v (List.mem_append_right vs hv)

theorem Change.Implies.head {v : Visit} {vs : List Visit} (h : c.Implies d (v :: vs)) :
    c.ImpliesAt d v :=
  h v (List.mem_cons_self ..)

theorem Change.Implies.tail {v : Visit} {vs : List Visit} (h : c.Implies d (v :: vs)) :
    c.Implies d vs :=
  fun w hw => h w (List.mem_cons_of_mem v hw)

theorem impliesBy_unmet : c.ImpliesBy d Eq Eq unmet := fun _ _ => .self

theorem impliesBy_relation : c.ImpliesBy d c.relation d.relation atRelation := fun _ h => h.head

theorem impliesBy_source : c.ImpliesBy d c.source d.source atSource := fun _ h => h.head

theorem impliesBy_label : c.ImpliesBy d c.label d.label atLabel := fun _ h => h.head

end

/-! ## A weaker change -/

theorem filterMap_lastIdent_cons (n : ObjectName) (ns : List ObjectName) :
    (n :: ns).filterMap lastIdent = (lastIdent n).toList ++ ns.filterMap lastIdent := by
  rw [List.filterMap_cons]
  cases lastIdent n <;> rfl

section

variable {c d : Change}

theorem alikeIdents.imp : ∀ {is js}, alikeIdents c is js → c.Implies d (visitsOfIdents is) →
    alikeIdents d is js
  | [], _, h, _ => h
  | [_], _, ⟨_, rfl, h⟩, hv => ⟨_, rfl, hv.head.one h⟩
  | _ :: _ :: _, _, ⟨_, _, rfl, hq, h⟩, hv => ⟨_, _, rfl, hv.head.one hq, h.imp hv.tail⟩

-- The USING columns of a SELECT block are weakened where its query is entered, so what is
-- known of them goes down from the query to the block.
mutual

theorem NamePart.alike.imp {r r' : Ident → Ident → Prop} {on : Ident → List Visit}
    (hr : c.ImpliesBy d r r' on) : ∀ {p q : NamePart}, p.alike c r q → c.Implies d (p.visits on) →
    p.alike d r' q
  | .ident i, _, ⟨_, rfl, h⟩, hv => ⟨_, rfl, (hr i hv).one h⟩
  | .call _ _, _, ⟨_, rfl, h⟩, hv => ⟨_, rfl, h.imp hv⟩
termination_by structural p => p

theorem alikeName.imp {r r' : Ident → Ident → Prop} {on : Ident → List Visit}
    (hr : c.ImpliesBy d r r' on) : ∀ {n m}, alikeName c r n m → c.Implies d (visitsOfName on n) →
    alikeName d r' n m
  | [], _, h, _ => h
  | _ :: _, _, ⟨_, _, rfl, h, hs⟩, hv => ⟨_, _, rfl, h.imp hr hv.left, hs.imp hr hv.right⟩
termination_by structural p => p

theorem alikeSite.imp {u u' : Ident → Ident → Prop} : ∀ {n m}, alikeSite c u n m →
    ImpliesOn (lastIdent n).toList u u' → c.Implies d (visitsOfName unmet n) → alikeSite d u' n m
  | [], _, h, _, _ => h
  | [.ident _], _, ⟨_, rfl, _, rfl, h⟩, hu, _ => ⟨_, rfl, _, rfl, hu.one h⟩
  | [.call _ _], _, ⟨_, rfl, _, rfl, h⟩, _, hv => ⟨_, rfl, _, rfl, h.imp hv.left⟩
  | _ :: _ :: _, _, ⟨_, _, rfl, h, hs⟩, hu, hv => by
    rw [lastIdent] at hu
    exact ⟨_, _, rfl, h.imp impliesBy_unmet hv.left, hs.imp hu hv.right⟩
termination_by structural p => p

theorem alikeSites.imp {u u' : Ident → Ident → Prop} : ∀ {ns ms}, alikeSites c u ns ms →
    ImpliesOn (ns.filterMap lastIdent) u u' → c.Implies d (visitsOfNames ns) →
    alikeSites d u' ns ms
  | [], _, h, _, _ => h
  | n :: ns, _, ⟨_, _, rfl, h, hs⟩, hu, hv => by
    rw [filterMap_lastIdent_cons] at hu
    exact ⟨_, _, rfl, h.imp hu.left hv.left, hs.imp hu.right hv.right⟩
termination_by structural p => p

theorem Expr.alike.imp : ∀ {e e' : Expr}, e.alike c e' → c.Implies d e.visits → e.alike d e'
  | .column _, _, ⟨_, rfl, h⟩, hv => ⟨_, rfl, hv.head.one h⟩
  | .qualified _, _, ⟨_, rfl, h⟩, hv => ⟨_, rfl, h.imp hv⟩
  | .form _ _, _, ⟨_, rfl, h⟩, hv => ⟨_, rfl, h.imp hv⟩
termination_by structural p => p

theorem Query.alike.imp : ∀ {q q' : Query}, q.alike c q' → c.Implies d q.visits → q.alike d q'
  | .mk _ _ _, _, ⟨_, _, _, rfl, hctes, hbody, hclauses⟩, hv =>
    ⟨_, _, _, rfl, hctes.imp hv.tail.left.left, hbody.imp hv.head hv.tail.left.right,
      hclauses.imp hv.tail.right⟩
termination_by structural p => p

theorem Body.alike.imp : ∀ {b b' : Body}, b.alike c b' →
    ImpliesOn b.usingColumns c.joined d.joined → c.Implies d b.visits → b.alike d b'
  | .select s, _, ⟨_, rfl, h⟩, hu, hv => ⟨_, rfl, h.imp (Body.usingColumns_select s ▸ hu) hv⟩
  | .query _, _, ⟨_, rfl, h⟩, _, hv => ⟨_, rfl, h.imp hv⟩
  | .setOperation _ _ _ _, _, ⟨_, _, _, rfl, hl, hq, hr⟩, hu, hv => by
    rw [Body.usingColumns_setOperation] at hu
    exact ⟨_, _, _, rfl, hl.imp hu.left hv.left.left, hq.imp hv.left.right,
      hr.imp hu.right hv.right⟩
  | .statement _, _, ⟨_, rfl, h⟩, _, hv => ⟨_, rfl, h.imp .self hv.tail⟩
  | .form _ _, _, ⟨_, rfl, h⟩, _, hv => ⟨_, rfl, h.imp hv⟩
termination_by structural p => p

theorem Select.alike.imp : ∀ {s s' : Select}, s.alike c s' →
    ImpliesOn (s.tables.flatMap TableWithJoins.usingColumns) c.joined d.joined →
    c.Implies d s.visits → s.alike d s'
  | .mk _ _ _ _ _ _ _, _, ⟨_, _, _, _, _, rfl, hhead, hitems, hmiddle, htables, hclauses⟩, hu, hv =>
    ⟨_, _, _, _, _, rfl, hhead.imp hv.left.left.left.left,
      hitems.imp impliesBy_label hv.left.left.left.right, hmiddle.imp hv.left.left.right,
      htables.imp hu hv.left.right, hclauses.imp hv.right⟩
termination_by structural p => p

theorem SelectItem.alike.imp {r r' : Ident → Ident → Prop} {on : Ident → List Visit}
    (hr : c.ImpliesBy d r r' on) : ∀ {i j : SelectItem}, i.alike c r j →
    c.Implies d (i.visits on) → i.alike d r' j
  | .plain _, _, ⟨_, rfl, h⟩, hv => ⟨_, rfl, h.imp hv⟩
  | .aliased _ l, _, ⟨_, _, rfl, hl, h⟩, hv => ⟨_, _, rfl, (hr l hv.left).one hl, h.imp hv.right⟩
  | .form _ _, _, ⟨_, rfl, h⟩, hv => ⟨_, rfl, h.imp hv⟩
termination_by structural p => p

theorem alikeItems.imp {r r' : Ident → Ident → Prop} {on : Ident → List Visit}
    (hr : c.ImpliesBy d r r' on) : ∀ {is js}, alikeItems c r is js →
    c.Implies d (visitsOfItems on is) → alikeItems d r' is js
  | [], _, h, _ => h
  | _ :: _, _, ⟨_, _, rfl, h, hs⟩, hv => ⟨_, _, rfl, h.imp hr hv.left, hs.imp hr hv.right⟩
termination_by structural p => p

theorem Alias.alike.imp {r r' : Ident → Ident → Prop} {on : Ident → List Visit}
    (hr : c.ImpliesBy d r r' on) : ∀ {a b : Alias}, a.alike c r b → c.Implies d (a.visits on) →
    a.alike d r' b
  | .absent, _, h, _ => h
  | .named _ i _, _, ⟨_, _, rfl, hn, h⟩, hv =>
    ⟨_, _, rfl, (hr i hv.left).one hn, h.imp hv.right⟩
termination_by structural p => p

theorem TableFactor.alike.imp {u u' : Ident → Ident → Prop} : ∀ {t t' : TableFactor},
    t.alike c u t' → ImpliesOn t.nestedColumns u u' → c.Implies d t.visits → t.alike d u' t'
  | .table _ _ _, _, ⟨_, _, _, rfl, hn, ha, h⟩, _, hv =>
    ⟨_, _, _, rfl, hn.imp impliesBy_relation hv.left.left,
      ha.imp impliesBy_source hv.left.right, h.imp hv.right⟩
  | .derived _ _ _, _, ⟨_, _, rfl, h, ha⟩, _, hv =>
    ⟨_, _, rfl, h.imp hv.left, ha.imp impliesBy_source hv.right⟩
  | .nested _ _, _, ⟨_, _, rfl, h, ha⟩, hu, hv =>
    ⟨_, _, rfl, h.imp hu hv.left, ha.imp impliesBy_unmet hv.right⟩
  | .form _ _, _, ⟨_, rfl, h⟩, _, hv => ⟨_, rfl, h.imp hv⟩
termination_by structural p => p

theorem TableWithJoins.alike.imp {u u' : Ident → Ident → Prop} : ∀ {t t' : TableWithJoins},
    t.alike c u t' → ImpliesOn t.usingColumns u u' → c.Implies d t.visits → t.alike d u' t'
  | .mk _ _, _, ⟨_, _, rfl, h, hs⟩, hu, hv =>
    ⟨_, _, rfl, h.imp hu.left hv.left, hs.imp hu.right hv.right⟩
termination_by structural p => p

theorem alikeTables.imp {u u' : Ident → Ident → Prop} : ∀ {ts ts'}, alikeTables c u ts ts' →
    ImpliesOn (ts.flatMap TableWithJoins.usingColumns) u u' → c.Implies d (visitsOfTables ts) →
    alikeTables d u' ts ts'
  | [], _, h, _, _ => h
  | _ :: _, _, ⟨_, _, rfl, h, hs⟩, hu, hv => by
    rw [List.flatMap_cons] at hu
    exact ⟨_, _, rfl, h.imp hu.left hv.left, hs.imp hu.right hv.right⟩
termination_by structural p => p

theorem Join.alike.imp {u u' : Ident → Ident → Prop} : ∀ {j k : Join}, j.alike c u k →
    ImpliesOn j.usingColumns u u' → c.Implies d j.visits → j.alike d u' k
  | .constrained _ _ _ _, _, ⟨_, _, rfl, h, hon⟩, hu, hv =>
    ⟨_, _, rfl, h.imp hu.left hv.left, hon.imp hu.right hv.right⟩
  | .asOf _ _ _ _, _, ⟨_, _, _, rfl, h, hcond, hon⟩, hu, hv =>
    ⟨_, _, _, rfl, h.imp hu.left hv.left.left, hcond.imp hv.left.right, hon.imp hu.right hv.right⟩
  | .apply _ _ _, _, ⟨_, rfl, h⟩, hu, hv => ⟨_, rfl, h.imp hu hv⟩
termination_by structural p => p

theorem alikeJoins.imp {u u' : Ident → Ident → Prop} : ∀ {js ks}, alikeJoins c u js ks →
    ImpliesOn (joinsUsingColumns js) u u' → c.Implies d (visitsOfJoins js) → alikeJoins d u' js ks
  | [], _, h, _, _ => h
  | _ :: _, _, ⟨_, _, rfl, h, hs⟩, hu, hv =>
    ⟨_, _, rfl, h.imp hu.left hv.left, hs.imp hu.right hv.right⟩
termination_by structural p => p

theorem JoinConstraint.alike.imp {u u' : Ident → Ident → Prop} : ∀ {o o' : JoinConstraint},
    o.alike c u o' → ImpliesOn o.usingColumns u u' → c.Implies d o.visits → o.alike d u' o'
  | .on _, _, ⟨_, rfl, h⟩, _, hv => ⟨_, rfl, h.imp hv⟩
  | .using _, _, ⟨_, rfl, h⟩, hu, hv => ⟨_, rfl, h.imp hu hv⟩
  | .natural, _, h, _, _ => h
  | .absent, _, h, _, _ => h
termination_by structural p => p

theorem Target.alike.imp {u u' : Ident → Ident → Prop} : ∀ {t t' : Target}, t.alike c u t' →
    ImpliesOn t.columns u u' → c.Implies d t.visits → t.alike d u' t'
  | .name _, _, ⟨_, rfl, h⟩, hu, hv => ⟨_, rfl, h.imp hu hv⟩
  | .tuple _, _, ⟨_, rfl, h⟩, hu, hv => ⟨_, rfl, h.imp hu hv⟩
termination_by structural p => p

theorem Assignment.alike.imp {u u' : Ident → Ident → Prop} : ∀ {a b : Assignment},
    a.alike c u b → ImpliesOn a.target.columns u u' → c.Implies d a.visits → a.alike d u' b
  | .mk _ _, _, ⟨_, _, rfl, ht, h⟩, hu, hv =>
    ⟨_, _, rfl, ht.imp hu hv.left, h.imp hv.right⟩
termination_by structural p => p

theorem alikeAssignments.imp {u u' : Ident → Ident → Prop} : ∀ {as bs},
    alikeAssignments c u as bs → ImpliesOn (assignedColumns as) u u' →
    c.Implies d (visitsOfAssignments as) → alikeAssignments d u' as bs
  | [], _, h, _, _ => h
  | _ :: _, _, ⟨_, _, rfl, h, hs⟩, hu, hv => by
    rw [assignedColumns, List.flatMap_cons] at hu
    exact ⟨_, _, rfl, h.imp hu.left hv.left, hs.imp hu.right hv.right⟩
termination_by structural p => p

theorem ConflictTarget.alike.imp {u u' : Ident → Ident → Prop} : ∀ {t t' : ConflictTarget},
    t.alike c u t' → ImpliesOn t.targets u u' → c.Implies d t.visits → t.alike d u' t'
  | .absent, _, h, _, _ => h
  | .columns _, _, ⟨_, rfl, h⟩, hu, _ => ⟨_, rfl, hu.forall₂ h⟩
  | .constraint _, _, ⟨_, rfl, h⟩, _, hv => ⟨_, rfl, h.imp impliesBy_unmet hv⟩
termination_by structural p => p

theorem OnInsert.alike.imp {u u' : Ident → Ident → Prop} : ∀ {o o' : OnInsert}, o.alike c u o' →
    ImpliesOn o.targets u u' → c.Implies d o.visits → o.alike d u' o'
  | .absent, _, h, _, _ => h
  | .duplicateKey _, _, ⟨_, rfl, h⟩, hu, hv => ⟨_, rfl, h.imp hu hv⟩
  | .conflictNothing _, _, ⟨_, rfl, h⟩, hu, hv => ⟨_, rfl, h.imp hu hv⟩
  | .conflictUpdate _ _ _, _, ⟨_, _, _, rfl, ht, hs, hcond⟩, hu, hv =>
    ⟨_, _, _, rfl, ht.imp hu.left hv.left.left, hs.imp hu.right hv.left.right,
      hcond.imp hv.right⟩
termination_by structural p => p

theorem TableClause.alike.imp {u u' : Ident → Ident → Prop} : ∀ {t t' : TableClause},
    t.alike c u t' → ImpliesOn t.usingColumns u u' → c.Implies d t.visits → t.alike d u' t'
  | .absent, _, h, _, _ => h
  | .present _ _, _, ⟨_, rfl, h⟩, hu, hv => ⟨_, rfl, h.imp hu hv⟩
termination_by structural p => p

/-- Statements stay alike when the change is weakened at what a walk of the first one meets. -/
theorem Statement.alike.imp {u u' : Ident → Ident → Prop} : ∀ {s s' : Statement},
    s.alike c u s' → ImpliesOn s.targets u u' → c.Implies d s.visits → s.alike d u' s'
  | .query _, _, ⟨_, rfl, h⟩, _, hv => ⟨_, rfl, h.imp hv⟩
  | .insert _ _ _ _ _, _, ⟨_, _, _, _, _, rfl, hhead, hcolumns, hmiddle, hon, hclauses⟩, hu, hv =>
    ⟨_, _, _, _, _, rfl, hhead.imp hv.left.left.left, hu.left.forall₂ hcolumns,
      hmiddle.imp hv.left.left.right, hon.imp hu.right hv.left.right, hclauses.imp hv.right⟩
  | .update _ _ _ _ _, _, ⟨_, _, _, _, _, rfl, hhead, htable, hassigned, hsource, hclauses⟩, hu,
      hv =>
    ⟨_, _, _, _, _, rfl, hhead.imp hv.left.left.left.left,
      htable.imp hu.left.right hv.left.left.left.right,
      hassigned.imp hu.left.left hv.left.left.right, hsource.imp hu.right hv.left.right,
      hclauses.imp hv.right⟩
  | .delete _ _ _ _, _, ⟨_, _, _, _, rfl, hhead, hsource, hothers, hclauses⟩, hu, hv =>
    ⟨_, _, _, _, rfl, hhead.imp hv.left.left.left, hsource.imp hu.left hv.left.left.right,
      hothers.imp hu.right hv.left.right, hclauses.imp hv.right⟩
  | .other _ _, _, ⟨_, rfl, h⟩, _, hv => ⟨_, rfl, h.imp hv⟩
termination_by structural p => p

theorem Part.alike.imp : ∀ {p q : Part}, p.alike c q → c.Implies d p.visits → p.alike d q
  | .absent, _, h, _ => h
  | .flag _, _, h, _ => h
  | .number _, _, h, _ => h
  | .text _, _, h, _ => h
  | .choice _ _, _, h, _ => h
  | .value _, _, h, _ => h
  | .token _, _, h, _ => h
  | .span _, _, h, _ => h
  | .ident _, _, h, _ => h
  | .name _, _, ⟨_, rfl, h⟩, hv => ⟨_, rfl, h.imp impliesBy_unmet hv⟩
  | .relation _, _, ⟨_, rfl, h⟩, hv => ⟨_, rfl, h.imp impliesBy_relation hv⟩
  | .expr _, _, ⟨_, rfl, h⟩, hv => ⟨_, rfl, h.imp hv⟩
  | .query _, _, ⟨_, rfl, h⟩, hv => ⟨_, rfl, h.imp hv⟩
  | .item _, _, ⟨_, rfl, h⟩, hv => ⟨_, rfl, h.imp impliesBy_unmet hv⟩
  | .factor _, _, ⟨_, rfl, h⟩, hv => ⟨_, rfl, h.imp .self hv⟩
  | .tables _, _, ⟨_, rfl, h⟩, hv => ⟨_, rfl, h.imp .self hv⟩
  | .join _, _, ⟨_, rfl, h⟩, hv => ⟨_, rfl, h.imp .self hv⟩
  | .assignment _, _, ⟨_, rfl, h⟩, hv => ⟨_, rfl, h.imp .self hv⟩
  | .label _, _, ⟨_, rfl, h⟩, hv => ⟨_, rfl, h.imp impliesBy_unmet hv⟩
  | .statement _, _, ⟨_, rfl, h⟩, hv => ⟨_, rfl, h.imp .self hv.tail⟩
  | .list _, _, ⟨_, rfl, h⟩, hv => ⟨_, rfl, h.imp hv⟩
  | .node _ _, _, ⟨_, rfl, h⟩, hv => ⟨_, rfl, h.imp hv⟩
termination_by structural p => p

theorem alikeParts.imp : ∀ {ps qs}, alikeParts c ps qs → c.Implies d (visitsOfParts ps) →
    alikeParts d ps qs
  | [], _, h, _ => h
  | _ :: _, _, ⟨_, _, rfl, h, hs⟩, hv => ⟨_, _, rfl, h.imp hv.left, hs.imp hv.right⟩
termination_by structural p => p

end

end

/-! ## Two trees that are alike to a third -/

/-- What two relations make of one identifier, a third one relates. -/
def Relates (r s t : Ident → Ident → Prop) : Prop := ∀ i j k, r i j → s i k → t j k

/-- What two changes make of one identifier, a third change allows. -/
structure Change.Relates (c d e : Change) : Prop where
  lone : Sql.Relates c.lone d.lone e.lone
  last : Sql.Relates c.last d.last e.last
  qualifier : Sql.Relates c.qualifier d.qualifier e.qualifier
  joined : Sql.Relates c.joined d.joined e.joined
  relation : Sql.Relates c.relation d.relation e.relation
  source : Sql.Relates c.source d.source e.source
  label : Sql.Relates c.label d.label e.label

theorem relates_eq : Relates Eq Eq Eq := by
  rintro i j k rfl rfl
  rfl

theorem Relates.forall₂ {r s t : Ident → Ident → Prop} (h : Relates r s t) :
    ∀ {is js ks : List Ident}, List.Forall₂ r is js → List.Forall₂ s is ks → List.Forall₂ t js ks
  | _, _, _, .nil, .nil => .nil
  | _, _, _, .cons hr hrs, .cons hs hss => .cons (h _ _ _ hr hs) (h.forall₂ hrs hss)

section

variable {c d e : Change} (H : c.Relates d e)
include H

theorem alikeIdents.both : ∀ {is js ks}, alikeIdents c is js → alikeIdents d is ks →
    alikeIdents e js ks
  | [], _, _, rfl, rfl => rfl
  | [_], _, _, ⟨_, rfl, h⟩, ⟨_, rfl, g⟩ => ⟨_, rfl, H.last _ _ _ h g⟩
  | _ :: i :: is, _, _, ⟨_, js, rfl, hq, h⟩, ⟨_, ks, rfl, gq, g⟩ => by
    have ih := h.both g
    cases js with
    | nil => cases is <;> simp [alikeIdents] at h
    | cons j js => exact ⟨_, _, rfl, H.qualifier _ _ _ hq gq, ih⟩

mutual

theorem NamePart.alike.both {r s t : Ident → Ident → Prop} (hr : Relates r s t) :
    ∀ {p q q' : NamePart}, p.alike c r q → p.alike d s q' → q.alike e t q'
  | .ident _, _, _, ⟨_, rfl, h⟩, ⟨_, rfl, g⟩ => ⟨_, rfl, hr _ _ _ h g⟩
  | .call _ _, _, _, ⟨_, rfl, h⟩, ⟨_, rfl, g⟩ => ⟨_, rfl, h.both g⟩
termination_by structural p => p

theorem alikeName.both {r s t : Ident → Ident → Prop} (hr : Relates r s t) :
    ∀ {n m m'}, alikeName c r n m → alikeName d s n m' → alikeName e t m m'
  | [], _, _, rfl, rfl => rfl
  | _ :: _, _, _, ⟨_, _, rfl, h, hs⟩, ⟨_, _, rfl, g, gs⟩ =>
    ⟨_, _, rfl, h.both hr g, hs.both hr gs⟩
termination_by structural p => p

theorem alikeSite.both {u v w : Ident → Ident → Prop} (hu : Relates u v w) :
    ∀ {n m m'}, alikeSite c u n m → alikeSite d v n m' → alikeSite e w m m'
  | [], _, _, rfl, rfl => rfl
  | [_], _, _, ⟨_, rfl, h⟩, ⟨_, rfl, g⟩ => ⟨_, rfl, h.both hu g⟩
  | _ :: _ :: ps, _, _, ⟨_, qs, rfl, h, hs⟩, ⟨_, _, rfl, g, gs⟩ => by
    have ih := hs.both hu gs
    cases qs with
    | nil => cases ps <;> simp [alikeSite] at hs
    | cons q qs => exact ⟨_, _, rfl, h.both relates_eq g, ih⟩
termination_by structural p => p

theorem alikeSites.both {u v w : Ident → Ident → Prop} (hu : Relates u v w) :
    ∀ {ns ms ms'}, alikeSites c u ns ms → alikeSites d v ns ms' → alikeSites e w ms ms'
  | [], _, _, rfl, rfl => rfl
  | _ :: _, _, _, ⟨_, _, rfl, h, hs⟩, ⟨_, _, rfl, g, gs⟩ =>
    ⟨_, _, rfl, h.both hu g, hs.both hu gs⟩
termination_by structural p => p

theorem Expr.alike.both : ∀ {a b b' : Expr}, a.alike c b → a.alike d b' → b.alike e b'
  | .column _, _, _, ⟨_, rfl, h⟩, ⟨_, rfl, g⟩ => ⟨_, rfl, H.lone _ _ _ h g⟩
  | .qualified _, _, _, ⟨_, rfl, h⟩, ⟨_, rfl, g⟩ => ⟨_, rfl, h.both H g⟩
  | .form _ _, _, _, ⟨_, rfl, h⟩, ⟨_, rfl, g⟩ => ⟨_, rfl, h.both g⟩
termination_by structural p => p

theorem Query.alike.both : ∀ {p q q' : Query}, p.alike c q → p.alike d q' → q.alike e q'
  | .mk _ _ _, _, _, ⟨_, _, _, rfl, hctes, hbody, hclauses⟩,
      ⟨_, _, _, rfl, gctes, gbody, gclauses⟩ =>
    ⟨_, _, _, rfl, hctes.both gctes, hbody.both gbody, hclauses.both gclauses⟩
termination_by structural p => p

theorem Body.alike.both : ∀ {a b b' : Body}, a.alike c b → a.alike d b' → b.alike e b'
  | .select _, _, _, ⟨_, rfl, h⟩, ⟨_, rfl, g⟩ => ⟨_, rfl, h.both g⟩
  | .query _, _, _, ⟨_, rfl, h⟩, ⟨_, rfl, g⟩ => ⟨_, rfl, h.both g⟩
  | .setOperation _ _ _ _, _, _, ⟨_, _, _, rfl, hl, hq, hr⟩, ⟨_, _, _, rfl, gl, gq, gr⟩ =>
    ⟨_, _, _, rfl, hl.both gl, hq.both gq, hr.both gr⟩
  | .statement _, _, _, ⟨_, rfl, h⟩, ⟨_, rfl, g⟩ => ⟨_, rfl, h.both relates_eq g⟩
  | .form _ _, _, _, ⟨_, rfl, h⟩, ⟨_, rfl, g⟩ => ⟨_, rfl, h.both g⟩
termination_by structural p => p

theorem Select.alike.both : ∀ {a b b' : Select}, a.alike c b → a.alike d b' → b.alike e b'
  | .mk _ _ _ _ _ _ _, _, _, ⟨_, _, _, _, _, rfl, hhead, hitems, hmiddle, htables, hclauses⟩,
      ⟨_, _, _, _, _, rfl, ghead, gitems, gmiddle, gtables, gclauses⟩ =>
    ⟨_, _, _, _, _, rfl, hhead.both ghead, hitems.both H.label gitems, hmiddle.both gmiddle,
      htables.both H.joined gtables, hclauses.both gclauses⟩
termination_by structural p => p

theorem SelectItem.alike.both {r s t : Ident → Ident → Prop} (hr : Relates r s t) :
    ∀ {i j j' : SelectItem}, i.alike c r j → i.alike d s j' → j.alike e t j'
  | .plain _, _, _, ⟨_, rfl, h⟩, ⟨_, rfl, g⟩ => ⟨_, rfl, h.both g⟩
  | .aliased _ _, _, _, ⟨_, _, rfl, hl, h⟩, ⟨_, _, rfl, gl, g⟩ =>
    ⟨_, _, rfl, hr _ _ _ hl gl, h.both g⟩
  | .form _ _, _, _, ⟨_, rfl, h⟩, ⟨_, rfl, g⟩ => ⟨_, rfl, h.both g⟩
termination_by structural p => p

theorem alikeItems.both {r s t : Ident → Ident → Prop} (hr : Relates r s t) :
    ∀ {is js js'}, alikeItems c r is js → alikeItems d s is js' → alikeItems e t js js'
  | [], _, _, rfl, rfl => rfl
  | _ :: _, _, _, ⟨_, _, rfl, h, hs⟩, ⟨_, _, rfl, g, gs⟩ =>
    ⟨_, _, rfl, h.both hr g, hs.both hr gs⟩
termination_by structural p => p

theorem Alias.alike.both {r s t : Ident → Ident → Prop} (hr : Relates r s t) :
    ∀ {a b b' : Alias}, a.alike c r b → a.alike d s b' → b.alike e t b'
  | .absent, _, _, rfl, rfl => rfl
  | .named _ _ _, _, _, ⟨_, _, rfl, hn, h⟩, ⟨_, _, rfl, gn, g⟩ =>
    ⟨_, _, rfl, hr _ _ _ hn gn, h.both g⟩
termination_by structural p => p

theorem TableFactor.alike.both {u v w : Ident → Ident → Prop} (hu : Relates u v w) :
    ∀ {t t₁ t₂ : TableFactor}, t.alike c u t₁ → t.alike d v t₂ → t₁.alike e w t₂
  | .table _ _ _, _, _, ⟨_, _, _, rfl, hn, ha, h⟩, ⟨_, _, _, rfl, gn, ga, g⟩ =>
    ⟨_, _, _, rfl, hn.both H.relation gn, ha.both H.source ga, h.both g⟩
  | .derived _ _ _, _, _, ⟨_, _, rfl, h, ha⟩, ⟨_, _, rfl, g, ga⟩ =>
    ⟨_, _, rfl, h.both g, ha.both H.source ga⟩
  | .nested _ _, _, _, ⟨_, _, rfl, h, ha⟩, ⟨_, _, rfl, g, ga⟩ =>
    ⟨_, _, rfl, h.both hu g, ha.both relates_eq ga⟩
  | .form _ _, _, _, ⟨_, rfl, h⟩, ⟨_, rfl, g⟩ => ⟨_, rfl, h.both g⟩
termination_by structural p => p

theorem TableWithJoins.alike.both {u v w : Ident → Ident → Prop} (hu : Relates u v w) :
    ∀ {t t₁ t₂ : TableWithJoins}, t.alike c u t₁ → t.alike d v t₂ → t₁.alike e w t₂
  | .mk _ _, _, _, ⟨_, _, rfl, h, hs⟩, ⟨_, _, rfl, g, gs⟩ =>
    ⟨_, _, rfl, h.both hu g, hs.both hu gs⟩
termination_by structural p => p

theorem alikeTables.both {u v w : Ident → Ident → Prop} (hu : Relates u v w) :
    ∀ {ts ts₁ ts₂}, alikeTables c u ts ts₁ → alikeTables d v ts ts₂ → alikeTables e w ts₁ ts₂
  | [], _, _, rfl, rfl => rfl
  | _ :: _, _, _, ⟨_, _, rfl, h, hs⟩, ⟨_, _, rfl, g, gs⟩ =>
    ⟨_, _, rfl, h.both hu g, hs.both hu gs⟩
termination_by structural p => p

theorem Join.alike.both {u v w : Ident → Ident → Prop} (hu : Relates u v w) :
    ∀ {j k k' : Join}, j.alike c u k → j.alike d v k' → k.alike e w k'
  | .constrained _ _ _ _, _, _, ⟨_, _, rfl, h, hon⟩, ⟨_, _, rfl, g, gon⟩ =>
    ⟨_, _, rfl, h.both hu g, hon.both hu gon⟩
  | .asOf _ _ _ _, _, _, ⟨_, _, _, rfl, h, hcond, hon⟩, ⟨_, _, _, rfl, g, gcond, gon⟩ =>
    ⟨_, _, _, rfl, h.both hu g, hcond.both gcond, hon.both hu gon⟩
  | .apply _ _ _, _, _, ⟨_, rfl, h⟩, ⟨_, rfl, g⟩ => ⟨_, rfl, h.both hu g⟩
termination_by structural p => p

theorem alikeJoins.both {u v w : Ident → Ident → Prop} (hu : Relates u v w) :
    ∀ {js ks ks'}, alikeJoins c u js ks → alikeJoins d v js ks' → alikeJoins e w ks ks'
  | [], _, _, rfl, rfl => rfl
  | _ :: _, _, _, ⟨_, _, rfl, h, hs⟩, ⟨_, _, rfl, g, gs⟩ =>
    ⟨_, _, rfl, h.both hu g, hs.both hu gs⟩
termination_by structural p => p

theorem JoinConstraint.alike.both {u v w : Ident → Ident → Prop} (hu : Relates u v w) :
    ∀ {o o₁ o₂ : JoinConstraint}, o.alike c u o₁ → o.alike d v o₂ → o₁.alike e w o₂
  | .on _, _, _, ⟨_, rfl, h⟩, ⟨_, rfl, g⟩ => ⟨_, rfl, h.both g⟩
  | .using _, _, _, ⟨_, rfl, h⟩, ⟨_, rfl, g⟩ => ⟨_, rfl, h.both hu g⟩
  | .natural, _, _, rfl, rfl => rfl
  | .absent, _, _, rfl, rfl => rfl
termination_by structural p => p

theorem Target.alike.both {u v w : Ident → Ident → Prop} (hu : Relates u v w) :
    ∀ {t t₁ t₂ : Target}, t.alike c u t₁ → t.alike d v t₂ → t₁.alike e w t₂
  | .name _, _, _, ⟨_, rfl, h⟩, ⟨_, rfl, g⟩ => ⟨_, rfl, h.both hu g⟩
  | .tuple _, _, _, ⟨_, rfl, h⟩, ⟨_, rfl, g⟩ => ⟨_, rfl, h.both hu g⟩
termination_by structural p => p

theorem Assignment.alike.both {u v w : Ident → Ident → Prop} (hu : Relates u v w) :
    ∀ {a b b' : Assignment}, a.alike c u b → a.alike d v b' → b.alike e w b'
  | .mk _ _, _, _, ⟨_, _, rfl, ht, h⟩, ⟨_, _, rfl, gt, g⟩ => ⟨_, _, rfl, ht.both hu gt, h.both g⟩
termination_by structural p => p

theorem alikeAssignments.both {u v w : Ident → Ident → Prop} (hu : Relates u v w) :
    ∀ {as bs bs'}, alikeAssignments c u as bs → alikeAssignments d v as bs' →
    alikeAssignments e w bs bs'
  | [], _, _, rfl, rfl => rfl
  | _ :: _, _, _, ⟨_, _, rfl, h, hs⟩, ⟨_, _, rfl, g, gs⟩ =>
    ⟨_, _, rfl, h.both hu g, hs.both hu gs⟩
termination_by structural p => p

theorem ConflictTarget.alike.both {u v w : Ident → Ident → Prop} (hu : Relates u v w) :
    ∀ {t t₁ t₂ : ConflictTarget}, t.alike c u t₁ → t.alike d v t₂ → t₁.alike e w t₂
  | .absent, _, _, rfl, rfl => rfl
  | .columns _, _, _, ⟨_, rfl, h⟩, ⟨_, rfl, g⟩ => ⟨_, rfl, hu.forall₂ h g⟩
  | .constraint _, _, _, ⟨_, rfl, h⟩, ⟨_, rfl, g⟩ => ⟨_, rfl, h.both relates_eq g⟩
termination_by structural p => p

theorem OnInsert.alike.both {u v w : Ident → Ident → Prop} (hu : Relates u v w) :
    ∀ {o o₁ o₂ : OnInsert}, o.alike c u o₁ → o.alike d v o₂ → o₁.alike e w o₂
  | .absent, _, _, rfl, rfl => rfl
  | .duplicateKey _, _, _, ⟨_, rfl, h⟩, ⟨_, rfl, g⟩ => ⟨_, rfl, h.both hu g⟩
  | .conflictNothing _, _, _, ⟨_, rfl, h⟩, ⟨_, rfl, g⟩ => ⟨_, rfl, h.both hu g⟩
  | .conflictUpdate _ _ _, _, _, ⟨_, _, _, rfl, ht, hs, hcond⟩, ⟨_, _, _, rfl, gt, gs, gcond⟩ =>
    ⟨_, _, _, rfl, ht.both hu gt, hs.both hu gs, hcond.both gcond⟩
termination_by structural p => p

theorem TableClause.alike.both {u v w : Ident → Ident → Prop} (hu : Relates u v w) :
    ∀ {t t₁ t₂ : TableClause}, t.alike c u t₁ → t.alike d v t₂ → t₁.alike e w t₂
  | .absent, _, _, rfl, rfl => rfl
  | .present _ _, _, _, ⟨_, rfl, h⟩, ⟨_, rfl, g⟩ => ⟨_, rfl, h.both hu g⟩
termination_by structural p => p

/-- Two statements that are alike to a third one are alike to each other. -/
theorem Statement.alike.both {u v w : Ident → Ident → Prop} (hu : Relates u v w) :
    ∀ {s s₁ s₂ : Statement}, s.alike c u s₁ → s.alike d v s₂ → s₁.alike e w s₂
  | .query _, _, _, ⟨_, rfl, h⟩, ⟨_, rfl, g⟩ => ⟨_, rfl, h.both g⟩
  | .insert _ _ _ _ _, _, _, ⟨_, _, _, _, _, rfl, hhead, hcolumns, hmiddle, hon, hclauses⟩,
      ⟨_, _, _, _, _, rfl, ghead, gcolumns, gmiddle, gon, gclauses⟩ =>
    ⟨_, _, _, _, _, rfl, hhead.both ghead, hu.forall₂ hcolumns gcolumns, hmiddle.both gmiddle,
      hon.both hu gon, hclauses.both gclauses⟩
  | .update _ _ _ _ _, _, _, ⟨_, _, _, _, _, rfl, hhead, htable, hassigned, hsource, hclauses⟩,
      ⟨_, _, _, _, _, rfl, ghead, gtable, gassigned, gsource, gclauses⟩ =>
    ⟨_, _, _, _, _, rfl, hhead.both ghead, htable.both hu gtable, hassigned.both hu gassigned,
      hsource.both hu gsource, hclauses.both gclauses⟩
  | .delete _ _ _ _, _, _, ⟨_, _, _, _, rfl, hhead, hsource, hothers, hclauses⟩,
      ⟨_, _, _, _, rfl, ghead, gsource, gothers, gclauses⟩ =>
    ⟨_, _, _, _, rfl, hhead.both ghead, hsource.both hu gsource, hothers.both hu gothers,
      hclauses.both gclauses⟩
  | .other _ _, _, _, ⟨_, rfl, h⟩, ⟨_, rfl, g⟩ => ⟨_, rfl, h.both g⟩
termination_by structural p => p

theorem Part.alike.both : ∀ {p q q' : Part}, p.alike c q → p.alike d q' → q.alike e q'
  | .absent, _, _, rfl, rfl => rfl
  | .flag _, _, _, rfl, rfl => rfl
  | .number _, _, _, rfl, rfl => rfl
  | .text _, _, _, rfl, rfl => rfl
  | .choice _ _, _, _, rfl, rfl => rfl
  | .value _, _, _, rfl, rfl => rfl
  | .token _, _, _, rfl, rfl => rfl
  | .span _, _, _, rfl, rfl => rfl
  | .ident _, _, _, rfl, rfl => rfl
  | .name _, _, _, ⟨_, rfl, h⟩, ⟨_, rfl, g⟩ => ⟨_, rfl, h.both relates_eq g⟩
  | .relation _, _, _, ⟨_, rfl, h⟩, ⟨_, rfl, g⟩ => ⟨_, rfl, h.both H.relation g⟩
  | .expr _, _, _, ⟨_, rfl, h⟩, ⟨_, rfl, g⟩ => ⟨_, rfl, h.both g⟩
  | .query _, _, _, ⟨_, rfl, h⟩, ⟨_, rfl, g⟩ => ⟨_, rfl, h.both g⟩
  | .item _, _, _, ⟨_, rfl, h⟩, ⟨_, rfl, g⟩ => ⟨_, rfl, h.both relates_eq g⟩
  | .factor _, _, _, ⟨_, rfl, h⟩, ⟨_, rfl, g⟩ => ⟨_, rfl, h.both relates_eq g⟩
  | .tables _, _, _, ⟨_, rfl, h⟩, ⟨_, rfl, g⟩ => ⟨_, rfl, h.both relates_eq g⟩
  | .join _, _, _, ⟨_, rfl, h⟩, ⟨_, rfl, g⟩ => ⟨_, rfl, h.both relates_eq g⟩
  | .assignment _, _, _, ⟨_, rfl, h⟩, ⟨_, rfl, g⟩ => ⟨_, rfl, h.both relates_eq g⟩
  | .label _, _, _, ⟨_, rfl, h⟩, ⟨_, rfl, g⟩ => ⟨_, rfl, h.both relates_eq g⟩
  | .statement _, _, _, ⟨_, rfl, h⟩, ⟨_, rfl, g⟩ => ⟨_, rfl, h.both relates_eq g⟩
  | .list _, _, _, ⟨_, rfl, h⟩, ⟨_, rfl, g⟩ => ⟨_, rfl, h.both g⟩
  | .node _ _, _, _, ⟨_, rfl, h⟩, ⟨_, rfl, g⟩ => ⟨_, rfl, h.both g⟩
termination_by structural p => p

theorem alikeParts.both : ∀ {ps qs qs'}, alikeParts c ps qs → alikeParts d ps qs' →
    alikeParts e qs qs'
  | [], _, _, rfl, rfl => rfl
  | _ :: _, _, _, ⟨_, _, rfl, h, hs⟩, ⟨_, _, rfl, g, gs⟩ => ⟨_, _, rfl, h.both g, hs.both gs⟩
termination_by structural p => p

end

end

end ColumnMask.Sql
