-- Trees that are alike without any change are one tree. So a change that leaves no choice
-- for any identifier has one outcome, and two ways to come to that outcome are the same.
import ColumnMask.Proofs.AlikeLaws

namespace ColumnMask.Sql

/-- The change of nothing. -/
def unchanged : Change where
  lone := Eq
  last := Eq
  qualifier := Eq
  joined := Eq
  relation := Eq
  source := Eq
  label := Eq

/-! ## Trees that are alike without a change -/

theorem alikeIdents.eq : ∀ {is js}, alikeIdents unchanged is js → js = is
  | [], _, rfl => rfl
  | [_], _, ⟨_, rfl, rfl⟩ => rfl
  | _ :: _ :: _, _, ⟨_, _, rfl, rfl, h⟩ => by rw [h.eq]

mutual

theorem NamePart.alike.eq : ∀ {p q : NamePart}, p.alike unchanged Eq q → q = p
  | .ident _, _, ⟨_, rfl, rfl⟩ => rfl
  | .call _ _, _, ⟨_, rfl, h⟩ => by rw [h.eq]
termination_by structural p => p

theorem alikeName.eq : ∀ {n m}, alikeName unchanged Eq n m → m = n
  | [], _, rfl => rfl
  | _ :: _, _, ⟨_, _, rfl, h, hs⟩ => by rw [h.eq, hs.eq]
termination_by structural p => p

theorem alikeSite.eq : ∀ {n m}, alikeSite unchanged Eq n m → m = n
  | [], _, rfl => rfl
  | [_], _, ⟨_, rfl, h⟩ => by rw [h.eq]
  | _ :: _ :: _, _, ⟨_, _, rfl, h, hs⟩ => by rw [h.eq, hs.eq]
termination_by structural p => p

theorem alikeSites.eq : ∀ {ns ms}, alikeSites unchanged Eq ns ms → ms = ns
  | [], _, rfl => rfl
  | _ :: _, _, ⟨_, _, rfl, h, hs⟩ => by rw [h.eq, hs.eq]
termination_by structural p => p

theorem Expr.alike.eq : ∀ {e e' : Expr}, e.alike unchanged e' → e' = e
  | .column _, _, ⟨_, rfl, rfl⟩ => rfl
  | .qualified _, _, ⟨_, rfl, h⟩ => by rw [h.eq]
  | .form _ _, _, ⟨_, rfl, h⟩ => by rw [h.eq]
termination_by structural p => p

theorem Query.alike.eq : ∀ {q q' : Query}, q.alike unchanged q' → q' = q
  | .mk _ _ _, _, ⟨_, _, _, rfl, hctes, hbody, hclauses⟩ => by
    rw [hctes.eq, hbody.eq, hclauses.eq]
termination_by structural p => p

theorem Body.alike.eq : ∀ {b b' : Body}, b.alike unchanged b' → b' = b
  | .select _, _, ⟨_, rfl, h⟩ => by rw [h.eq]
  | .query _, _, ⟨_, rfl, h⟩ => by rw [h.eq]
  | .setOperation _ _ _ _, _, ⟨_, _, _, rfl, hl, hq, hr⟩ => by rw [hl.eq, hq.eq, hr.eq]
  | .statement _, _, ⟨_, rfl, h⟩ => by rw [h.eq]
  | .form _ _, _, ⟨_, rfl, h⟩ => by rw [h.eq]
termination_by structural p => p

theorem Select.alike.eq : ∀ {s s' : Select}, s.alike unchanged s' → s' = s
  | .mk _ _ _ _ _ _ _, _, ⟨_, _, _, _, _, rfl, hhead, hitems, hmiddle, htables, hclauses⟩ => by
    rw [hhead.eq, hitems.eq, hmiddle.eq, htables.eq, hclauses.eq]
termination_by structural p => p

theorem SelectItem.alike.eq : ∀ {i j : SelectItem}, i.alike unchanged Eq j → j = i
  | .plain _, _, ⟨_, rfl, h⟩ => by rw [h.eq]
  | .aliased _ _, _, ⟨_, _, rfl, rfl, h⟩ => by rw [h.eq]
  | .form _ _, _, ⟨_, rfl, h⟩ => by rw [h.eq]
termination_by structural p => p

theorem alikeItems.eq : ∀ {is js}, alikeItems unchanged Eq is js → js = is
  | [], _, rfl => rfl
  | _ :: _, _, ⟨_, _, rfl, h, hs⟩ => by rw [h.eq, hs.eq]
termination_by structural p => p

theorem Alias.alike.eq : ∀ {a b : Alias}, a.alike unchanged Eq b → b = a
  | .absent, _, rfl => rfl
  | .named _ _ _, _, ⟨_, _, rfl, rfl, h⟩ => by rw [h.eq]
termination_by structural p => p

theorem TableFactor.alike.eq : ∀ {t t' : TableFactor}, t.alike unchanged Eq t' → t' = t
  | .table _ _ _, _, ⟨_, _, _, rfl, hn, ha, hdetails⟩ => by rw [hn.eq, ha.eq, hdetails.eq]
  | .derived _ _ _, _, ⟨_, _, rfl, hq, ha⟩ => by rw [hq.eq, ha.eq]
  | .nested _ _, _, ⟨_, _, rfl, hj, ha⟩ => by rw [hj.eq, ha.eq]
  | .form _ _, _, ⟨_, rfl, h⟩ => by rw [h.eq]
termination_by structural p => p

theorem TableWithJoins.alike.eq : ∀ {t t' : TableWithJoins}, t.alike unchanged Eq t' → t' = t
  | .mk _ _, _, ⟨_, _, rfl, hr, hjs⟩ => by rw [hr.eq, hjs.eq]
termination_by structural p => p

theorem alikeTables.eq : ∀ {ts ss}, alikeTables unchanged Eq ts ss → ss = ts
  | [], _, rfl => rfl
  | _ :: _, _, ⟨_, _, rfl, h, hs⟩ => by rw [h.eq, hs.eq]
termination_by structural p => p

theorem Join.alike.eq : ∀ {j k : Join}, j.alike unchanged Eq k → k = j
  | .constrained _ _ _ _, _, ⟨_, _, rfl, hr, ho⟩ => by rw [hr.eq, ho.eq]
  | .asOf _ _ _ _, _, ⟨_, _, _, rfl, hr, hcond, ho⟩ => by rw [hr.eq, hcond.eq, ho.eq]
  | .apply _ _ _, _, ⟨_, rfl, hr⟩ => by rw [hr.eq]
termination_by structural p => p

theorem alikeJoins.eq : ∀ {js ks}, alikeJoins unchanged Eq js ks → ks = js
  | [], _, rfl => rfl
  | _ :: _, _, ⟨_, _, rfl, h, hs⟩ => by rw [h.eq, hs.eq]
termination_by structural p => p

theorem JoinConstraint.alike.eq : ∀ {o o' : JoinConstraint}, o.alike unchanged Eq o' → o' = o
  | .on _, _, ⟨_, rfl, h⟩ => by rw [h.eq]
  | .using _, _, ⟨_, rfl, h⟩ => by rw [h.eq]
  | .natural, _, rfl => rfl
  | .absent, _, rfl => rfl
termination_by structural p => p

theorem Target.alike.eq : ∀ {t t' : Target}, t.alike unchanged Eq t' → t' = t
  | .name _, _, ⟨_, rfl, h⟩ => by rw [h.eq]
  | .tuple _, _, ⟨_, rfl, h⟩ => by rw [h.eq]
termination_by structural p => p

theorem Assignment.alike.eq : ∀ {a b : Assignment}, a.alike unchanged Eq b → b = a
  | .mk _ _, _, ⟨_, _, rfl, ht, hv⟩ => by rw [ht.eq, hv.eq]
termination_by structural p => p

theorem alikeAssignments.eq : ∀ {as bs}, alikeAssignments unchanged Eq as bs → bs = as
  | [], _, rfl => rfl
  | _ :: _, _, ⟨_, _, rfl, h, hs⟩ => by rw [h.eq, hs.eq]
termination_by structural p => p

theorem ConflictTarget.alike.eq : ∀ {t t' : ConflictTarget}, t.alike unchanged Eq t' → t' = t
  | .absent, _, rfl => rfl
  | .columns _, _, ⟨_, rfl, h⟩ => by rw [eq_of_forall₂ h]
  | .constraint _, _, ⟨_, rfl, h⟩ => by rw [h.eq]
termination_by structural p => p

theorem OnInsert.alike.eq : ∀ {o o' : OnInsert}, o.alike unchanged Eq o' → o' = o
  | .absent, _, rfl => rfl
  | .duplicateKey _, _, ⟨_, rfl, h⟩ => by rw [h.eq]
  | .conflictNothing _, _, ⟨_, rfl, h⟩ => by rw [h.eq]
  | .conflictUpdate _ _ _, _, ⟨_, _, _, rfl, ht, has, hcond⟩ => by rw [ht.eq, has.eq, hcond.eq]
termination_by structural p => p

theorem TableClause.alike.eq : ∀ {t t' : TableClause}, t.alike unchanged Eq t' → t' = t
  | .absent, _, rfl => rfl
  | .present _ _, _, ⟨_, rfl, h⟩ => by rw [h.eq]
termination_by structural p => p

theorem Statement.alike.eq : ∀ {s s' : Statement}, s.alike unchanged Eq s' → s' = s
  | .query _, _, ⟨_, rfl, h⟩ => by rw [h.eq]
  | .insert _ _ _ _ _, _, ⟨_, _, _, _, _, rfl, hhead, hcolumns, hmiddle, hon, hclauses⟩ => by
    rw [hhead.eq, eq_of_forall₂ hcolumns, hmiddle.eq, hon.eq, hclauses.eq]
  | .update _ _ _ _ _, _, ⟨_, _, _, _, _, rfl, hhead, ht, has, hsource, hclauses⟩ => by
    rw [hhead.eq, ht.eq, has.eq, hsource.eq, hclauses.eq]
  | .delete _ _ _ _, _, ⟨_, _, _, _, rfl, hhead, hsource, hothers, hclauses⟩ => by
    rw [hhead.eq, hsource.eq, hothers.eq, hclauses.eq]
  | .other _ _, _, ⟨_, rfl, h⟩ => by rw [h.eq]
termination_by structural p => p

theorem Part.alike.eq : ∀ {p q : Part}, p.alike unchanged q → q = p
  | .absent, _, rfl => rfl
  | .flag _, _, rfl => rfl
  | .number _, _, rfl => rfl
  | .text _, _, rfl => rfl
  | .choice _ _, _, rfl => rfl
  | .value _, _, rfl => rfl
  | .token _, _, rfl => rfl
  | .span _, _, rfl => rfl
  | .ident _, _, rfl => rfl
  | .name _, _, ⟨_, rfl, h⟩ => by rw [h.eq]
  | .relation _, _, ⟨_, rfl, h⟩ => by rw [h.eq]
  | .expr _, _, ⟨_, rfl, h⟩ => by rw [h.eq]
  | .query _, _, ⟨_, rfl, h⟩ => by rw [h.eq]
  | .item _, _, ⟨_, rfl, h⟩ => by rw [h.eq]
  | .factor _, _, ⟨_, rfl, h⟩ => by rw [h.eq]
  | .tables _, _, ⟨_, rfl, h⟩ => by rw [h.eq]
  | .join _, _, ⟨_, rfl, h⟩ => by rw [h.eq]
  | .assignment _, _, ⟨_, rfl, h⟩ => by rw [h.eq]
  | .label _, _, ⟨_, rfl, h⟩ => by rw [h.eq]
  | .statement _, _, ⟨_, rfl, h⟩ => by rw [h.eq]
  | .list _, _, ⟨_, rfl, h⟩ => by rw [h.eq]
  | .node _ _, _, ⟨_, rfl, h⟩ => by rw [h.eq]
termination_by structural p => p

theorem alikeParts.eq : ∀ {ps qs}, alikeParts unchanged ps qs → qs = ps
  | [], _, rfl => rfl
  | _ :: _, _, ⟨_, _, rfl, h, hs⟩ => by rw [h.eq, hs.eq]
termination_by structural p => p

end

/-! ## Changes that leave no choice -/

/-- The change leaves no choice: what stands for an identifier is fixed by it. -/
def Change.Fixed (c : Change) : Prop := c.Relates c unchanged

/-- Two outcomes of a change that leaves no choice are the same statement. -/
theorem Statement.alike.unique {c : Change} {u : Ident → Ident → Prop} (hc : c.Fixed)
    (hu : Relates u u Eq) {s t t' : Statement} (h : s.alike c u t) (h' : s.alike c u t') :
    t' = t :=
  (h.both hc hu h').eq

/-! ## Changes whose order does not matter -/

/-- Both ways from an identifier end at the same one: the first relation and then the second, and
the second and then the first. -/
def Commute (r s : Ident → Ident → Prop) : Prop :=
  ∀ i j k l n, r i j → s i k → s j l → r k n → n = l

/-- The order of the two changes does not matter at any place. -/
structure Change.Commutes (c d : Change) : Prop where
  lone : Commute c.lone d.lone
  last : Commute c.last d.last
  qualifier : Commute c.qualifier d.qualifier
  joined : Commute c.joined d.joined
  relation : Commute c.relation d.relation
  source : Commute c.source d.source
  label : Commute c.label d.label

/-- What two relations make of one identifier. -/
def Beside (r s : Ident → Ident → Prop) (j k : Ident) : Prop := ∃ i, r i j ∧ s i k

/-- What two changes make of one identifier. -/
def Change.beside (c d : Change) : Change where
  lone := Beside c.lone d.lone
  last := Beside c.last d.last
  qualifier := Beside c.qualifier d.qualifier
  joined := Beside c.joined d.joined
  relation := Beside c.relation d.relation
  source := Beside c.source d.source
  label := Beside c.label d.label

theorem relates_beside (r s : Ident → Ident → Prop) : Relates r s (Beside r s) :=
  fun i _ _ hr hs => ⟨i, hr, hs⟩

theorem Change.relates_beside (c d : Change) : c.Relates d (c.beside d) where
  lone := Sql.relates_beside _ _
  last := Sql.relates_beside _ _
  qualifier := Sql.relates_beside _ _
  joined := Sql.relates_beside _ _
  relation := Sql.relates_beside _ _
  source := Sql.relates_beside _ _
  label := Sql.relates_beside _ _

theorem Commute.closes {r s : Ident → Ident → Prop} (h : Commute r s) :
    Relates (Beside (Beside r s) s) r Eq := by
  rintro k l n ⟨j, ⟨i, hr, hs⟩, hl⟩ hn
  exact (h i j k l n hr hs hl hn).symm

theorem Change.Commutes.closes {c d : Change} (h : c.Commutes d) :
    ((c.beside d).beside d).Relates c unchanged where
  lone := h.lone.closes
  last := h.last.closes
  qualifier := h.qualifier.closes
  joined := h.joined.closes
  relation := h.relation.closes
  source := h.source.closes
  label := h.label.closes

/-- If the order of two changes does not matter for any identifier, it does not matter for a
statement: the first and then the second change lead where the second and then the first do. -/
theorem Statement.alike.commute {c d : Change} {u v : Ident → Ident → Prop} (H : c.Commutes d)
    (hu : Commute u v) {s a b x y : Statement} (ha : s.alike c u a) (hx : a.alike d v x)
    (hb : s.alike d v b) (hy : b.alike c u y) : y = x := by
  have hab : a.alike (c.beside d) (Beside u v) b :=
    ha.both (c.relates_beside d) (relates_beside u v) hb
  have hbx : b.alike ((c.beside d).beside d) (Beside (Beside u v) v) x :=
    hab.both ((c.beside d).relates_beside d) (relates_beside _ v) hx
  exact (hbx.both H.closes hu.closes hy).eq

end ColumnMask.Sql
