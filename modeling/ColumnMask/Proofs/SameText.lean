-- Trees with one text. Of an identifier only its spelling is printed, so trees that are
-- alike have the same text if the change keeps the spelling of each identifier.
import ColumnMask.Proofs.Alike
import ColumnMask.Sql.Printer

set_option linter.unusedSectionVars false

namespace ColumnMask.Sql

/-! ## Changes that keep the spelling -/

/-- Related identifiers are written the same way. -/
def SameSpelling (r : Ident → Ident → Prop) : Prop := ∀ i j, r i j → j.show = i.show

structure Change.KeepsText (c : Change) : Prop where
  lone : SameSpelling c.lone
  last : SameSpelling c.last
  qualifier : SameSpelling c.qualifier
  joined : SameSpelling c.joined
  relation : SameSpelling c.relation
  source : SameSpelling c.source
  label : SameSpelling c.label

theorem sameSpelling_eq : SameSpelling Eq := by
  rintro i j rfl
  rfl

theorem SameSpelling.texts {r : Ident → Ident → Prop} (h : SameSpelling r) {is js : List Ident}
    (hr : List.Forall₂ r is js) : js.map Ident.show = is.map Ident.show := by
  induction hr with
  | nil => rfl
  | cons hij _ ih => rw [List.map_cons, List.map_cons, h _ _ hij, ih]

/-! ## Texts of trees that are alike -/

-- Lean does not find the equations of `OnInsert.show` in time by itself.

theorem OnInsert.show_duplicateKey (as : List Assignment) : (OnInsert.duplicateKey as).show =
    " ON DUPLICATE KEY UPDATE " ++ ", ".intercalate (textsOfAssignments as) :=
  rfl

theorem OnInsert.show_conflictNothing (t : ConflictTarget) :
    (OnInsert.conflictNothing t).show = " ON CONFLICT" ++ t.show ++ " DO NOTHING" :=
  rfl

theorem OnInsert.show_conflictUpdate (t : ConflictTarget) (as : List Assignment)
    (condition : Part) : (OnInsert.conflictUpdate t as condition).show =
      " ON CONFLICT" ++ t.show ++ " DO UPDATE SET " ++ ", ".intercalate (textsOfAssignments as) ++
        Form.write ⟨.bare, [.opt 0 " WHERE " ""]⟩ [condition.shown] :=
  rfl

theorem alikeParts.isEmpty {c : Change} {ps qs : List Part} (h : alikeParts c ps qs) :
    qs.isEmpty = ps.isEmpty := by
  cases ps with
  | nil =>
    obtain rfl := h
    rfl
  | cons p ps =>
    obtain ⟨_, _, rfl, _⟩ := h
    rfl

theorem JoinConstraint.alike.lead {c : Change} {u : Ident → Ident → Prop} {o o' : JoinConstraint}
    (h : o.alike c u o') : o'.lead = o.lead := by
  cases o with
  | on condition =>
    obtain ⟨_, rfl, _⟩ := h
    rfl
  | «using» names =>
    obtain ⟨_, rfl, _⟩ := h
    rfl
  | natural =>
    obtain rfl := h
    rfl
  | absent =>
    obtain rfl := h
    rfl

section

variable {c : Change} (hc : c.KeepsText)
include hc

theorem alikeIdents.texts : ∀ {is js}, alikeIdents c is js →
    js.map Ident.show = is.map Ident.show
  | [], _, rfl => rfl
  | [_], _, ⟨_, rfl, h⟩ => by rw [List.map_singleton, List.map_singleton, hc.last _ _ h]
  | _ :: _ :: _, _, ⟨_, _, rfl, hq, h⟩ => by
    rw [List.map_cons, List.map_cons, hc.qualifier _ _ hq, h.texts]

mutual

theorem NamePart.alike.show {r : Ident → Ident → Prop} (hr : SameSpelling r) :
    ∀ {p q : NamePart}, p.alike c r q → q.show = p.show
  | .ident _, _, ⟨_, rfl, h⟩ => by rw [NamePart.show, NamePart.show, hr _ _ h]
  | .call _ _, _, ⟨_, rfl, h⟩ => by rw [NamePart.show, NamePart.show, h.texts]
termination_by structural p => p

theorem alikeName.texts {r : Ident → Ident → Prop} (hr : SameSpelling r) :
    ∀ {n m}, alikeName c r n m → textsOfName m = textsOfName n
  | [], _, rfl => rfl
  | _ :: _, _, ⟨_, _, rfl, h, hs⟩ => by rw [textsOfName, textsOfName, h.show hr, hs.texts hr]
termination_by structural p => p

theorem alikeSite.texts {u : Ident → Ident → Prop} (hu : SameSpelling u) :
    ∀ {n m}, alikeSite c u n m → textsOfName m = textsOfName n
  | [], _, rfl => rfl
  | [_], _, ⟨_, rfl, h⟩ => by simp only [textsOfName, h.show hu]
  | _ :: _ :: _, _, ⟨_, _, rfl, h, hs⟩ => by
    rw [textsOfName, h.show sameSpelling_eq, hs.texts hu, ← textsOfName]
termination_by structural p => p

theorem alikeSites.texts {u : Ident → Ident → Prop} (hu : SameSpelling u) :
    ∀ {ns ms}, alikeSites c u ns ms → textsOfNames ms = textsOfNames ns
  | [], _, rfl => rfl
  | _ :: _, _, ⟨_, _, rfl, h, hs⟩ => by rw [textsOfNames, textsOfNames, h.texts hu, hs.texts hu]
termination_by structural p => p

theorem Expr.alike.show : ∀ {e e' : Expr}, e.alike c e' → e'.show = e.show
  | .column _, _, ⟨_, rfl, h⟩ => by rw [Expr.show, Expr.show, hc.lone _ _ h]
  | .qualified _, _, ⟨_, rfl, h⟩ => by rw [Expr.show, Expr.show, h.texts hc]
  | .form _ _, _, ⟨_, rfl, h⟩ => by rw [Expr.show, Expr.show, h.shown]
termination_by structural p => p

theorem Query.alike.show : ∀ {q q' : Query}, q.alike c q' → q'.show = q.show
  | .mk _ _ _, _, ⟨_, _, _, rfl, hctes, hbody, hclauses⟩ => by
    rw [Query.show, Query.show, hctes.shown, hbody.show, hclauses.shown]
termination_by structural p => p

theorem Body.alike.show : ∀ {b b' : Body}, b.alike c b' → b'.show = b.show
  | .select _, _, ⟨_, rfl, h⟩ => by rw [Body.show, Body.show, h.show]
  | .query _, _, ⟨_, rfl, h⟩ => by rw [Body.show, Body.show, h.show]
  | .setOperation _ _ _ _, _, ⟨_, _, _, rfl, hl, hq, hr⟩ => by
    rw [Body.show, Body.show, hl.show, hq.shown, hr.show]
  | .statement _, _, ⟨_, rfl, h⟩ => by rw [Body.show, Body.show, h.show sameSpelling_eq]
  | .form _ _, _, ⟨_, rfl, h⟩ => by rw [Body.show, Body.show, h.shown]
termination_by structural p => p

theorem Select.alike.show : ∀ {s s' : Select}, s.alike c s' → s'.show = s.show
  | .mk _ _ _ _ _ _ _, _, ⟨_, _, _, _, _, rfl, hhead, hitems, hmiddle, htables, hclauses⟩ => by
    rw [Select.show, Select.show, hhead.shown, hitems.texts hc.label, hmiddle.shown,
      htables.texts hc.joined, hclauses.shown]
termination_by structural p => p

theorem SelectItem.alike.show {r : Ident → Ident → Prop} (hr : SameSpelling r) :
    ∀ {i j : SelectItem}, i.alike c r j → j.show = i.show
  | .plain _, _, ⟨_, rfl, h⟩ => by rw [SelectItem.show, SelectItem.show, h.show]
  | .aliased _ _, _, ⟨_, _, rfl, hl, h⟩ => by
    rw [SelectItem.show, SelectItem.show, h.show, hr _ _ hl]
  | .form _ _, _, ⟨_, rfl, h⟩ => by rw [SelectItem.show, SelectItem.show, h.shown]
termination_by structural p => p

theorem alikeItems.texts {r : Ident → Ident → Prop} (hr : SameSpelling r) :
    ∀ {is js}, alikeItems c r is js → textsOfItems js = textsOfItems is
  | [], _, rfl => rfl
  | _ :: _, _, ⟨_, _, rfl, h, hs⟩ => by rw [textsOfItems, textsOfItems, h.show hr, hs.texts hr]
termination_by structural p => p

theorem Alias.alike.show {r : Ident → Ident → Prop} (hr : SameSpelling r) :
    ∀ {a b : Alias}, a.alike c r b → b.show = a.show
  | .absent, _, rfl => rfl
  | .named _ _ _, _, ⟨_, _, rfl, hn, h⟩ => by
    rw [Alias.show, Alias.show, hr _ _ hn, h.isEmpty, h.texts]
termination_by structural p => p

theorem TableFactor.alike.show {u : Ident → Ident → Prop} (hu : SameSpelling u) :
    ∀ {t t' : TableFactor}, t.alike c u t' → t'.show = t.show
  | .table _ _ _, _, ⟨_, _, _, rfl, hn, ha, h⟩ => by
    rw [TableFactor.show, TableFactor.show, hn.texts hc.relation, ha.show hc.source, h.shown]
  | .derived _ _ _, _, ⟨_, _, rfl, h, ha⟩ => by
    rw [TableFactor.show, TableFactor.show, h.show, ha.show hc.source]
  | .nested _ _, _, ⟨_, _, rfl, h, ha⟩ => by
    rw [TableFactor.show, TableFactor.show, h.show hu, ha.show sameSpelling_eq]
  | .form _ _, _, ⟨_, rfl, h⟩ => by rw [TableFactor.show, TableFactor.show, h.shown]
termination_by structural p => p

theorem TableWithJoins.alike.show {u : Ident → Ident → Prop} (hu : SameSpelling u) :
    ∀ {t t' : TableWithJoins}, t.alike c u t' → t'.show = t.show
  | .mk _ _, _, ⟨_, _, rfl, h, hs⟩ => by
    rw [TableWithJoins.show, TableWithJoins.show, h.show hu, hs.texts hu]
termination_by structural p => p

theorem alikeTables.texts {u : Ident → Ident → Prop} (hu : SameSpelling u) :
    ∀ {ts ts'}, alikeTables c u ts ts' → textsOfTables ts' = textsOfTables ts
  | [], _, rfl => rfl
  | _ :: _, _, ⟨_, _, rfl, h, hs⟩ => by rw [textsOfTables, textsOfTables, h.show hu, hs.texts hu]
termination_by structural p => p

theorem Join.alike.show {u : Ident → Ident → Prop} (hu : SameSpelling u) :
    ∀ {j k : Join}, j.alike c u k → k.show = j.show
  | .constrained _ _ _ _, _, ⟨_, _, rfl, h, hon⟩ => by
    rw [Join.show, Join.show, hon.lead, h.show hu, hon.show hu]
  | .asOf _ _ _ _, _, ⟨_, _, _, rfl, h, hcond, hon⟩ => by
    rw [Join.show, Join.show, h.show hu, hcond.show, hon.show hu]
  | .apply _ _ _, _, ⟨_, rfl, h⟩ => by rw [Join.show, Join.show, h.show hu]
termination_by structural p => p

theorem alikeJoins.texts {u : Ident → Ident → Prop} (hu : SameSpelling u) :
    ∀ {js ks}, alikeJoins c u js ks → textsOfJoins ks = textsOfJoins js
  | [], _, rfl => rfl
  | _ :: _, _, ⟨_, _, rfl, h, hs⟩ => by rw [textsOfJoins, textsOfJoins, h.show hu, hs.texts hu]
termination_by structural p => p

theorem JoinConstraint.alike.show {u : Ident → Ident → Prop} (hu : SameSpelling u) :
    ∀ {o o' : JoinConstraint}, o.alike c u o' → o'.show = o.show
  | .on _, _, ⟨_, rfl, h⟩ => by rw [JoinConstraint.show, JoinConstraint.show, h.show]
  | .using _, _, ⟨_, rfl, h⟩ => by rw [JoinConstraint.show, JoinConstraint.show, h.texts hu]
  | .natural, _, rfl => rfl
  | .absent, _, rfl => rfl
termination_by structural p => p

theorem Target.alike.show {u : Ident → Ident → Prop} (hu : SameSpelling u) :
    ∀ {t t' : Target}, t.alike c u t' → t'.show = t.show
  | .name _, _, ⟨_, rfl, h⟩ => by rw [Target.show, Target.show, h.texts hu]
  | .tuple _, _, ⟨_, rfl, h⟩ => by rw [Target.show, Target.show, h.texts hu]
termination_by structural p => p

theorem Assignment.alike.show {u : Ident → Ident → Prop} (hu : SameSpelling u) :
    ∀ {a b : Assignment}, a.alike c u b → b.show = a.show
  | .mk _ _, _, ⟨_, _, rfl, ht, h⟩ => by
    rw [Assignment.show, Assignment.show, ht.show hu, h.show]
termination_by structural p => p

theorem alikeAssignments.texts {u : Ident → Ident → Prop} (hu : SameSpelling u) :
    ∀ {as bs}, alikeAssignments c u as bs → textsOfAssignments bs = textsOfAssignments as
  | [], _, rfl => rfl
  | _ :: _, _, ⟨_, _, rfl, h, hs⟩ => by
    rw [textsOfAssignments, textsOfAssignments, h.show hu, hs.texts hu]
termination_by structural p => p

theorem ConflictTarget.alike.show {u : Ident → Ident → Prop} (hu : SameSpelling u) :
    ∀ {t t' : ConflictTarget}, t.alike c u t' → t'.show = t.show
  | .absent, _, rfl => rfl
  | .columns _, _, ⟨_, rfl, h⟩ => by rw [ConflictTarget.show, ConflictTarget.show, hu.texts h]
  | .constraint _, _, ⟨_, rfl, h⟩ => by
    rw [ConflictTarget.show, ConflictTarget.show, h.texts sameSpelling_eq]
termination_by structural p => p

theorem OnInsert.alike.show {u : Ident → Ident → Prop} (hu : SameSpelling u) :
    ∀ {o o' : OnInsert}, o.alike c u o' → o'.show = o.show
  | .absent, _, rfl => rfl
  | .duplicateKey _, _, ⟨_, rfl, h⟩ => by
    rw [OnInsert.show_duplicateKey, OnInsert.show_duplicateKey, h.texts hu]
  | .conflictNothing _, _, ⟨_, rfl, h⟩ => by
    rw [OnInsert.show_conflictNothing, OnInsert.show_conflictNothing, h.show hu]
  | .conflictUpdate _ _ _, _, ⟨_, _, _, rfl, ht, hs, hcond⟩ => by
    rw [OnInsert.show_conflictUpdate, OnInsert.show_conflictUpdate, ht.show hu, hs.texts hu,
      hcond.shown]
termination_by structural p => p

theorem TableClause.alike.show {u : Ident → Ident → Prop} (hu : SameSpelling u) :
    ∀ {t t' : TableClause}, t.alike c u t' → t'.show = t.show
  | .absent, _, rfl => rfl
  | .present _ _, _, ⟨_, rfl, h⟩ => by rw [TableClause.show, TableClause.show, h.texts hu]
termination_by structural p => p

theorem TableClause.alike.showIn {u : Ident → Ident → Prop} (hu : SameSpelling u)
    (role : TableRole) : ∀ {t t' : TableClause}, t.alike c u t' → t'.showIn role = t.showIn role
  | .absent, _, rfl => rfl
  | .present _ _, _, ⟨_, rfl, h⟩ => by rw [TableClause.showIn, TableClause.showIn, h.texts hu]
termination_by structural p => p

/-- Statements that are alike have the same text if each change keeps the spelling. -/
theorem Statement.alike.show {u : Ident → Ident → Prop} (hu : SameSpelling u) :
    ∀ {s s' : Statement}, s.alike c u s' → s'.show = s.show
  | .query _, _, ⟨_, rfl, h⟩ => by rw [Statement.show, Statement.show, h.show]
  | .insert _ _ _ _ _, _, ⟨_, _, _, _, _, rfl, hhead, hcolumns, hmiddle, hon, hclauses⟩ => by
    rw [Statement.show, Statement.show, hhead.shown, hu.texts hcolumns, hmiddle.shown,
      hon.show hu, hclauses.shown]
  | .update _ _ _ _ _, _, ⟨_, _, _, _, _, rfl, hhead, htable, hassigned, hsource, hclauses⟩ => by
    rw [Statement.show, Statement.show, hhead.shown, htable.show hu, hassigned.texts hu,
      hsource.showIn hu, hsource.showIn hu, hclauses.shown]
  | .delete _ _ _ _, _, ⟨_, _, _, _, rfl, hhead, hsource, hothers, hclauses⟩ => by
    rw [Statement.show, Statement.show, hhead.shown, hsource.show hu, hothers.show hu,
      hclauses.shown]
  | .other _ _, _, ⟨_, rfl, h⟩ => by rw [Statement.show, Statement.show, h.shown]
termination_by structural p => p

theorem Part.alike.shown : ∀ {p q : Part}, p.alike c q → q.shown = p.shown
  | .absent, _, rfl => rfl
  | .flag _, _, rfl => rfl
  | .number _, _, rfl => rfl
  | .text _, _, rfl => rfl
  | .choice _ _, _, rfl => rfl
  | .value _, _, rfl => rfl
  | .token _, _, rfl => rfl
  | .span _, _, rfl => rfl
  | .ident _, _, rfl => rfl
  | .name _, _, ⟨_, rfl, h⟩ => by rw [Part.shown, Part.shown, h.texts sameSpelling_eq]
  | .relation _, _, ⟨_, rfl, h⟩ => by rw [Part.shown, Part.shown, h.texts hc.relation]
  | .expr _, _, ⟨_, rfl, h⟩ => by rw [Part.shown, Part.shown, h.show]
  | .query _, _, ⟨_, rfl, h⟩ => by rw [Part.shown, Part.shown, h.show]
  | .item _, _, ⟨_, rfl, h⟩ => by rw [Part.shown, Part.shown, h.show sameSpelling_eq]
  | .factor _, _, ⟨_, rfl, h⟩ => by rw [Part.shown, Part.shown, h.show sameSpelling_eq]
  | .tables _, _, ⟨_, rfl, h⟩ => by rw [Part.shown, Part.shown, h.show sameSpelling_eq]
  | .join _, _, ⟨_, rfl, h⟩ => by rw [Part.shown, Part.shown, h.show sameSpelling_eq]
  | .assignment _, _, ⟨_, rfl, h⟩ => by rw [Part.shown, Part.shown, h.show sameSpelling_eq]
  | .label _, _, ⟨_, rfl, h⟩ => by rw [Part.shown, Part.shown, h.show sameSpelling_eq]
  | .statement _, _, ⟨_, rfl, h⟩ => by rw [Part.shown, Part.shown, h.show sameSpelling_eq]
  | .list _, _, ⟨_, rfl, h⟩ => by rw [Part.shown, Part.shown, h.texts]
  | .node _ _, _, ⟨_, rfl, h⟩ => by rw [Part.shown, Part.shown, h.shown]
termination_by structural p => p

theorem alikeParts.shown : ∀ {ps qs}, alikeParts c ps qs → shownParts qs = shownParts ps
  | [], _, rfl => rfl
  | _ :: _, _, ⟨_, _, rfl, h, hs⟩ => by rw [shownParts, shownParts, h.shown, hs.shown]
termination_by structural p => p

theorem alikeParts.texts : ∀ {ps qs}, alikeParts c ps qs → textsOfParts qs = textsOfParts ps
  | [], _, rfl => rfl
  | _ :: _, _, ⟨_, _, rfl, h, hs⟩ => by rw [textsOfParts, textsOfParts, h.shown, hs.texts]
termination_by structural p => p

end

end

end ColumnMask.Sql
