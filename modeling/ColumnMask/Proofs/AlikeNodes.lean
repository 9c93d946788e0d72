-- The nodes of trees of one shape. Below nodes that are alike stand nodes that are alike,
-- one beside the other. So each node in one of two such trees has its counterpart in the
-- other one, at any depth.
import ColumnMask.Proofs.Counterparts
import ColumnMask.Proofs.Subterms
import Mathlib.Order.Basic

namespace ColumnMask.Sql

/-- No more than the bound is allowed at any place that depends on the nodes above. -/
structure Change.Within (c : Change) (b : Ident → Ident → Prop) : Prop where
  keep : Eq ≤ b
  joined : c.joined ≤ b
  relation : c.relation ≤ b
  source : c.source ≤ b
  label : c.label ≤ b

theorem le_unbounded (u : Ident → Ident → Prop) : u ≤ fun _ _ => True := fun _ _ _ => trivial

theorem Change.within_unbounded (c : Change) : c.Within fun _ _ => True :=
  ⟨le_unbounded _, le_unbounded _, le_unbounded _, le_unbounded _, le_unbounded _⟩

/-- Nodes of one kind that are alike. What may stand for an identifier can depend on the nodes
above; it is then known up to the bound. -/
inductive Node.Alike (c : Change) (b : Ident → Ident → Prop) : Node → Node → Prop where
  | namePart {r : Ident → Ident → Prop} {p q : NamePart} (hr : r ≤ b) (h : p.alike c r q) :
    Alike c b (.namePart p) (.namePart q)
  | expr {e e' : Expr} (h : e.alike c e') : Alike c b (.expr e) (.expr e')
  | query {q q' : Query} (h : q.alike c q') : Alike c b (.query q) (.query q')
  | body {o o' : Body} (h : o.alike c o') : Alike c b (.body o) (.body o')
  | select {s s' : Select} (h : s.alike c s') : Alike c b (.select s) (.select s')
  | item {r : Ident → Ident → Prop} {i j : SelectItem} (hr : r ≤ b) (h : i.alike c r j) :
    Alike c b (.item i) (.item j)
  | label {r : Ident → Ident → Prop} {a a' : Alias} (hr : r ≤ b) (h : a.alike c r a') :
    Alike c b (.label a) (.label a')
  | factor {u : Ident → Ident → Prop} {t t' : TableFactor} (hu : u ≤ b) (h : t.alike c u t') :
    Alike c b (.factor t) (.factor t')
  | tables {u : Ident → Ident → Prop} {t t' : TableWithJoins} (hu : u ≤ b) (h : t.alike c u t') :
    Alike c b (.tables t) (.tables t')
  | join {u : Ident → Ident → Prop} {j k : Join} (hu : u ≤ b) (h : j.alike c u k) :
    Alike c b (.join j) (.join k)
  | constraint {u : Ident → Ident → Prop} {o o' : JoinConstraint} (hu : u ≤ b)
    (h : o.alike c u o') : Alike c b (.constraint o) (.constraint o')
  | target {u : Ident → Ident → Prop} {t t' : Target} (hu : u ≤ b) (h : t.alike c u t') :
    Alike c b (.target t) (.target t')
  | assignment {u : Ident → Ident → Prop} {a a' : Assignment} (hu : u ≤ b) (h : a.alike c u a') :
    Alike c b (.assignment a) (.assignment a')
  | conflict {u : Ident → Ident → Prop} {t t' : ConflictTarget} (hu : u ≤ b)
    (h : t.alike c u t') : Alike c b (.conflict t) (.conflict t')
  | onInsert {u : Ident → Ident → Prop} {o o' : OnInsert} (hu : u ≤ b) (h : o.alike c u o') :
    Alike c b (.onInsert o) (.onInsert o')
  | clause {u : Ident → Ident → Prop} {t t' : TableClause} (hu : u ≤ b) (h : t.alike c u t') :
    Alike c b (.clause t) (.clause t')
  | statement {u : Ident → Ident → Prop} {s s' : Statement} (hu : u ≤ b) (h : s.alike c u s') :
    Alike c b (.statement s) (.statement s')
  | part {p q : Part} (h : p.alike c q) : Alike c b (.part p) (.part q)

variable {c : Change} {b : Ident → Ident → Prop}

/-- Two lists of nodes, one beside the other. -/
abbrev NodesBeside (c : Change) (b : Ident → Ident → Prop) : List Node → List Node → Prop :=
  List.Forall₂ (Node.Alike c b)

/-! ## Lists of nodes -/

theorem exists_beside {α β : Type} {r : α → β → Prop} {as : List α} {bs : List β}
    (h : List.Forall₂ r as bs) {a : α} (ha : a ∈ as) : ∃ b ∈ bs, r a b := by
  induction h with
  | nil => cases ha
  | cons hr _ ih =>
    rcases List.mem_cons.mp ha with rfl | ha
    · exact ⟨_, List.mem_cons_self .., hr⟩
    · obtain ⟨b, hb, hab⟩ := ih ha
      exact ⟨b, List.mem_cons_of_mem _ hb, hab⟩

theorem NodesBeside.append {ns ns' ms ms' : List Node} (hn : NodesBeside c b ns ns')
    (hm : NodesBeside c b ms ms') : NodesBeside c b (ns ++ ms) (ns' ++ ms') :=
  List.rel_append hn hm

theorem alikeParts.nodes {ps qs : List Part} (h : alikeParts c ps qs) :
    NodesBeside c b (ps.map .part) (qs.map .part) := by
  induction ps generalizing qs with
  | nil =>
    obtain rfl := h
    exact .nil
  | cons p ps ih =>
    obtain ⟨_, _, rfl, h, hs⟩ := h
    exact .cons (.part h) (ih hs)

theorem alikeName.nodes {r : Ident → Ident → Prop} (hr : r ≤ b) {n m : ObjectName}
    (h : alikeName c r n m) : NodesBeside c b (n.map .namePart) (m.map .namePart) := by
  induction n generalizing m with
  | nil =>
    obtain rfl := h
    exact .nil
  | cons p n ih =>
    obtain ⟨_, _, rfl, h, hs⟩ := h
    exact .cons (.namePart hr h) (ih hs)

theorem alikeSite.nodes {u : Ident → Ident → Prop} (hk : Eq ≤ b) (hu : u ≤ b) {n m : ObjectName}
    (h : alikeSite c u n m) : NodesBeside c b (n.map .namePart) (m.map .namePart) := by
  induction n generalizing m with
  | nil =>
    obtain rfl := h
    exact .nil
  | cons p n ih =>
    -- Only the last part of the name stands for a column.
    cases n with
    | nil =>
      obtain ⟨_, rfl, h⟩ := h
      exact .cons (.namePart hu h) .nil
    | cons o n =>
      obtain ⟨_, _, rfl, h, hs⟩ := h
      exact .cons (.namePart hk h) (ih hs)

theorem alikeSites.nodes {u : Ident → Ident → Prop} (hk : Eq ≤ b) (hu : u ≤ b)
    {ns ms : List ObjectName} (h : alikeSites c u ns ms) :
    NodesBeside c b (ns.flatten.map .namePart) (ms.flatten.map .namePart) := by
  induction ns generalizing ms with
  | nil =>
    obtain rfl := h
    exact .nil
  | cons n ns ih =>
    obtain ⟨_, _, rfl, h, hs⟩ := h
    rw [List.flatten_cons, List.flatten_cons, List.map_append, List.map_append]
    exact (h.nodes hk hu).append (ih hs)

theorem alikeItems.nodes {r : Ident → Ident → Prop} (hr : r ≤ b) {is js : List SelectItem}
    (h : alikeItems c r is js) : NodesBeside c b (is.map .item) (js.map .item) := by
  induction is generalizing js with
  | nil =>
    obtain rfl := h
    exact .nil
  | cons i is ih =>
    obtain ⟨_, _, rfl, h, hs⟩ := h
    exact .cons (.item hr h) (ih hs)

theorem alikeTables.nodes {u : Ident → Ident → Prop} (hu : u ≤ b) {ts ts' : List TableWithJoins}
    (h : alikeTables c u ts ts') : NodesBeside c b (ts.map .tables) (ts'.map .tables) := by
  induction ts generalizing ts' with
  | nil =>
    obtain rfl := h
    exact .nil
  | cons t ts ih =>
    obtain ⟨_, _, rfl, h, hs⟩ := h
    exact .cons (.tables hu h) (ih hs)

theorem alikeJoins.nodes {u : Ident → Ident → Prop} (hu : u ≤ b) {js ks : List Join}
    (h : alikeJoins c u js ks) : NodesBeside c b (js.map .join) (ks.map .join) := by
  induction js generalizing ks with
  | nil =>
    obtain rfl := h
    exact .nil
  | cons j js ih =>
    obtain ⟨_, _, rfl, h, hs⟩ := h
    exact .cons (.join hu h) (ih hs)

theorem alikeAssignments.nodes {u : Ident → Ident → Prop} (hu : u ≤ b) {as as' : List Assignment}
    (h : alikeAssignments c u as as') :
    NodesBeside c b (as.map .assignment) (as'.map .assignment) := by
  induction as generalizing as' with
  | nil =>
    obtain rfl := h
    exact .nil
  | cons a as ih =>
    obtain ⟨_, _, rfl, h, hs⟩ := h
    exact .cons (.assignment hu h) (ih hs)

/-! ## One step down -/

/-- The nodes right below two nodes stand beside each other. -/
abbrev ChildrenBeside (c : Change) (b : Ident → Ident → Prop) (n n' : Node) : Prop :=
  NodesBeside c b n.children n'.children

section

variable {u : Ident → Ident → Prop}

theorem NamePart.alike.children {p q : NamePart} (h : p.alike c u q) :
    ChildrenBeside c b (.namePart p) (.namePart q) := by
  cases p with
  | ident i =>
    obtain ⟨_, rfl, _⟩ := h
    exact .nil
  | call name args =>
    obtain ⟨_, rfl, hargs⟩ := h
    exact hargs.nodes

theorem Expr.alike.children {e e' : Expr} (h : e.alike c e') :
    ChildrenBeside c b (.expr e) (.expr e') := by
  cases e with
  | column i =>
    obtain ⟨_, rfl, _⟩ := h
    exact .nil
  | qualified is =>
    obtain ⟨_, rfl, _⟩ := h
    exact .nil
  | form f ps =>
    obtain ⟨_, rfl, hps⟩ := h
    exact hps.nodes

theorem Query.alike.children {q q' : Query} (h : q.alike c q') :
    ChildrenBeside c b (.query q) (.query q') := by
  cases q with
  | mk ctes body clauses =>
    obtain ⟨_, _, _, rfl, hctes, hbody, hclauses⟩ := h
    exact .cons (.part hctes) (.cons (.body hbody) hclauses.nodes)

theorem SelectItem.alike.children {i j : SelectItem} (h : i.alike c u j) :
    ChildrenBeside c b (.item i) (.item j) := by
  cases i with
  | plain e =>
    obtain ⟨_, rfl, he⟩ := h
    exact .cons (.expr he) .nil
  | aliased e label =>
    obtain ⟨_, _, rfl, _, he⟩ := h
    exact .cons (.expr he) .nil
  | form f ps =>
    obtain ⟨_, rfl, hps⟩ := h
    exact hps.nodes

theorem Alias.alike.children {a a' : Alias} (h : a.alike c u a') :
    ChildrenBeside c b (.label a) (.label a') := by
  cases a with
  | absent =>
    obtain rfl := h
    exact .nil
  | named explicit name columns =>
    obtain ⟨_, _, rfl, _, hcolumns⟩ := h
    exact hcolumns.nodes

section

variable (H : c.Within b)

include H

theorem Body.alike.children {o o' : Body} (h : o.alike c o') :
    ChildrenBeside c b (.body o) (.body o') := by
  cases o with
  | select s =>
    obtain ⟨_, rfl, hs⟩ := h
    exact .cons (.select hs) .nil
  | query q =>
    obtain ⟨_, rfl, hq⟩ := h
    exact .cons (.query hq) .nil
  | setOperation left operator quantifier right =>
    obtain ⟨_, _, _, rfl, hl, hq, hr⟩ := h
    exact .cons (.body hl) (.cons (.part hq) (.cons (.body hr) .nil))
  | statement s =>
    obtain ⟨_, rfl, hs⟩ := h
    exact .cons (.statement H.keep hs) .nil
  | form f ps =>
    obtain ⟨_, rfl, hps⟩ := h
    exact hps.nodes

theorem Select.alike.children {s s' : Select} (h : s.alike c s') :
    ChildrenBeside c b (.select s) (.select s') := by
  cases s with
  | mk flavor mode head projection middle tables clauses =>
    obtain ⟨_, _, _, _, _, rfl, hhead, hitems, hmiddle, htables, hclauses⟩ := h
    exact (((hhead.nodes.append (hitems.nodes H.label)).append hmiddle.nodes).append
      (htables.nodes H.joined)).append hclauses.nodes

theorem ConflictTarget.alike.children {t t' : ConflictTarget} (h : t.alike c u t') :
    ChildrenBeside c b (.conflict t) (.conflict t') := by
  cases t with
  | absent =>
    obtain rfl := h
    exact .nil
  | columns is =>
    obtain ⟨_, rfl, _⟩ := h
    exact .nil
  | constraint name =>
    obtain ⟨_, rfl, hn⟩ := h
    exact hn.nodes H.keep

theorem Part.alike.children {p q : Part} (h : p.alike c q) :
    ChildrenBeside c b (.part p) (.part q) := by
  cases p with
  | name n =>
    obtain ⟨_, rfl, hn⟩ := h
    exact hn.nodes H.keep
  | relation n =>
    obtain ⟨_, rfl, hn⟩ := h
    exact hn.nodes H.relation
  | expr e =>
    obtain ⟨_, rfl, he⟩ := h
    exact .cons (.expr he) .nil
  | query p =>
    obtain ⟨_, rfl, hq⟩ := h
    exact .cons (.query hq) .nil
  | item i =>
    obtain ⟨_, rfl, hi⟩ := h
    exact .cons (.item H.keep hi) .nil
  | factor t =>
    obtain ⟨_, rfl, ht⟩ := h
    exact .cons (.factor H.keep ht) .nil
  | tables t =>
    obtain ⟨_, rfl, ht⟩ := h
    exact .cons (.tables H.keep ht) .nil
  | join j =>
    obtain ⟨_, rfl, hj⟩ := h
    exact .cons (.join H.keep hj) .nil
  | assignment a =>
    obtain ⟨_, rfl, ha⟩ := h
    exact .cons (.assignment H.keep ha) .nil
  | label a =>
    obtain ⟨_, rfl, ha⟩ := h
    exact .cons (.label H.keep ha) .nil
  | statement s =>
    obtain ⟨_, rfl, hs⟩ := h
    exact .cons (.statement H.keep hs) .nil
  | list ps =>
    obtain ⟨_, rfl, hps⟩ := h
    exact hps.nodes
  | node f ps =>
    obtain ⟨_, rfl, hps⟩ := h
    exact hps.nodes
  -- Any other part is a leaf, and stands beside itself.
  | _ =>
    obtain rfl := h
    exact .nil

end

section

variable (hu : u ≤ b)

include hu

theorem TableWithJoins.alike.children {t t' : TableWithJoins} (h : t.alike c u t') :
    ChildrenBeside c b (.tables t) (.tables t') := by
  cases t with
  | mk relation joins =>
    obtain ⟨_, _, rfl, hr, hjs⟩ := h
    exact .cons (.factor hu hr) (hjs.nodes hu)

theorem Join.alike.children {j k : Join} (h : j.alike c u k) :
    ChildrenBeside c b (.join j) (.join k) := by
  cases j with
  | constrained relation global kind on =>
    obtain ⟨_, _, rfl, hr, ho⟩ := h
    exact .cons (.factor hu hr) (.cons (.constraint hu ho) .nil)
  | asOf relation global condition on =>
    obtain ⟨_, _, _, rfl, hr, hcond, ho⟩ := h
    exact .cons (.factor hu hr) (.cons (.expr hcond) (.cons (.constraint hu ho) .nil))
  | apply relation global outer =>
    obtain ⟨_, rfl, hr⟩ := h
    exact .cons (.factor hu hr) .nil

theorem Assignment.alike.children {a a' : Assignment} (h : a.alike c u a') :
    ChildrenBeside c b (.assignment a) (.assignment a') := by
  cases a with
  | mk target value =>
    obtain ⟨_, _, rfl, ht, hv⟩ := h
    exact .cons (.target hu ht) (.cons (.expr hv) .nil)

theorem OnInsert.alike.children {o o' : OnInsert} (h : o.alike c u o') :
    ChildrenBeside c b (.onInsert o) (.onInsert o') := by
  cases o with
  | absent =>
    obtain rfl := h
    exact .nil
  | duplicateKey assignments =>
    obtain ⟨_, rfl, has⟩ := h
    exact has.nodes hu
  | conflictNothing target =>
    obtain ⟨_, rfl, ht⟩ := h
    exact .cons (.conflict hu ht) .nil
  | conflictUpdate target assignments condition =>
    obtain ⟨_, _, _, rfl, ht, has, hcond⟩ := h
    exact .cons (.conflict hu ht) (.cons (.part hcond) (has.nodes hu))

theorem TableClause.alike.children {t t' : TableClause} (h : t.alike c u t') :
    ChildrenBeside c b (.clause t) (.clause t') := by
  cases t with
  | absent =>
    obtain rfl := h
    exact .nil
  | present role tables =>
    obtain ⟨_, rfl, hts⟩ := h
    exact hts.nodes hu

theorem Statement.alike.children {s s' : Statement} (h : s.alike c u s') :
    ChildrenBeside c b (.statement s) (.statement s') := by
  cases s with
  | query q =>
    obtain ⟨_, rfl, hq⟩ := h
    exact .cons (.query hq) .nil
  | insert head columns middle on clauses =>
    obtain ⟨_, _, _, _, _, rfl, hhead, _, hmiddle, hon, hclauses⟩ := h
    simp only [ChildrenBeside, Node.children, List.map_append]
    exact .cons (.onInsert hu hon) ((hhead.nodes.append hmiddle.nodes).append hclauses.nodes)
  | update head table assignments source clauses =>
    obtain ⟨_, _, _, _, _, rfl, hhead, ht, has, hsource, hclauses⟩ := h
    simp only [ChildrenBeside, Node.children, List.map_append]
    exact .cons (.tables hu ht) (.cons (.clause hu hsource)
      ((has.nodes hu).append (hhead.nodes.append hclauses.nodes)))
  | delete head source others clauses =>
    obtain ⟨_, _, _, _, rfl, hhead, hsource, hothers, hclauses⟩ := h
    simp only [ChildrenBeside, Node.children, List.map_append]
    exact .cons (.clause hu hsource) (.cons (.clause hu hothers)
      (hhead.nodes.append hclauses.nodes))
  | other f ps =>
    obtain ⟨_, rfl, hps⟩ := h
    exact hps.nodes

end

section

variable (H : c.Within b) (hu : u ≤ b)

include H hu

theorem TableFactor.alike.children {t t' : TableFactor} (h : t.alike c u t') :
    ChildrenBeside c b (.factor t) (.factor t') := by
  cases t with
  | table name a details =>
    obtain ⟨_, _, _, rfl, hn, ha, hdetails⟩ := h
    exact (hn.nodes H.relation).append (.cons (.label H.source ha) hdetails.nodes)
  | derived lateral q a =>
    obtain ⟨_, _, rfl, hq, ha⟩ := h
    exact .cons (.query hq) (.cons (.label H.source ha) .nil)
  | nested t a =>
    obtain ⟨_, _, rfl, ht, ha⟩ := h
    exact .cons (.tables hu ht) (.cons (.label H.keep ha) .nil)
  | form f ps =>
    obtain ⟨_, rfl, hps⟩ := h
    exact hps.nodes

theorem JoinConstraint.alike.children {o o' : JoinConstraint} (h : o.alike c u o') :
    ChildrenBeside c b (.constraint o) (.constraint o') := by
  cases o with
  | on condition =>
    obtain ⟨_, rfl, hcond⟩ := h
    exact .cons (.expr hcond) .nil
  | «using» names =>
    obtain ⟨_, rfl, hns⟩ := h
    exact hns.nodes H.keep hu
  | natural =>
    obtain rfl := h
    exact .nil
  | absent =>
    obtain rfl := h
    exact .nil

theorem Target.alike.children {t t' : Target} (h : t.alike c u t') :
    ChildrenBeside c b (.target t) (.target t') := by
  cases t with
  | name name =>
    obtain ⟨_, rfl, hn⟩ := h
    exact hn.nodes H.keep hu
  | tuple names =>
    obtain ⟨_, rfl, hns⟩ := h
    exact hns.nodes H.keep hu

end

end

namespace Node.Alike

/-- The nodes right below nodes that are alike are alike, one beside the other. -/
theorem children (H : c.Within b) {n n' : Node} (h : n.Alike c b n') :
    ChildrenBeside c b n n' := by
  cases h with
  | namePart _ h => exact h.children
  | expr h => exact h.children
  | query h => exact h.children
  | body h => exact h.children H
  | select h => exact h.children H
  | item _ h => exact h.children
  | label _ h => exact h.children
  | factor hu h => exact h.children H hu
  | tables hu h => exact h.children hu
  | join hu h => exact h.children hu
  | constraint hu h => exact h.children H hu
  | target hu h => exact h.children H hu
  | assignment hu h => exact h.children hu
  | conflict _ h => exact h.children H
  | onInsert hu h => exact h.children hu
  | clause hu h => exact h.children hu
  | statement hu h => exact h.children hu
  | part h => exact h.children H

/-! ## Any number of steps down -/

/-- What the first node contains has its counterpart in what the second one contains. -/
theorem contained (H : c.Within b) {n n' k : Node} (h : n.Alike c b n') (hk : n.Contains k) :
    ∃ k', n'.Contains k' ∧ k.Alike c b k' := by
  induction hk using Relation.ReflTransGen.head_induction_on generalizing n' with
  | refl => exact ⟨n', .refl, h⟩
  | head hj _ ih =>
    obtain ⟨j', hj', hjj⟩ := exists_beside (h.children H) hj
    obtain ⟨k', hk', hkk⟩ := ih hjj
    exact ⟨k', .head hj' hk', hkk⟩

/-- What the second node contains has its counterpart in what the first one contains. -/
theorem container (H : c.Within b) {n n' k' : Node} (h : n.Alike c b n') (hk : n'.Contains k') :
    ∃ k, n.Contains k ∧ k.Alike c b k' := by
  induction hk using Relation.ReflTransGen.head_induction_on generalizing n with
  | refl => exact ⟨n, .refl, h⟩
  | head hj _ ih =>
    obtain ⟨j, hj, hjj⟩ := exists_beside (h.children H).flip hj
    obtain ⟨k, hk, hkk⟩ := ih hjj
    exact ⟨k, .head hj hk, hkk⟩

end Node.Alike

end ColumnMask.Sql
