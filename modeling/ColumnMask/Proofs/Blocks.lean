-- Every SELECT block is collected once. A query is entered with the SELECT blocks of its body,
-- across set operations; a query in parentheses, or anywhere below, is entered by itself. So
-- the blocks that are collected on a walk are the blocks of the tree, each as often as it
-- stands there, and the columns of its joins are listed once and renamed once.
import ColumnMask.Proofs.AlikeNodes
import ColumnMask.Proofs.Entering
import ColumnMask.Proofs.Renaming
import Mathlib.Data.List.Basic
import Mathlib.Data.List.Perm.Basic

namespace ColumnMask.Sql

/-! ## All nodes of a tree -/

namespace Node

/-- All nodes of a tree, each as often as it stands there: the node itself, then those below it. -/
def nodes (n : Node) : List Node := n :: n.children.attach.flatMap fun k => k.1.nodes
termination_by n.size
decreasing_by exact size_lt_of_mem_children k.2

theorem nodes_eq (n : Node) : n.nodes = n :: n.children.flatMap nodes := by
  rw [nodes]
  simp

/-- The SELECT block that a node is. -/
def block? : Node → Option Select
  | .select s => some s
  | _ => none

/-- The SELECT blocks of a tree, each as often as it stands there. -/
def blocks (n : Node) : List Select := n.nodes.filterMap block?

/-- The visits of the tree of a node. A body and a SELECT block count with the entering of their
query. -/
def visits : Node → List Visit
  | .namePart p => p.visits unmet
  | .expr e => e.visits
  | .query q => q.visits
  | .body b => .enter b :: b.visits
  | .select s => .enter (.select s) :: s.visits
  | .item i => i.visits unmet
  | .label a => a.visits unmet
  | .factor f => f.visits
  | .tables t => t.visits
  | .join j => j.visits
  | .constraint c => c.visits
  | .target t => t.visits
  | .assignment a => a.visits
  | .conflict t => t.visits
  | .onInsert o => o.visits
  | .clause c => c.visits
  | .statement s => s.visits
  | .part p => p.visits

end Node

/-! ## What is found at visits -/

section

variable {α : Type}

/-- Something is found at columns and on entering queries only, there in each of the SELECT blocks
that set operations combine. -/
structure FoundInBlocks (on : Visit → List α) : Prop where
  query : ∀ q, on (.enter (.query q)) = []
  setOperation : ∀ left operator quantifier right,
    on (.enter (.setOperation left operator quantifier right)) =
      on (.enter left) ++ on (.enter right)
  statement : ∀ s, on (.enter (.statement s)) = []
  form : ∀ f ps, on (.enter (.form f ps)) = []
  relation : ∀ i, on (.relation i) = []
  source : ∀ i, on (.source i) = []
  label : ∀ i, on (.label i) = []
  inner : ∀ s, on (.inner s) = []

/-- What is found at a node itself. -/
def Node.found (on : Visit → List α) : Node → List α
  | .expr (.column i) => on (.lone i)
  | .expr (.qualified is) => (visitsOfIdents is).flatMap on
  | .select s => on (.enter (.select s))
  | _ => []

/-- Nothing is found at the identifiers of names. -/
def Bare (on : Visit → List α) (names : Ident → List Visit) : Prop := ∀ i, (names i).flatMap on = []

variable {on : Visit → List α} {names : Ident → List Visit}

theorem found_parts (ps : List Part) :
    (visitsOfParts ps).flatMap on = ps.flatMap fun p => p.visits.flatMap on := by
  induction ps with
  | nil => rfl
  | cons p ps ih => rw [visitsOfParts, List.flatMap_append, ih, List.flatMap_cons]

theorem NamePart.found_eq (h : Bare on names) (p : NamePart) :
    (p.visits names).flatMap on = (p.visits unmet).flatMap on := by
  cases p with
  | ident i => exact h i
  | call name args => rfl

theorem found_name (h : Bare on names) (n : ObjectName) :
    (visitsOfName names n).flatMap on = n.flatMap fun p => (p.visits unmet).flatMap on := by
  induction n with
  | nil => rfl
  | cons p n ih => rw [visitsOfName, List.flatMap_append, ih, p.found_eq h, List.flatMap_cons]

theorem found_names (ns : List ObjectName) :
    (visitsOfNames ns).flatMap on = ns.flatten.flatMap fun p => (p.visits unmet).flatMap on := by
  induction ns with
  | nil => rfl
  | cons n ns ih =>
    rw [visitsOfNames, List.flatMap_append, ih, found_name (fun _ => rfl), List.flatten_cons,
      List.flatMap_append]

theorem SelectItem.found_eq (h : Bare on names) (i : SelectItem) :
    (i.visits names).flatMap on = (i.visits unmet).flatMap on := by
  cases i with
  | aliased e label => simp [SelectItem.visits, h label, unmet]
  | _ => rfl

theorem found_items (h : Bare on names) (is : List SelectItem) :
    (visitsOfItems names is).flatMap on = is.flatMap fun i => (i.visits unmet).flatMap on := by
  induction is with
  | nil => rfl
  | cons i is ih => rw [visitsOfItems, List.flatMap_append, ih, i.found_eq h, List.flatMap_cons]

theorem Alias.found_eq (h : Bare on names) (a : Alias) :
    (a.visits names).flatMap on = (a.visits unmet).flatMap on := by
  cases a with
  | absent => rfl
  | named explicit name columns => simp [Alias.visits, h name, unmet]

theorem found_tables (ts : List TableWithJoins) :
    (visitsOfTables ts).flatMap on = ts.flatMap fun t => t.visits.flatMap on := by
  induction ts with
  | nil => rfl
  | cons t ts ih => rw [visitsOfTables, List.flatMap_append, ih, List.flatMap_cons]

theorem found_joins (js : List Join) :
    (visitsOfJoins js).flatMap on = js.flatMap fun j => j.visits.flatMap on := by
  induction js with
  | nil => rfl
  | cons j js ih => rw [visitsOfJoins, List.flatMap_append, ih, List.flatMap_cons]

theorem found_assignments (as : List Assignment) :
    (visitsOfAssignments as).flatMap on = as.flatMap fun a => a.visits.flatMap on := by
  induction as with
  | nil => rfl
  | cons a as ih => rw [visitsOfAssignments, List.flatMap_append, ih, List.flatMap_cons]

/-- One step down: what is found on the visits of a tree is found at its node, or on the visits of
the trees right below, each of them once. -/
theorem Node.found_step (H : FoundInBlocks on) (n : Node) : (n.visits.flatMap on).Perm
    (n.found on ++ n.children.flatMap fun k => k.visits.flatMap on) := by
  classical
  have hunmet : Bare on unmet := fun _ => rfl
  have hrelation : Bare on atRelation := fun i => by simp [atRelation, H.relation]
  have hsource : Bare on atSource := fun i => by simp [atSource, H.source]
  have hlabel : Bare on atLabel := fun i => by simp [atLabel, H.label]
  rw [List.perm_iff_count]
  intro a
  fun_cases children n
  all_goals simp only [visits, found, NamePart.visits, Expr.visits, Query.visits, Body.visits,
    Select.visits, SelectItem.visits, Alias.visits, TableFactor.visits, TableWithJoins.visits,
    Join.visits, JoinConstraint.visits, Target.visits, Assignment.visits, ConflictTarget.visits,
    OnInsert.visits, TableClause.visits, Statement.visits, Part.visits, unmet,
    List.flatMap_cons, List.flatMap_append, List.flatMap_map, List.flatMap_nil, List.map_append,
    List.count_append, List.count_nil, H.query, H.setOperation, H.statement, H.form, H.inner,
    found_parts, found_name hrelation, found_name hunmet, found_names,
    found_items hlabel, found_tables, found_joins, found_assignments, Alias.found_eq hsource]
  case case60 p _ _ _ _ _ _ _ _ _ _ _ _ _ =>
    -- Any other part is a leaf, where nothing is visited.
    cases p <;> simp_all [Part.visits]
  all_goals omega

/-- What is found on the visits of a tree is found at its nodes, at each of them once. -/
theorem Node.found_perm (H : FoundInBlocks on) : ∀ n : Node,
    (n.visits.flatMap on).Perm (n.nodes.flatMap (found on))
  | n => by
    rw [nodes_eq, List.flatMap_cons, List.flatMap_assoc]
    refine (found_step H n).trans (.append_left _ ?_)
    exact .flatMap_left _ fun k hk => found_perm H k
termination_by n => n.size
decreasing_by exact size_lt_of_mem_children hk

end

/-! ## Blocks of the queries that are entered -/

/-- The SELECT blocks of the query that is entered at a visit. -/
def Visit.blocks : Visit → List Select
  | .enter body => body.selects
  | _ => []

theorem foundInBlocks_blocks : FoundInBlocks Visit.blocks where
  query _ := rfl
  setOperation _ _ _ _ := rfl
  statement _ := rfl
  form _ _ := rfl
  relation _ := rfl
  source _ := rfl
  label _ := rfl
  inner _ := rfl

theorem blocks_idents (is : List Ident) : (visitsOfIdents is).flatMap Visit.blocks = [] := by
  induction is with
  | nil => rfl
  | cons i is ih =>
    cases is with
    | nil => rfl
    | cons j is => exact ih

theorem Node.found_blocks (n : Node) : n.found Visit.blocks = n.block?.toList := by
  cases n with
  | expr e =>
    cases e with
    | qualified is => exact blocks_idents is
    | _ => rfl
  | _ => rfl

theorem Node.blocks_perm (n : Node) : (n.visits.flatMap Visit.blocks).Perm n.blocks := by
  have h := found_perm foundInBlocks_blocks n
  rw [funext found_blocks] at h
  unfold blocks
  rw [List.filterMap_eq_flatMap_toList]
  exact h

theorem Node.blocks_eq (n : Node) :
    n.blocks = n.block?.toList ++ n.children.flatMap blocks := by
  unfold blocks
  rw [nodes_eq, List.filterMap_cons, List.filterMap_flatMap]
  cases n.block? <;> rfl

/-- The blocks of a body stand in it from left to right. -/
theorem Body.selects_sublist : ∀ b : Body, b.selects.Sublist (Node.body b).blocks
  | .select s => by
    rw [Node.blocks_eq]
    show [s].Sublist ((Node.select s).blocks ++ [])
    rw [List.append_nil, Node.blocks_eq]
    exact List.sublist_append_left [s] _
  | .setOperation left _ quantifier right => by
    rw [Node.blocks_eq]
    show (left.selects ++ right.selects).Sublist ((Node.body left).blocks ++
      ((Node.part quantifier).blocks ++ ((Node.body right).blocks ++ [])))
    rw [List.append_nil]
    exact left.selects_sublist.append
      (right.selects_sublist.trans (List.sublist_append_right _ _))
  | .query _ => List.nil_sublist _
  | .statement _ => List.nil_sublist _
  | .form _ _ => List.nil_sublist _

/-! ## Queries that are entered on a walk -/

/-- The body of the query that is entered at a visit. -/
def Visit.body? : Visit → Option Body
  | .enter body => some body
  | _ => none

/-- Notes the body of a query that is entered. -/
def noted (body : Body) : StateM (List Body) Unit := modify (· ++ [body])

theorem forM_noted (vs : List Visit) (bodies : List Body) :
    (forM vs (Visit.watched noted)).run bodies = pure ((), bodies ++ vs.filterMap Visit.body?) := by
  induction vs generalizing bodies with
  | nil => simp
  | cons v vs ih =>
    have hv : (Visit.watched noted v).run bodies = pure ((), bodies ++ v.body?.toList) := by
      cases v with
      | enter body => rfl
      | _ => simp [Visit.watched, Visit.body?]
    have hvs : (v :: vs).filterMap Visit.body? = v.body?.toList ++ vs.filterMap Visit.body? := by
      rw [List.filterMap_cons]
      cases v.body? <;> rfl
    rw [List.forM_cons, StateT.run_bind, hv, hvs, ← List.append_assoc]
    exact ih _

/-- A walk enters the queries in the order of the visits. -/
theorem Statement.walk_noted (s : Statement) :
    (s.walk (.watch noted)).run [] = pure (s, s.visits.filterMap Visit.body?) := by
  rw [Statement.walk_watch, StateT.run_bind, List.forM_eq_forM, forM_noted]
  rfl

/-- The blocks of the bodies that are entered are the blocks at the visits. -/
theorem selects_bodies (vs : List Visit) :
    (vs.filterMap Visit.body?).flatMap Body.selects = vs.flatMap Visit.blocks := by
  induction vs with
  | nil => rfl
  | cons v vs ih =>
    rw [List.flatMap_cons, ← ih]
    cases v <;> rfl

/-! ## Columns of joins -/

/-- The columns that stand at a node as expressions. -/
def Node.named : Node → List Ident
  | .expr e => Node.sites (.expr e)
  | _ => []

/-- The SELECT blocks of a statement, each as often as it stands there. -/
def Statement.blocks (s : Statement) : List Select := (Node.statement s).blocks

/-- The columns that stand in a statement as expressions, each as often as it stands there. -/
def Statement.named (s : Statement) : List Ident := (Node.statement s).nodes.flatMap Node.named

theorem foundInBlocks_sites : FoundInBlocks Visit.sites where
  query _ := rfl
  setOperation left operator quantifier right :=
    Body.usingColumns_setOperation left right operator quantifier
  statement _ := rfl
  form _ _ := rfl
  relation _ := rfl
  source _ := rfl
  label _ := rfl
  inner _ := rfl

theorem sites_idents (is : List Ident) :
    (visitsOfIdents is).flatMap Visit.sites = is.getLast?.toList := by
  induction is with
  | nil => rfl
  | cons i is ih =>
    cases is with
    | nil => rfl
    | cons j is =>
      rw [List.getLast?_cons_cons]
      exact ih

theorem Node.found_sites (n : Node) :
    n.found Visit.sites = n.named ++ n.block?.toList.flatMap Select.usingColumns := by
  cases n with
  | expr e =>
    cases e with
    | column i => simp [found, named, block?, Visit.sites, sites]
    | qualified is => simp [found, named, block?, sites_idents, sites]
    | form f ps => rfl
  | select s =>
    simp [found, named, block?, Visit.sites, Body.usingColumns_select, Select.usingColumns]
  | _ => rfl

theorem Statement.sites_perm (s : Statement) : (s.visits.flatMap Visit.sites).Perm
    (s.named ++ s.blocks.flatMap Select.usingColumns) := by
  refine (Node.found_perm foundInBlocks_sites (.statement s)).trans ?_
  rw [funext Node.found_sites]
  refine (List.flatMap_append_perm _ _ _).symm.trans ?_
  rw [← List.flatMap_assoc, ← List.filterMap_eq_flatMap_toList]
  rfl

/-! ## Blocks of trees that are alike -/

section

variable {c : Change} {b : Ident → Ident → Prop}

/-- The nodes of trees that are alike stand beside each other. -/
theorem Node.Alike.nodes (H : c.Within b) : ∀ {n n' : Node}, n.Alike c b n' →
    NodesBeside c b n.nodes n'.nodes
  | n, n', h => by
    rw [nodes_eq n, nodes_eq n']
    refine .cons h ?_
    -- The children stand beside each other, and each pair of them is smaller.
    have hs := (List.forall₂_and_left _ _).mpr ⟨fun k hk => hk, h.children H⟩
    exact List.rel_flatMap hs fun k k' ⟨hk, hkk⟩ => nodes H hkk
termination_by n => n.size
decreasing_by exact size_lt_of_mem_children hk

theorem Node.Alike.block? {n n' : Node} (h : n.Alike c b n') :
    List.Forall₂ (Select.alike c) n.block?.toList n'.block?.toList := by
  cases h with
  | select h => exact .cons h .nil
  | _ => exact .nil

/-- The SELECT blocks of trees that are alike stand beside each other. -/
theorem Node.Alike.blocks (H : c.Within b) {n n' : Node} (h : n.Alike c b n') :
    List.Forall₂ (Select.alike c) n.blocks n'.blocks := by
  unfold Node.blocks
  rw [List.filterMap_eq_flatMap_toList, List.filterMap_eq_flatMap_toList]
  exact List.rel_flatMap (h.nodes H) fun _ _ hkk => hkk.block?

theorem Select.alike.usingColumns {s s' : Select} (h : s.alike c s') :
    List.Forall₂ c.joined s.usingColumns s'.usingColumns := by
  cases s with
  | mk flavor mode head projection middle tables clauses =>
    obtain ⟨_, _, _, _, _, rfl, _, _, _, htables, _⟩ := h
    exact htables.usingColumns

end

end ColumnMask.Sql

namespace ColumnMask

open Sql

/-! ## Each block is met once -/

/-- The SELECT blocks of a statement are met once each. The blocks of the queries that are entered
are those that stand in the statement, each as often as it stands there, and those of one query
come from left to right; so the columns that queries are entered with are the columns of the joins
of all blocks, once each. The columns that are listed are these and the ones that stand as
expressions. Once all columns have digests, rewriting goes through: the blocks it makes stand beside
those they were made from, and each column of a join has become its own digest. -/
structure MeetsEachBlockOnce (s : Statement) : Prop where
  entered : ∃ bodies, (s.walk (.watch noted)).run [] = (s, bodies) ∧
    (bodies.flatMap Body.selects).Perm s.blocks ∧
    (∀ body ∈ bodies, body.selects.Sublist (Node.body body).blocks) ∧
    (bodies.flatMap Body.usingColumns).Perm (s.blocks.flatMap Select.usingColumns)
  listed : s.columns.Perm ((s.named ++ s.blocks.flatMap Select.usingColumns).map Ident.value)
  renamed : s.isSupported → ∀ m, (∀ name ∈ s.sites, (m.get? name).isSome) →
    ∃ r, rewriteStatement m s = .ok r ∧ List.Forall₂
      (fun block block' => List.Forall₂ (Renamed m) block.usingColumns block'.usingColumns)
      s.blocks r.blocks

theorem columns_perm (s : Statement) :
    s.columns.Perm ((s.named ++ s.blocks.flatMap Select.usingColumns).map Ident.value) := by
  rw [s.columns_eq]
  exact s.sites_perm.map Ident.value

/-- The columns of the joins of a block are columns of the statement it stands in. -/
theorem mem_siteIdents_of_block {s : Statement} {block : Select} (hb : block ∈ s.blocks)
    {i : Ident} (hi : i ∈ block.usingColumns) : i ∈ s.siteIdents := by
  refine List.mem_append_right _ (s.sites_perm.mem_iff.mpr ?_)
  exact List.mem_append_right _ (List.mem_flatMap.mpr ⟨block, hb, hi⟩)

theorem blocks_renamed {m : Mapping} {s r : Statement} (h : rewriteStatement m s = .ok r) :
    List.Forall₂
      (fun block block' => List.Forall₂ (Renamed m) block.usingColumns block'.usingColumns)
      s.blocks r.blocks := by
  obtain ⟨hm, rfl⟩ := rewriteStatement_ok h
  have hblocks := Node.Alike.blocks (Change.within_unbounded _)
    (.statement (le_unbounded _) (renamed_follows m s))
  refine ((List.forall₂_and_left _ _).mpr ⟨fun block hb => hb, hblocks⟩).imp ?_
  rintro block block' ⟨hb, halike⟩
  refine ((List.forall₂_and_left _ _).mpr ⟨fun i hi => hi, halike.usingColumns⟩).imp ?_
  rintro i j ⟨hi, rfl⟩
  exact renamed_settled m (hm i (mem_siteIdents_of_block hb hi))

theorem each_select_block_is_met_once (s : Statement) : MeetsEachBlockOnce s where
  entered := by
    have hblocks : ((s.visits.filterMap Visit.body?).flatMap Body.selects).Perm s.blocks := by
      rw [selects_bodies]
      exact (Node.statement s).blocks_perm
    refine ⟨_, s.walk_noted, hblocks, fun body _ => body.selects_sublist, ?_⟩
    have hcolumns := hblocks.flatMap_right Select.usingColumns
    rwa [List.flatMap_assoc] at hcolumns
  listed := columns_perm s
  renamed hs m hm := by
    have hr := rewriteStatement_mapped hs hm
    exact ⟨_, hr, blocks_renamed hr⟩

end ColumnMask
