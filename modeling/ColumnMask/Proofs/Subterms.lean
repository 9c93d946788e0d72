-- What stands in a tree, whatever the order of a walk. A node has the nodes right below it,
-- and contains what they contain. The columns of a tree are the columns that stand at the
-- nodes it contains, and no others.
import ColumnMask.Extract
import Mathlib.Logic.Relation

namespace ColumnMask.Sql

/-! ## Nodes -/

/-- A tree of any kind. -/
inductive Node where
  | namePart (p : NamePart)
  | expr (e : Expr)
  | query (q : Query)
  | body (b : Body)
  | select (s : Select)
  | item (i : SelectItem)
  | label (a : Alias)
  | factor (f : TableFactor)
  | tables (t : TableWithJoins)
  | join (j : Join)
  | constraint (c : JoinConstraint)
  | target (t : Target)
  | assignment (a : Assignment)
  | conflict (t : ConflictTarget)
  | onInsert (o : OnInsert)
  | clause (c : TableClause)
  | statement (s : Statement)
  | part (p : Part)

namespace Node

/-- The nodes right below a node. The value table mode of a SELECT block is a word and has none. -/
def children : Node → List Node
  | .namePart (.ident _) => []
  | .namePart (.call _ args) => args.map .part
  | .expr (.column _) => []
  | .expr (.qualified _) => []
  | .expr (.form _ ps) => ps.map .part
  | .query (.mk ctes b clauses) => .part ctes :: .body b :: clauses.map .part
  | .body (.select s) => [.select s]
  | .body (.query q) => [.query q]
  | .body (.setOperation left _ quantifier right) => [.body left, .part quantifier, .body right]
  | .body (.statement s) => [.statement s]
  | .body (.form _ ps) => ps.map .part
  | .select (.mk _ _ head projection middle ts clauses) =>
    head.map .part ++ projection.map .item ++ middle.map .part ++ ts.map .tables ++
      clauses.map .part
  | .item (.plain e) => [.expr e]
  | .item (.aliased e _) => [.expr e]
  | .item (.form _ ps) => ps.map .part
  | .label .absent => []
  | .label (.named _ _ columns) => columns.map .part
  | .factor (.table name a details) => name.map .namePart ++ .label a :: details.map .part
  | .factor (.derived _ q a) => [.query q, .label a]
  | .factor (.nested t a) => [.tables t, .label a]
  | .factor (.form _ ps) => ps.map .part
  | .tables (.mk relation joins) => .factor relation :: joins.map .join
  | .join (.constrained relation _ _ c) => [.factor relation, .constraint c]
  | .join (.asOf relation _ e c) => [.factor relation, .expr e, .constraint c]
  | .join (.apply relation _ _) => [.factor relation]
  | .constraint (.on e) => [.expr e]
  | .constraint (.using names) => names.flatten.map .namePart
  | .constraint .natural => []
  | .constraint .absent => []
  | .target (.name name) => name.map .namePart
  | .target (.tuple names) => names.flatten.map .namePart
  | .assignment (.mk t value) => [.target t, .expr value]
  | .conflict .absent => []
  | .conflict (.columns _) => []
  | .conflict (.constraint name) => name.map .namePart
  | .onInsert .absent => []
  | .onInsert (.duplicateKey as) => as.map .assignment
  | .onInsert (.conflictNothing t) => [.conflict t]
  | .onInsert (.conflictUpdate t as condition) =>
    .conflict t :: .part condition :: as.map .assignment
  | .clause .absent => []
  | .clause (.present _ ts) => ts.map .tables
  | .statement (.query q) => [.query q]
  | .statement (.insert head _ middle on clauses) =>
    .onInsert on :: (head ++ middle ++ clauses).map .part
  | .statement (.update head t as source clauses) =>
    .tables t :: .clause source :: as.map .assignment ++ (head ++ clauses).map .part
  | .statement (.delete head source others clauses) =>
    .clause source :: .clause others :: (head ++ clauses).map .part
  | .statement (.other _ ps) => ps.map .part
  | .part (.name name) => name.map .namePart
  | .part (.relation name) => name.map .namePart
  | .part (.expr e) => [.expr e]
  | .part (.query q) => [.query q]
  | .part (.item i) => [.item i]
  | .part (.factor f) => [.factor f]
  | .part (.tables t) => [.tables t]
  | .part (.join j) => [.join j]
  | .part (.assignment a) => [.assignment a]
  | .part (.label a) => [.label a]
  | .part (.statement s) => [.statement s]
  | .part (.list ps) => ps.map .part
  | .part (.node _ ps) => ps.map .part
  | .part _ => []

/-- A node contains itself, and what the nodes right below it contain. -/
def Contains : Node → Node → Prop := Relation.ReflTransGen fun n k => k ∈ n.children

/-! ## A node is larger than the nodes below it -/

noncomputable def size : Node → Nat
  | .namePart p => sizeOf p
  | .expr e => sizeOf e
  | .query q => sizeOf q
  | .body b => sizeOf b
  | .select s => sizeOf s
  | .item i => sizeOf i
  | .label a => sizeOf a
  | .factor f => sizeOf f
  | .tables t => sizeOf t
  | .join j => sizeOf j
  | .constraint c => sizeOf c
  | .target t => sizeOf t
  | .assignment a => sizeOf a
  | .conflict t => sizeOf t
  | .onInsert o => sizeOf o
  | .clause c => sizeOf c
  | .statement s => sizeOf s
  | .part p => sizeOf p

-- A node below is a field of the node above, or it stands in a list that is one.
theorem size_lt_of_mem_children {n k : Node} (h : k ∈ n.children) : k.size < n.size := by
  fun_cases children n
  all_goals simp only [children, List.mem_cons, List.mem_append, List.not_mem_nil, or_false,
    List.mem_map, List.mem_flatten] at h
  all_goals simp [size]
  all_goals grind [size, → List.sizeOf_lt_of_mem]

/-! ## Looking through a tree -/

/-- The nodes that a node contains, up to a depth. -/
def upTo : Nat → Node → List Node
  | 0, _ => []
  | depth + 1, n => n :: n.children.flatMap (upTo depth)

/-- Whether a tree is no deeper than a depth, and a test holds of every node in it. -/
def everywhere (p : Node → Bool) : Nat → Node → Bool
  | 0, _ => false
  | depth + 1, n => p n && n.children.all (everywhere p depth)

theorem contains_of_mem_upTo : ∀ {depth : Nat} {n k : Node}, k ∈ n.upTo depth → n.Contains k
  | depth + 1, n, k, h => by
    rcases List.mem_cons.mp h with rfl | h
    · exact .refl
    · obtain ⟨j, hj, hk⟩ := List.mem_flatMap.mp h
      exact .head hj (contains_of_mem_upTo hk)

theorem of_everywhere {p : Node → Bool} {depth : Nat} {n k : Node} (h : everywhere p depth n)
    (hk : n.Contains k) : p k := by
  induction hk using Relation.ReflTransGen.head_induction_on generalizing depth with
  | refl =>
    cases depth with
    | zero => cases h
    | succ depth => exact (Bool.and_eq_true_iff.mp h).1
  | head hj _ ih =>
    cases depth with
    | zero => cases h
    | succ depth => exact ih (List.all_eq_true.mp (Bool.and_eq_true_iff.mp h).2 _ hj)

end Node

/-! ## The columns of lists of nodes -/

theorem columnsOfParts_flatMap (ps : List Part) : columnsOfParts ps = ps.flatMap Part.columns := by
  induction ps with
  | nil => rfl
  | cons p ps ih => rw [columnsOfParts, ih, List.flatMap_cons]

theorem columnsOfName_flatMap (n : ObjectName) : columnsOfName n = n.flatMap NamePart.columns := by
  induction n with
  | nil => rfl
  | cons p ps ih => rw [columnsOfName, ih, List.flatMap_cons]

theorem columnsOfNames_flatMap (ns : List ObjectName) :
    columnsOfNames ns = ns.flatten.flatMap NamePart.columns := by
  induction ns with
  | nil => rfl
  | cons n ns ih =>
    rw [columnsOfNames, ih, columnsOfName_flatMap, List.flatten_cons, List.flatMap_append]

theorem columnsOfItems_flatMap (is : List SelectItem) :
    columnsOfItems is = is.flatMap SelectItem.columns := by
  induction is with
  | nil => rfl
  | cons i is ih => rw [columnsOfItems, ih, List.flatMap_cons]

theorem columnsOfTables_flatMap (ts : List TableWithJoins) :
    columnsOfTables ts = ts.flatMap TableWithJoins.columns := by
  induction ts with
  | nil => rfl
  | cons t ts ih => rw [columnsOfTables, ih, List.flatMap_cons]

theorem columnsOfJoins_flatMap (js : List Join) : columnsOfJoins js = js.flatMap Join.columns := by
  induction js with
  | nil => rfl
  | cons j js ih => rw [columnsOfJoins, ih, List.flatMap_cons]

theorem columnsOfAssignments_flatMap (as : List Assignment) :
    columnsOfAssignments as = as.flatMap Assignment.columns := by
  induction as with
  | nil => rfl
  | cons a as ih => rw [columnsOfAssignments, ih, List.flatMap_cons]

/-! ## The columns of a tree stand at its nodes -/

/-- The USING columns of the tables of a SELECT block. -/
def Select.usingColumns (s : Select) : List Ident := s.tables.flatMap TableWithJoins.usingColumns

namespace Node

/-- The columns that stand at a node itself. -/
def sites : Node → List Ident
  | .expr (.column i) => if i.isDefault then [] else [i]
  | .expr (.qualified is) => is.getLast?.toList
  | .select s => s.usingColumns
  | _ => []

/-- The columns of the tree of a node. A body and a SELECT block count with the USING columns that
their query is entered with. -/
def columns : Node → List String
  | .namePart p => p.columns
  | .expr e => e.columns
  | .query q => q.columns
  | .body b => b.usingColumns.map Ident.value ++ b.columns
  | .select s => s.usingColumns.map Ident.value ++ s.columns
  | .item i => i.columns
  | .label a => a.columns
  | .factor f => f.columns
  | .tables t => t.columns
  | .join j => j.columns
  | .constraint c => c.columns
  | .target t => t.inner
  | .assignment a => a.columns
  | .conflict t => t.inner
  | .onInsert o => o.columns
  | .clause c => c.columns
  | .statement s => s.columns
  | .part p => p.columns

/-- One step down: a column stands at the node, or it is a column of a node right below. -/
theorem mem_columns (n : Node) (name : String) : name ∈ n.columns ↔
    name ∈ n.sites.map Ident.value ∨ ∃ k ∈ n.children, name ∈ k.columns := by
  rw [← List.mem_flatMap, ← List.mem_append]
  -- Both sides list the same columns for each kind of node, if in another order.
  fun_cases children n
  all_goals simp only [List.flatMap_cons, List.flatMap_append, List.flatMap_map, List.flatMap_nil]
  all_goals simp only [columns, sites, NamePart.columns, Expr.columns, Query.columns,
    Body.columns, Select.columns, SelectItem.columns, Alias.columns, TableFactor.columns,
    TableWithJoins.columns, Join.columns, JoinConstraint.columns, Target.inner,
    Assignment.columns, ConflictTarget.inner, OnInsert.columns, TableClause.columns,
    Statement.columns, Part.columns, columnsOfParts_flatMap, columnsOfName_flatMap,
    columnsOfNames_flatMap, columnsOfItems_flatMap, columnsOfTables_flatMap,
    columnsOfJoins_flatMap, columnsOfAssignments_flatMap, Body.usingColumns, Body.selects,
    Select.usingColumns]
  all_goals grind

theorem exists_site {name : String} : ∀ {n : Node}, name ∈ n.columns →
    ∃ k, n.Contains k ∧ name ∈ k.sites.map Ident.value
  | n, h => by
    rcases (mem_columns n name).mp h with hsite | ⟨k, hk, hname⟩
    · exact ⟨n, .refl, hsite⟩
    · obtain ⟨j, hj, hsite⟩ := exists_site hname
      exact ⟨j, .head hk hj, hsite⟩
termination_by n => n.size
decreasing_by exact size_lt_of_mem_children hk

theorem mem_columns_of_contains {name : String} {n k : Node} (h : n.Contains k)
    (hsite : name ∈ k.sites.map Ident.value) : name ∈ n.columns := by
  induction h using Relation.ReflTransGen.head_induction_on with
  | refl => exact (mem_columns k name).mpr (.inl hsite)
  | head hj _ ih => exact (mem_columns _ name).mpr (.inr ⟨_, hj, ih⟩)

/-- The columns of a tree are those that stand at the nodes it contains. -/
theorem mem_columns_iff (n : Node) (name : String) :
    name ∈ n.columns ↔ ∃ k, n.Contains k ∧ ∃ i ∈ k.sites, i.value = name := by
  constructor
  · intro h
    obtain ⟨k, hk, hsite⟩ := exists_site h
    exact ⟨k, hk, List.mem_map.mp hsite⟩
  · rintro ⟨k, hk, hsite⟩
    exact mem_columns_of_contains hk (List.mem_map.mpr hsite)

end Node

end ColumnMask.Sql
