-- Where columns are named, said without a walk. An identifier names a column if it stands
-- alone or last in an expression, in a USING list, or in a target list of a statement of
-- the batch. Extraction lists these names, but for two target lists of an INSERT.
import ColumnMask.Proofs.FirstSeen
import ColumnMask.Proofs.Subterms
import ColumnMask.Sql.Grammar.Rows

namespace ColumnMask.Sql

/-! ## Names that end in an identifier -/

/-- The last part of the name is the identifier. -/
def EndsIn (n : ObjectName) (i : Ident) : Prop := n.getLast? = some (.ident i)

theorem lastIdent_eq_some {i : Ident} : ∀ {n : ObjectName}, lastIdent n = some i ↔ EndsIn n i
  | [] => by simp [lastIdent, EndsIn]
  | [.ident j] => by simp [lastIdent, EndsIn]
  | [.call _ _] => by simp [lastIdent, EndsIn]
  | p :: q :: ps => by
    have ih : lastIdent (q :: ps) = some i ↔ EndsIn (q :: ps) i := lastIdent_eq_some
    unfold EndsIn at ih ⊢
    rw [List.getLast?_cons_cons, ← ih]
    rw [lastIdent]

theorem mem_filterMap_lastIdent {ns : List ObjectName} {i : Ident} :
    i ∈ ns.filterMap lastIdent ↔ ∃ n ∈ ns, EndsIn n i := by
  simp only [List.mem_filterMap, lastIdent_eq_some]

/-! ## USING lists -/

/-- The source of rows that a join adds. -/
def Join.relation : Join → TableFactor
  | .constrained relation _ _ _ => relation
  | .asOf relation _ _ _ => relation
  | .apply relation _ _ => relation

def Join.constraint : Join → JoinConstraint
  | .constrained _ _ _ c => c
  | .asOf _ _ _ c => c
  | .apply _ _ _ => .absent

/-- The joins of a table, and those that stand in parentheses in place of one of its sources. -/
inductive TableWithJoins.Joins : TableWithJoins → Join → Prop where
  | own {relation : TableFactor} {joins : List Join} {j : Join} (hj : j ∈ joins) :
    Joins (.mk relation joins) j
  | first {t : TableWithJoins} {a : Alias} {joins : List Join} {j : Join} (h : Joins t j) :
    Joins (.mk (.nested t a) joins) j
  | joined {relation : TableFactor} {joins : List Join} {k : Join} {t : TableWithJoins} {a : Alias}
    {j : Join} (hk : k ∈ joins) (ht : k.relation = .nested t a) (h : Joins t j) :
    Joins (.mk relation joins) j

/-- The constraint has a USING list with the column. -/
def JoinConstraint.Uses (c : JoinConstraint) (i : Ident) : Prop :=
  ∃ names, c = .using names ∧ ∃ n ∈ names, EndsIn n i

/-- A join of the table has a USING list with the column. -/
def TableWithJoins.Uses (t : TableWithJoins) (i : Ident) : Prop :=
  ∃ j, t.Joins j ∧ j.constraint.Uses i

theorem JoinConstraint.mem_usingColumns {i : Ident} : ∀ {c : JoinConstraint},
    i ∈ c.usingColumns ↔ c.Uses i
  | .using names => by
    rw [JoinConstraint.usingColumns, mem_filterMap_lastIdent]
    constructor
    · exact fun h => ⟨names, rfl, h⟩
    · rintro ⟨_, ⟨⟩, h⟩
      exact h
  | .on _ => by simp [JoinConstraint.usingColumns, JoinConstraint.Uses]
  | .natural => by simp [JoinConstraint.usingColumns, JoinConstraint.Uses]
  | .absent => by simp [JoinConstraint.usingColumns, JoinConstraint.Uses]

theorem TableFactor.mem_nestedColumns {f : TableFactor} {i : Ident} :
    i ∈ f.nestedColumns ↔ ∃ t a, f = .nested t a ∧ i ∈ t.usingColumns := by
  cases f with
  | nested t a => simp [TableFactor.nestedColumns]
  | _ => simp [TableFactor.nestedColumns]

theorem Join.mem_usingColumns {j : Join} {i : Ident} :
    i ∈ j.usingColumns ↔ i ∈ j.relation.nestedColumns ∨ j.constraint.Uses i := by
  rw [← JoinConstraint.mem_usingColumns]
  cases j with
  | apply relation global outer =>
    simp [Join.usingColumns, Join.relation, Join.constraint, JoinConstraint.usingColumns]
  | _ => simp [Join.usingColumns, Join.relation, Join.constraint]

theorem joinsUsingColumns_flatMap (js : List Join) :
    joinsUsingColumns js = js.flatMap Join.usingColumns := by
  induction js with
  | nil => rfl
  | cons j js ih => rw [joinsUsingColumns, ih, List.flatMap_cons]

theorem TableWithJoins.mem_usingColumns_mk {relation : TableFactor} {joins : List Join}
    {i : Ident} : i ∈ (TableWithJoins.mk relation joins).usingColumns ↔
      i ∈ relation.nestedColumns ∨
        ∃ j ∈ joins, i ∈ j.relation.nestedColumns ∨ j.constraint.Uses i := by
  rw [TableWithJoins.usingColumns, joinsUsingColumns_flatMap, List.mem_append, List.mem_flatMap]
  simp only [Join.mem_usingColumns]

theorem Join.sizeOf_relation_lt (j : Join) : sizeOf j.relation < sizeOf j := by
  cases j <;> simp [Join.relation] <;> omega

theorem TableWithJoins.uses_of_mem {i : Ident} : ∀ {t : TableWithJoins},
    i ∈ t.usingColumns → t.Uses i
  | .mk relation joins, h => by
    rcases mem_usingColumns_mk.mp h with hr | ⟨k, hk, hr | hc⟩
    · obtain ⟨t, a, hra, ht⟩ := TableFactor.mem_nestedColumns.mp hr
      obtain ⟨j, hj, hu⟩ := uses_of_mem ht
      exact ⟨j, hra ▸ .first hj, hu⟩
    · obtain ⟨t, a, hka, ht⟩ := TableFactor.mem_nestedColumns.mp hr
      have hsize := k.sizeOf_relation_lt
      have hlist := List.sizeOf_lt_of_mem hk
      obtain ⟨j, hj, hu⟩ := uses_of_mem ht
      exact ⟨j, .joined hk hka hj, hu⟩
    · exact ⟨k, .own hk, hc⟩
termination_by t => sizeOf t
decreasing_by
  · simp [hra]
    omega
  · rw [hka] at hsize
    simp at hsize ⊢
    omega

theorem TableWithJoins.mem_of_uses {t : TableWithJoins} {i : Ident} (h : t.Uses i) :
    i ∈ t.usingColumns := by
  obtain ⟨j, hj, hu⟩ := h
  induction hj with
  | own hj => exact mem_usingColumns_mk.mpr (.inr ⟨_, hj, .inr hu⟩)
  | first _ ih =>
    exact mem_usingColumns_mk.mpr (.inl (TableFactor.mem_nestedColumns.mpr ⟨_, _, rfl, ih hu⟩))
  | joined hk ht _ ih =>
    exact mem_usingColumns_mk.mpr
      (.inr ⟨_, hk, .inl (TableFactor.mem_nestedColumns.mpr ⟨_, _, ht, ih hu⟩)⟩)

theorem TableWithJoins.mem_usingColumns {t : TableWithJoins} {i : Ident} :
    i ∈ t.usingColumns ↔ t.Uses i :=
  ⟨uses_of_mem, mem_of_uses⟩

theorem Select.mem_usingColumns {s : Select} {i : Ident} :
    i ∈ s.usingColumns ↔ ∃ t ∈ s.tables, t.Uses i := by
  simp only [Select.usingColumns, List.mem_flatMap, TableWithJoins.mem_usingColumns]

/-! ## Target lists -/

/-- The assignment sets the column, alone or in a tuple. -/
inductive Assignment.Sets : Assignment → Ident → Prop where
  | name {n : ObjectName} {value : Expr} {i : Ident} (h : EndsIn n i) :
    Sets (.mk (.name n) value) i
  | tuple {ns : List ObjectName} {n : ObjectName} {value : Expr} {i : Ident} (hn : n ∈ ns)
    (h : EndsIn n i) : Sets (.mk (.tuple ns) value) i

/-- What an INSERT does in case of a conflict names the column. -/
inductive OnInsert.Names : OnInsert → Ident → Prop where
  | duplicate {as : List Assignment} {a : Assignment} {i : Ident} (ha : a ∈ as) (h : a.Sets i) :
    Names (.duplicateKey as) i
  | nothing {is : List Ident} {i : Ident} (h : i ∈ is) : Names (.conflictNothing (.columns is)) i
  | conflict {is : List Ident} {as : List Assignment} {condition : Part} {i : Ident} (h : i ∈ is) :
    Names (.conflictUpdate (.columns is) as condition) i
  | update {t : ConflictTarget} {as : List Assignment} {a : Assignment} {condition : Part}
    {i : Ident} (ha : a ∈ as) (h : a.Sets i) : Names (.conflictUpdate t as condition) i

/-- A table of the clause has a USING list with the column. -/
def TableClause.Uses (c : TableClause) (i : Ident) : Prop :=
  ∃ role ts, c = .present role ts ∧ ∃ t ∈ ts, t.Uses i

/-- The statement itself names the column, in a target list or in a USING list of its tables. -/
inductive Statement.Names : Statement → Ident → Prop where
  | column {head middle clauses : List Part} {columns : List Ident} {on : OnInsert} {i : Ident}
    (h : i ∈ columns) : Names (.insert head columns middle on clauses) i
  | onInsert {head middle clauses : List Part} {columns : List Ident} {on : OnInsert} {i : Ident}
    (h : on.Names i) : Names (.insert head columns middle on clauses) i
  | set {head clauses : List Part} {t : TableWithJoins} {as : List Assignment} {a : Assignment}
    {source : TableClause} {i : Ident} (ha : a ∈ as) (h : a.Sets i) :
    Names (.update head t as source clauses) i
  | updated {head clauses : List Part} {t : TableWithJoins} {as : List Assignment}
    {source : TableClause} {i : Ident} (h : t.Uses i) : Names (.update head t as source clauses) i
  | updateSource {head clauses : List Part} {t : TableWithJoins} {as : List Assignment}
    {source : TableClause} {i : Ident} (h : source.Uses i) :
    Names (.update head t as source clauses) i
  | deleteSource {head clauses : List Part} {source others : TableClause} {i : Ident}
    (h : source.Uses i) : Names (.delete head source others clauses) i
  | deleteOthers {head clauses : List Part} {source others : TableClause} {i : Ident}
    (h : others.Uses i) : Names (.delete head source others clauses) i

theorem Assignment.mem_columns {a : Assignment} {i : Ident} :
    i ∈ a.target.columns ↔ a.Sets i := by
  rcases a with ⟨⟨n⟩ | ⟨ns⟩, value⟩
  · simp only [Assignment.target, Target.columns, Option.mem_toList, lastIdent_eq_some]
    constructor
    · exact .name
    · rintro ⟨h⟩
      exact h
  · simp only [Assignment.target, Target.columns, mem_filterMap_lastIdent]
    constructor
    · rintro ⟨n, hn, h⟩
      exact .tuple hn h
    · rintro (_ | ⟨hn, h⟩)
      exact ⟨_, hn, h⟩

theorem mem_assignedColumns {as : List Assignment} {i : Ident} :
    i ∈ assignedColumns as ↔ ∃ a ∈ as, a.Sets i := by
  simp only [assignedColumns, List.mem_flatMap, Assignment.mem_columns]

theorem OnInsert.mem_targets {on : OnInsert} {i : Ident} : i ∈ on.targets ↔ on.Names i := by
  constructor
  · intro h
    cases on with
    | absent => simp [OnInsert.targets] at h
    | duplicateKey as =>
      obtain ⟨a, ha, hs⟩ := mem_assignedColumns.mp h
      exact .duplicate ha hs
    | conflictNothing t =>
      cases t with
      | columns is => exact .nothing h
      | _ => simp [OnInsert.targets, ConflictTarget.targets] at h
    | conflictUpdate t as condition =>
      rcases List.mem_append.mp h with ht | ha
      · cases t with
        | columns is => exact .conflict ht
        | _ => simp [ConflictTarget.targets] at ht
      · obtain ⟨a, ha, hs⟩ := mem_assignedColumns.mp ha
        exact .update ha hs
  · intro h
    cases h with
    | duplicate ha hs => exact mem_assignedColumns.mpr ⟨_, ha, hs⟩
    | nothing hi => exact hi
    | conflict hi => exact List.mem_append_left _ hi
    | update ha hs => exact List.mem_append_right _ (mem_assignedColumns.mpr ⟨_, ha, hs⟩)

theorem TableClause.mem_usingColumns {c : TableClause} {i : Ident} :
    i ∈ c.usingColumns ↔ c.Uses i := by
  unfold TableClause.Uses
  cases c with
  | absent => simp [TableClause.usingColumns]
  | present role ts =>
    rw [TableClause.usingColumns, List.mem_flatMap]
    simp only [TableWithJoins.mem_usingColumns]
    constructor
    · exact fun h => ⟨role, ts, rfl, h⟩
    · rintro ⟨_, _, ⟨⟩, h⟩
      exact h

theorem Statement.mem_targets {s : Statement} {i : Ident} : i ∈ s.targets ↔ s.Names i := by
  constructor
  · intro h
    cases s with
    | query q => simp [Statement.targets] at h
    | other f ps => simp [Statement.targets] at h
    | insert head columns middle on clauses =>
      rcases List.mem_append.mp h with hc | ho
      · exact .column hc
      · exact .onInsert (OnInsert.mem_targets.mp ho)
    | update head t as source clauses =>
      rcases List.mem_append.mp h with hat | hs
      · rcases List.mem_append.mp hat with ha | ht
        · obtain ⟨a, ha, hs⟩ := mem_assignedColumns.mp ha
          exact .set ha hs
        · exact .updated (TableWithJoins.mem_usingColumns.mp ht)
      · exact .updateSource (TableClause.mem_usingColumns.mp hs)
    | delete head source others clauses =>
      rcases List.mem_append.mp h with hs | ho
      · exact .deleteSource (TableClause.mem_usingColumns.mp hs)
      · exact .deleteOthers (TableClause.mem_usingColumns.mp ho)
  · intro h
    cases h with
    | column hc => exact List.mem_append_left _ hc
    | onInsert ho => exact List.mem_append_right _ (OnInsert.mem_targets.mpr ho)
    | set ha hs =>
      have hmem := mem_assignedColumns.mpr ⟨_, ha, hs⟩
      exact List.mem_append_left _ (List.mem_append_left _ hmem)
    | updated ht =>
      have hmem := TableWithJoins.mem_usingColumns.mpr ht
      exact List.mem_append_left _ (List.mem_append_right _ hmem)
    | updateSource hs => exact List.mem_append_right _ (TableClause.mem_usingColumns.mpr hs)
    | deleteSource hs => exact List.mem_append_left _ (TableClause.mem_usingColumns.mpr hs)
    | deleteOthers ho => exact List.mem_append_right _ (TableClause.mem_usingColumns.mpr ho)

/-! ## The columns of a statement -/

/-- The identifier names a column of the statement. -/
inductive Statement.HasColumn (s : Statement) (i : Ident) : Prop where
  /-- It is an expression by itself, and not the word `DEFAULT`. -/
  | lone (h : (Node.statement s).Contains (.expr (.column i))) (hi : ¬ i.isDefault)
  /-- It is the last part of a dotted expression. -/
  | last {is : List Ident} (h : (Node.statement s).Contains (.expr (.qualified is)))
    (hi : is.getLast? = some i)
  /-- It stands in a USING list of the tables of a SELECT block. -/
  | joined {block : Select} {t : TableWithJoins} (h : (Node.statement s).Contains (.select block))
    (ht : t ∈ block.tables) (hi : t.Uses i)
  | named (h : s.Names i)

theorem Statement.hasColumn_of_site {s : Statement} {k : Node} {i : Ident}
    (h : (Node.statement s).Contains k) (hi : i ∈ k.sites) : s.HasColumn i := by
  cases k with
  | select block =>
    obtain ⟨t, ht, hu⟩ := Select.mem_usingColumns.mp hi
    exact .joined h ht hu
  | expr e =>
    cases e with
    | column j =>
      simp only [Node.sites] at hi
      split at hi
      · simp at hi
      · rename_i hj
        obtain rfl := List.mem_singleton.mp hi
        exact .lone h hj
    | qualified is => exact .last h (by simpa [Node.sites] using hi)
    | form f ps => simp [Node.sites] at hi
  | _ => simp [Node.sites] at hi

/-- The names at the column sites of a statement are those of its columns. -/
theorem Statement.mem_sites {s : Statement} {name : String} :
    name ∈ s.sites ↔ ∃ i, s.HasColumn i ∧ i.value = name := by
  have hcolumns : name ∈ s.columns ↔
      ∃ k, (Node.statement s).Contains k ∧ ∃ i ∈ k.sites, i.value = name :=
    Node.mem_columns_iff (.statement s) name
  rw [Statement.sites, List.mem_append, hcolumns, List.mem_map]
  constructor
  · rintro (⟨i, hi, rfl⟩ | ⟨k, hk, i, hi, rfl⟩)
    · exact ⟨i, .named (Statement.mem_targets.mp hi), rfl⟩
    · exact ⟨i, hasColumn_of_site hk hi, rfl⟩
  · rintro ⟨i, h, rfl⟩
    cases h with
    | lone hk hi => exact .inr ⟨_, hk, i, by simp [Node.sites, hi], rfl⟩
    | last hk hi => exact .inr ⟨_, hk, i, by simp [Node.sites, hi], rfl⟩
    | joined hk ht hu => exact .inr ⟨_, hk, i, Select.mem_usingColumns.mpr ⟨_, ht, hu⟩, rfl⟩
    | named hn => exact .inl ⟨i, Statement.mem_targets.mpr hn, rfl⟩

/-- The identifier stands in a target list of an INSERT that extraction does not read: among the
columns that it sets as an UPDATE does, or among those after its partitions. -/
inductive Statement.Skips : Statement → Ident → Prop where
  | set {head middle clauses items : List Part} {columns : List Ident} {on : OnInsert}
    {a : Assignment} {i : Ident} (hitems : .list items ∈ middle) (ha : .assignment a ∈ items)
    (h : a.Sets i) : Skips (.insert head columns middle on clauses) i
  | later {head middle clauses items : List Part} {columns : List Ident} {on : OnInsert}
    {i : Ident} (hitems : .list items ∈ middle) (h : .ident i ∈ items) :
    Skips (.insert head columns middle on clauses) i

end ColumnMask.Sql

namespace ColumnMask

open Sql

/-! ## The columns of a batch -/

/-- A statement of the batch has a column of this name. -/
def HasColumn (batch : List Statement) (name : String) : Prop :=
  ∃ s ∈ batch, ∃ i, s.HasColumn i ∧ i.value = name

/-- A statement of the batch has this name in a target list that is not read. -/
def Skips (batch : List Statement) (name : String) : Prop :=
  ∃ s ∈ batch, ∃ i, s.Skips i ∧ i.value = name

theorem mem_extractColumns_iff {batch : List Statement} {name : String} :
    name ∈ extractColumns batch ↔ HasColumn batch name := by
  show name ∈ (extractColumns batch).names ↔ HasColumn batch name
  unfold extractColumns HasColumn
  rw [ColumnSet.mem_ofList, List.mem_flatMap]
  simp only [Statement.mem_sites]

/-- Extraction lists each column once and nothing else. It lists the columns that an INSERT sets,
or names after its partitions, exactly if each of them is a column elsewhere in the batch. -/
theorem extraction_lists_each_column_iff (batch : List Statement) :
    (extractColumns batch).names.Nodup ∧
    (∀ name, name ∈ extractColumns batch ↔ HasColumn batch name) ∧
    ((∀ name, name ∈ extractColumns batch ↔ HasColumn batch name ∨ Skips batch name) ↔
      ∀ name, Skips batch name → HasColumn batch name) := by
  refine ⟨(extractColumns batch).distinct, fun _ => mem_extractColumns_iff, ?_⟩
  constructor
  · intro h name hs
    exact mem_extractColumns_iff.mp ((h name).mpr (.inr hs))
  · intro h name
    rw [mem_extractColumns_iff]
    exact ⟨.inl, fun hn => hn.elim id (h name)⟩

/-- `INSERT INTO t SET a = 1`. -/
def insertBySet : Statement :=
  .insert [attached ⟨.ofWord "INSERT", .nowhere⟩, .absent, .flag false, .flag true,
      insertTable [.ident { value := "t" }], .absent]
    []
    [.flag false, .absent,
      listOf .assignment [.mk (.name [.ident { value := "a" }])
        (.ofValue (.number "1" false) .nowhere)],
      .absent, .list [], .flag false]
    .absent [.absent, .flag false, .absent, .absent, .absent, .absent]

theorem an_insert_sets_a_column_unseen :
    ¬ ∀ name, name ∈ extractColumns [insertBySet] ↔
      HasColumn [insertBySet] name ∨ Skips [insertBySet] name := by
  intro h
  have hset : (Assignment.mk (.name [.ident { value := "a" }])
      (.ofValue (.number "1" false) .nowhere)).Sets { value := "a" } := .name rfl
  have hskips : Skips [insertBySet] "a" :=
    ⟨insertBySet, List.mem_singleton_self _, { value := "a" },
      .set (.tail _ (.tail _ (.head _))) (List.mem_singleton_self _) hset, rfl⟩
  have hlisted : "a" ∈ extractColumns [insertBySet] := (h "a").mpr (.inr hskips)
  have hnone : "a" ∉ extractColumns [insertBySet] := by decide
  exact hnone hlisted

end ColumnMask
