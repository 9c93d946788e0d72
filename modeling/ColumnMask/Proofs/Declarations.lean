-- Names that are declared for tables, and the names that refer to them. Quotes are put around
-- every reference, but around the names of tables and subqueries only. So the name of a query
-- of a WITH clause, or of any other source of rows, can lose the spelling of its references.
import ColumnMask.Proofs.QuotedPlaces
import ColumnMask.Serialize

namespace ColumnMask.Sql

/-! ## The names at a node -/

namespace Node

/-- The names that a node declares for tables: the alias of a source of rows of any kind, and the
name of a query of a WITH clause. -/
def declared : Node → List Ident
  | .factor t => t.label.names
  | .part (.node f ps) => if f.encoding = Form.cte.encoding then (aliasAmong ps).names else []
  | _ => []

/-- The declared names that get no quotes: all but the aliases of tables and subqueries. -/
def passedOver : Node → List Ident
  | .factor (.table ..) => []
  | .factor (.derived ..) => []
  | n => n.declared

/-- All identifiers that stand at a node itself. -/
def idents : Node → List Ident
  | .namePart (.ident i) => [i]
  | .namePart (.call i _) => [i]
  | .expr (.column i) => [i]
  | .expr (.qualified is) => is
  | .item (.aliased _ i) => [i]
  | .label a => a.names
  | .conflict (.columns is) => is
  | .statement (.insert _ is _ _ _) => is
  | .part (.ident i) => [i]
  | _ => []

theorem passedOver_node (f : Form) (ps : List Part) : (part (.node f ps)).passedOver =
    if f.encoding = Form.cte.encoding then (aliasAmong ps).names else [] := rfl

theorem quotable_or_passedOver {n : Node} {i : Ident} (h : i ∈ n.declared) :
    i ∈ n.quotable ∨ i ∈ n.passedOver := by
  cases n with
  | factor t =>
    cases t with
    | table name a details => exact .inl (List.mem_append_right _ h)
    | derived lateral q a => exact .inl (List.mem_append_right _ h)
    | nested t a => exact .inr h
    | form f ps => exact .inr h
  | _ => exact .inr h

theorem declared_of_passedOver {n : Node} {i : Ident} (h : i ∈ n.passedOver) :
    i ∈ n.declared := by
  cases n with
  | factor t =>
    cases t with
    | table name a details => cases h
    | derived lateral q a => cases h
    | nested t a => exact h
    | form f ps => exact h
  | _ => exact h

end Node

/-! ## A declared name is an identifier of the tree -/

theorem label_mem_of_aliasAmong {i : Ident} : ∀ {ps : List Part}, i ∈ (aliasAmong ps).names →
    ∃ a, .label a ∈ ps ∧ i ∈ a.names
  | [], h => by cases h
  | p :: ps, h => by
    cases p with
    | label a => exact ⟨a, List.mem_cons_self, h⟩
    | _ =>
      have hps : i ∈ (aliasAmong ps).names := h
      obtain ⟨a, ha, hi⟩ := label_mem_of_aliasAmong hps
      exact ⟨a, List.mem_cons_of_mem _ ha, hi⟩

namespace Node

theorem contains_ident_of_label {n : Node} {ps : List Part} (hps : n.children = ps.map .part)
    {i : Ident} (h : i ∈ (aliasAmong ps).names) : ∃ k, n.Contains k ∧ i ∈ k.idents := by
  obtain ⟨a, ha, hi⟩ := label_mem_of_aliasAmong h
  have hpart : .part (.label a) ∈ n.children := hps ▸ List.mem_map_of_mem ha
  exact ⟨.label a, .head hpart (.single (List.mem_singleton_self _)), hi⟩

theorem contains_ident_of_passedOver {n : Node} {i : Ident} (h : i ∈ n.passedOver) :
    ∃ k, n.Contains k ∧ i ∈ k.idents := by
  cases n with
  | factor t =>
    cases t with
    | table name a details => cases h
    | derived lateral q a => cases h
    | nested t a => exact ⟨.label a, .single (.tail _ (.head _)), h⟩
    | form f ps => exact contains_ident_of_label rfl h
  | part p =>
    cases p with
    | node f ps =>
      rw [passedOver_node] at h
      split at h
      · exact contains_ident_of_label rfl h
      · cases h
    | _ => cases h
  | _ => cases h

end Node

/-! ## A change of a tree leaves the names that are passed over -/

section

variable {c : Change}

theorem Alias.alike.names_eq {a a' : Alias} (h : a.alike c Eq a') : a'.names = a.names :=
  eq_of_forall₂ h.names

theorem alikeParts.names_eq : ∀ {ps qs}, alikeParts c ps qs →
    (aliasAmong qs).names = (aliasAmong ps).names
  | [], _, rfl => rfl
  | p :: ps, _, ⟨q, qs, rfl, h, hs⟩ => by
    cases p with
    | label a =>
      obtain ⟨a', rfl, h⟩ := h
      exact h.names_eq
    -- Any other part stands beside one of its own kind, so the search goes on for both lists.
    | _ => first
      | obtain rfl := h
        exact hs.names_eq
      | obtain ⟨_, rfl, _⟩ := h
        exact hs.names_eq

theorem Node.Alike.passedOver {b : Ident → Ident → Prop} {k k' : Node} (h : k.Alike c b k') :
    k'.passedOver = k.passedOver := by
  cases h with
  | @factor u t t' _ h =>
    cases t with
    | table n a details =>
      obtain ⟨_, _, _, rfl, _⟩ := h
      rfl
    | derived lateral q a =>
      obtain ⟨_, _, rfl, _⟩ := h
      rfl
    | nested t a =>
      obtain ⟨_, _, rfl, _, ha⟩ := h
      exact ha.names_eq
    | form f ps =>
      obtain ⟨_, rfl, hps⟩ := h
      exact hps.names_eq
  | @part p p' h =>
    cases p with
    | node f ps =>
      obtain ⟨qs, rfl, hps⟩ := h
      rw [Node.passedOver_node, Node.passedOver_node, hps.names_eq]
    | _ => first
      | obtain rfl := h
        rfl
      | obtain ⟨_, rfl, _⟩ := h
        rfl
  | _ => rfl

end

/-! ## The names in a statement -/

namespace Statement

/-- A name that is declared for a table, anywhere in the statement. -/
def Declares (s : Statement) (i : Ident) : Prop :=
  ∃ n, (Node.statement s).Contains n ∧ i ∈ n.declared

/-- A declared name that gets no quotes. -/
def PassesOver (s : Statement) (i : Ident) : Prop :=
  ∃ n, (Node.statement s).Contains n ∧ i ∈ n.passedOver

-- Qualifiers elsewhere, as before an asterisk, get no quotes, so they ask for none.
/-- A part of the name of a relation, or a qualifier of a dotted identifier. -/
def Refers (s : Statement) (j : Ident) : Prop :=
  ∃ n, (Node.statement s).Contains n ∧ j ∈ n.references

/-- No identifier of the statement has quotes. -/
def Unquoted (s : Statement) : Prop :=
  ∀ n, (Node.statement s).Contains n → ∀ i ∈ n.idents, i.quote = none

/-- A declared name has quotes if a reference of the same text has some. -/
def WritesNamesAlike (s : Statement) : Prop :=
  ∀ i j, s.Declares i → s.Refers j → i.value = j.value → j.quote.isSome → i.quote.isSome

theorem Unquoted.not_isSome {s : Statement} (h : s.Unquoted) {i : Ident} (hi : s.PassesOver i) :
    ¬ i.quote.isSome := by
  obtain ⟨n, hn, hi⟩ := hi
  obtain ⟨k, hk, hi⟩ := n.contains_ident_of_passedOver hi
  have hnone : i.quote = none := h k (hn.trans hk) i hi
  simp [hnone]

end Statement

end ColumnMask.Sql

namespace ColumnMask

open Sql

/-! ## Declared names and quotes -/

theorem passesOver_withQuotes (s : Statement) (i : Ident) :
    s.withQuotes.PassesOver i ↔ s.PassesOver i := by
  constructor
  · rintro ⟨n, hn, hi⟩
    obtain ⟨k, hk, hkn⟩ := (withQuotes_beside s).container quotesOnly_within hn
    exact ⟨k, hk, hkn.passedOver ▸ hi⟩
  · rintro ⟨k, hk, hi⟩
    obtain ⟨n, hn, hkn⟩ := (withQuotes_beside s).contained quotesOnly_within hk
    exact ⟨n, hn, hkn.passedOver.symm ▸ hi⟩

/-- The references of a statement with quotes are those of the statement, each with quotes. -/
theorem refers_withQuotes (s : Statement) (j : Ident) :
    s.withQuotes.Refers j ↔ ∃ i, s.Refers i ∧ GetsQuotes i j := by
  constructor
  · rintro ⟨n, hn, hj⟩
    obtain ⟨k, hk, hkn⟩ := (withQuotes_beside s).container quotesOnly_within hn
    obtain ⟨i, hi, hij⟩ := exists_beside hkn.references.flip hj
    exact ⟨i, ⟨k, hk, hi⟩, hij⟩
  · rintro ⟨i, ⟨k, hk, hi⟩, hij⟩
    obtain ⟨n, hn, hkn⟩ := (withQuotes_beside s).contained quotesOnly_within hk
    obtain ⟨j', hj', hij'⟩ := exists_beside hkn.references hi
    obtain rfl : j = j' := (getsQuotes_iff.mp hij).trans (getsQuotes_iff.mp hij').symm
    exact ⟨n, hn, hj'⟩

/-- A declared name of a statement with quotes has quotes, or is passed over. -/
theorem isSome_or_passesOver {s : Statement} {i : Ident} (h : s.withQuotes.Declares i) :
    i.quote.isSome ∨ s.PassesOver i := by
  obtain ⟨n, hn, hi⟩ := h
  rcases Node.quotable_or_passedOver hi with hq | hp
  · exact .inl (isSome_of_quotable hn hq)
  · exact .inr ((passesOver_withQuotes s i).mp ⟨n, hn, hp⟩)

/-- Only a name that is passed over can be written in another way than its references. -/
theorem writesNamesAlike_withQuotes (s : Statement) : s.withQuotes.WritesNamesAlike ↔
    ∀ i j, s.PassesOver i → s.Refers j → i.value = j.value → i.quote.isSome := by
  constructor
  · intro h i j hi hj hvalue
    have hj' : s.withQuotes.Refers (quoteIdent j) :=
      (refers_withQuotes s _).mpr ⟨j, hj, getsQuotes_iff.mpr rfl⟩
    obtain ⟨n, hn, hi⟩ := (passesOver_withQuotes s i).mpr hi
    exact h i (quoteIdent j) ⟨n, hn, Node.declared_of_passedOver hi⟩ hj' hvalue rfl
  · intro h i j hi hj hvalue _
    obtain ⟨j', hj', hq⟩ := (refers_withQuotes s j).mp hj
    rcases isSome_or_passesOver hi with hsome | hi
    · exact hsome
    · exact h i j' hi hj' (hvalue.trans hq.value)

/-! ## Statements that can be looked through -/

/-- Whether no identifier has quotes, for a statement of no more than the depth. -/
def Sql.Statement.isUnquoted (depth : Nat) (s : Statement) : Bool :=
  Node.everywhere (fun n => n.idents.all fun i => i.quote.isNone) depth (.statement s)

theorem unquoted_of_isUnquoted {depth : Nat} {s : Statement} (h : s.isUnquoted depth) :
    s.Unquoted := by
  intro n hn i hi
  have hnode : n.idents.all fun i => i.quote.isNone := Node.of_everywhere h hn
  exact Option.isNone_iff_eq_none.mp (List.all_eq_true.mp hnode i hi)

/-- Whether no name that is passed over is spelled like a reference, for a statement of no more
than the depth. -/
def Sql.Statement.spellsApart (depth : Nat) (s : Statement) : Bool :=
  Node.everywhere (fun n => n.passedOver.all fun i =>
    Node.everywhere (fun k => k.references.all fun j => i.value != j.value) depth (.statement s))
    depth (.statement s)

theorem ne_of_spellsApart {depth : Nat} {s : Statement} (h : s.spellsApart depth) {i j : Ident}
    (hi : s.PassesOver i) (hj : s.Refers j) : i.value ≠ j.value := by
  obtain ⟨n, hn, hi⟩ := hi
  obtain ⟨k, hk, hj⟩ := hj
  have hall := List.all_eq_true.mp (Node.of_everywhere h hn) i hi
  exact bne_iff_ne.mp (List.all_eq_true.mp (Node.of_everywhere hall hk) j hj)

/-- Whether the statement, of no more than the depth, has no quotes, and has a reference to a name
that is passed over. -/
def Sql.Statement.losesName (depth : Nat) (s : Statement) : Bool :=
  let nodes := Node.upTo depth (.statement s)
  s.isUnquoted depth && (nodes.flatMap Node.passedOver).any fun i =>
    (nodes.flatMap Node.references).any fun j => i.value == j.value

theorem not_writesNamesAlike {depth : Nat} {s : Statement} (h : s.losesName depth) :
    s.Unquoted ∧ ¬ s.withQuotes.WritesNamesAlike := by
  unfold Sql.Statement.losesName at h
  simp only [Bool.and_eq_true, List.any_eq_true, List.mem_flatMap, beq_iff_eq] at h
  obtain ⟨hs, i, ⟨n, hn, hi⟩, j, ⟨k, hk, hj⟩, hvalue⟩ := h
  have hun : s.Unquoted := unquoted_of_isUnquoted hs
  have hi : s.PassesOver i := ⟨n, Node.contains_of_mem_upTo hn, hi⟩
  have hj : s.Refers j := ⟨k, Node.contains_of_mem_upTo hk, hj⟩
  refine ⟨hun, fun halike => hun.not_isSome hi ?_⟩
  exact (writesNamesAlike_withQuotes s).mp halike i j hi hj hvalue

theorem exists_of_losesName {text : String} (depth : Nat)
    (h : (parseBatch text).toOption.any fun batch =>
      batch.length == 1 && batch.all (Sql.Statement.losesName depth)) :
    ∃ s, parseBatch text = .ok [s] ∧ s.Unquoted ∧ ¬ s.withQuotes.WritesNamesAlike := by
  rcases hp : parseBatch text with e | batch
  · rw [hp] at h
    cases h
  · rw [hp] at h
    obtain ⟨hlength, hlost⟩ := Bool.and_eq_true_iff.mp h
    obtain ⟨s, rfl⟩ := List.length_eq_one_iff.mp (beq_iff_eq.mp hlength)
    have hs := List.all_eq_true.mp hlost s (List.mem_singleton_self s)
    exact ⟨s, rfl, not_writesNamesAlike hs⟩

/-! ## Which names are written alike -/

/-- If quotes are put around a statement that has none, its declared names and their references are
written alike exactly if no name that is passed over is spelled like a reference. Such a name is
that of a query of a WITH clause, or of a source of rows other than a table and a subquery. -/
theorem names_are_written_alike_iff {s : Statement} (h : s.Unquoted) :
    s.withQuotes.WritesNamesAlike ↔
      ∀ i j, s.PassesOver i → s.Refers j → i.value ≠ j.value := by
  rw [writesNamesAlike_withQuotes]
  constructor
  · intro halike i j hi hj hvalue
    exact h.not_isSome hi (halike i j hi hj hvalue)
  · intro hne i j hi hj hvalue
    exact absurd hvalue (hne i j hi hj)

/-- `SELECT t.a FROM (t CROSS JOIN u) AS x`. -/
def nestedSelect : Statement :=
  .query (.mk .absent (.select (.mk .standard .absent []
    [.plain (.qualified [{ value := "t" }, { value := "a" }])] []
    [.mk (.nested (.mk (.table [.ident { value := "t" }] .absent [])
      [.constrained (.table [.ident { value := "u" }] .absent []) false .cross .absent])
      (.named true { value := "x" } [])) []] [])) [])

/-- The name of the join is passed over, but nothing refers to it. -/
theorem nestedSelect_writes_names_alike :
    nestedSelect.Unquoted ∧ nestedSelect.withQuotes.WritesNamesAlike := by
  have h : nestedSelect.Unquoted :=
    unquoted_of_isUnquoted (show nestedSelect.isUnquoted 10 by decide +kernel)
  have hapart : nestedSelect.spellsApart 10 := by decide +kernel
  exact ⟨h, (names_are_written_alike_iff h).mpr fun _ _ => ne_of_spellsApart hapart⟩

/-- The name of a join in parentheses, and that of a query of a WITH clause, stay without quotes
while their references get some. -/
theorem references_get_quotes_without_their_names :
    (∃ s, parseBatch "select x.a from (t cross join u) as x" = .ok [s] ∧ s.Unquoted ∧
      ¬ s.withQuotes.WritesNamesAlike) ∧
    (∃ s, parseBatch "with x as (select 1) select 1 from x" = .ok [s] ∧ s.Unquoted ∧
      ¬ s.withQuotes.WritesNamesAlike) :=
  ⟨exists_of_losesName 20 (by decide +kernel), exists_of_losesName 20 (by decide +kernel)⟩

end ColumnMask
