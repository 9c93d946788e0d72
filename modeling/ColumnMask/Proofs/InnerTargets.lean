-- The targets that rewriting does not reach. The target lists of a statement are renamed
-- if it is a statement of the batch. If it stands below another one, as the body of a
-- query or of a WITH clause, its target lists stay as they are.
import ColumnMask.Proofs.Renaming
import ColumnMask.Serialize

namespace ColumnMask.Sql

/-! ## Targets anywhere -/

/-- The columns that an item of a list sets. -/
def Part.setColumns : Part → List Ident
  | .assignment a => a.target.columns
  | .ident i => [i]
  | _ => []

def Part.joinedColumns : Part → List Ident
  | .factor t => t.nestedColumns
  | _ => []

def Part.items : Part → List Part
  | .list items => items
  | _ => []

def Part.parts : Part → List Part
  | .node _ parts => parts
  | _ => []

/-- The columns that a list of assignments or of names sets. -/
def Part.listedColumns (p : Part) : List Ident := p.items.flatMap Part.setColumns

/-- The columns that the action of a MERGE clause sets. -/
def Part.actionTargets (p : Part) : List Ident := p.parts.flatMap Part.listedColumns

/-- The columns that a clause of a MERGE sets. -/
def Part.clauseTargets (p : Part) : List Ident := p.parts.flatMap Part.actionTargets

/-- The targets in a part of a MERGE: the USING columns of a table, or what a list of clauses
sets. -/
def Part.mergeTargets (p : Part) : List Ident :=
  p.joinedColumns ++ p.items.flatMap Part.clauseTargets

def Form.isMerge (f : Form) : Bool :=
  match f.encoding with
  | .variant "Merge" _ => true
  | _ => false

/-- The targets of a statement of any kind. -/
def Statement.ownTargets : Statement → List Ident
  | .other f parts => if f.isMerge then parts.flatMap Part.mergeTargets else []
  | s => s.targets

def Visit.innerTargets : Visit → List Ident
  | .inner s => s.ownTargets
  | _ => []

/-- The targets of the statements below a statement. -/
def Statement.innerTargets (s : Statement) : List Ident := s.visits.flatMap Visit.innerTargets

/-- The targets of a statement and of all statements below it. -/
def Statement.allTargets (s : Statement) : List Ident := s.ownTargets ++ s.innerTargets

/-! ## Statements below another one keep their targets -/

section

variable {c : Change}

theorem alikeParts.flatMap {f : Part → List Ident} (hf : ∀ {p q : Part}, p.alike c q → f q = f p)
    {ps qs : List Part} (h : alikeParts c ps qs) : qs.flatMap f = ps.flatMap f := by
  induction ps generalizing qs with
  | nil =>
    obtain rfl := h
    rfl
  | cons p ps ih =>
    obtain ⟨q, qs, rfl, hp, hs⟩ := h
    rw [List.flatMap_cons, List.flatMap_cons, hf hp, ih hs]

theorem Part.alike.setColumns {p q : Part} (h : p.alike c q) : q.setColumns = p.setColumns := by
  cases p with
  | assignment a =>
    cases a with
    | mk target value =>
      obtain ⟨_, rfl, _, _, rfl, ht, _⟩ := h
      exact eq_of_forall₂ ht.columns
  -- Any other part stands beside one of its own kind, and neither has columns.
  | _ => first
    | obtain rfl := h
      rfl
    | obtain ⟨_, rfl, _⟩ := h
      rfl

theorem Part.alike.joinedColumns {p q : Part} (h : p.alike c q) :
    q.joinedColumns = p.joinedColumns := by
  cases p with
  | factor t =>
    obtain ⟨_, rfl, ht⟩ := h
    exact eq_of_forall₂ ht.nestedColumns
  | _ => first
    | obtain rfl := h
      rfl
    | obtain ⟨_, rfl, _⟩ := h
      rfl

theorem Part.alike.items {p q : Part} (h : p.alike c q) : alikeParts c p.items q.items := by
  cases p with
  | list ps =>
    obtain ⟨_, rfl, hs⟩ := h
    exact hs
  | _ => first
    | obtain rfl := h
      rfl
    | obtain ⟨_, rfl, _⟩ := h
      rfl

theorem Part.alike.parts {p q : Part} (h : p.alike c q) : alikeParts c p.parts q.parts := by
  cases p with
  | node f ps =>
    obtain ⟨_, rfl, hs⟩ := h
    exact hs
  | _ => first
    | obtain rfl := h
      rfl
    | obtain ⟨_, rfl, _⟩ := h
      rfl

theorem Part.alike.listedColumns {p q : Part} (h : p.alike c q) :
    q.listedColumns = p.listedColumns :=
  h.items.flatMap Part.alike.setColumns

theorem Part.alike.actionTargets {p q : Part} (h : p.alike c q) :
    q.actionTargets = p.actionTargets :=
  h.parts.flatMap Part.alike.listedColumns

theorem Part.alike.clauseTargets {p q : Part} (h : p.alike c q) :
    q.clauseTargets = p.clauseTargets :=
  h.parts.flatMap Part.alike.actionTargets

theorem Part.alike.mergeTargets {p q : Part} (h : p.alike c q) :
    q.mergeTargets = p.mergeTargets := by
  unfold Part.mergeTargets
  rw [h.joinedColumns, h.items.flatMap Part.alike.clauseTargets]

theorem Statement.alike.ownTargets {s s' : Statement} (h : s.alike c Eq s') :
    s'.ownTargets = s.ownTargets := by
  have ht : s'.targets = s.targets := eq_of_forall₂ h.targets
  cases s with
  | other f ps =>
    obtain ⟨qs, rfl, hs⟩ := h
    simp only [Statement.ownTargets]
    rw [hs.flatMap Part.alike.mergeTargets]
  | query q =>
    obtain ⟨_, rfl, _⟩ := h
    exact ht
  | insert head columns middle on clauses =>
    obtain ⟨_, _, _, _, _, rfl, _⟩ := h
    exact ht
  | update head table assignments source clauses =>
    obtain ⟨_, _, _, _, _, rfl, _⟩ := h
    exact ht
  | delete head source others clauses =>
    obtain ⟨_, _, _, _, rfl, _⟩ := h
    exact ht

theorem Visit.Alike.innerTargets {v v' : Visit} (h : v.Alike c v') :
    v'.innerTargets = v.innerTargets := by
  cases h with
  | inner h => exact h.ownTargets
  | _ => rfl

theorem Counterparts.innerTargets {vs vs' : List Visit} (h : Counterparts c vs vs') :
    vs'.flatMap Visit.innerTargets = vs.flatMap Visit.innerTargets := by
  induction h with
  | nil => rfl
  | cons hv _ ih => rw [List.flatMap_cons, List.flatMap_cons, hv.innerTargets, ih]

theorem Statement.alike.innerTargets {u : Ident → Ident → Prop} {s s' : Statement}
    (h : s.alike c u s') : s'.innerTargets = s.innerTargets :=
  h.visits.innerTargets

end

theorem Statement.ownTargets_eq {s : Statement} (h : s.isSupported) : s.ownTargets = s.targets := by
  cases s with
  | other f ps => cases h
  | _ => rfl

end ColumnMask.Sql

namespace ColumnMask

open Sql

variable {digest : String → String} {batch : List Statement}

/-! ## The targets of a rewritten batch -/

/-- The identifier with the digest of its value, between double quotes. -/
def masked (digest : String → String) (i : Ident) : Ident :=
  { i with value := digest i.value, quote := some '"' }

theorem settled_ownMapping {s : Statement} (hs : s ∈ batch) {i : Ident} (hi : i ∈ s.siteIdents) :
    settled (renameColumn (ownMapping digest batch)) i = masked digest i :=
  renameColumn_some _ (Mapping.get?_build (mem_extractColumns hs hi))

theorem eq_map_of_forall₂ {f : Ident → Ident} {is js : List Ident}
    (h : List.Forall₂ (fun i j => j = f i) is js) : js = is.map f := by
  induction h with
  | nil => rfl
  | cons hj _ ih => rw [List.map_cons, hj, ih]

theorem targets_renamed {s : Statement} (hs : s ∈ batch) :
    (renamed (ownMapping digest batch) s).targets = s.targets.map (masked digest) := by
  rw [eq_map_of_forall₂ (renamed_follows (ownMapping digest batch) s).targets]
  exact List.map_congr_left fun i hi => settled_ownMapping hs (List.mem_append_left _ hi)

theorem Sql.Statement.alike.isSupported {c : Change} {u : Ident → Ident → Prop} {s s' : Statement}
    (h : s.alike c u s') : s'.isSupported = s.isSupported := by
  cases s with
  | query q =>
    obtain ⟨_, rfl, _⟩ := h
    rfl
  | insert head columns middle on clauses =>
    obtain ⟨_, _, _, _, _, rfl, _⟩ := h
    rfl
  | update head table assignments source clauses =>
    obtain ⟨_, _, _, _, _, rfl, _⟩ := h
    rfl
  | delete head source others clauses =>
    obtain ⟨_, _, _, _, rfl, _⟩ := h
    rfl
  | other f ps =>
    obtain ⟨_, rfl, _⟩ := h
    rfl

/-- The targets of a statement are masked; those of the statements below it are not. -/
theorem allTargets_renamed {s : Statement} (hs : s ∈ batch) (h : s.isSupported) :
    (renamed (ownMapping digest batch) s).allTargets =
      s.targets.map (masked digest) ++ s.innerTargets := by
  have ha := renamed_follows (ownMapping digest batch) s
  unfold Statement.allTargets
  rw [Statement.ownTargets_eq (ha.isSupported ▸ h), targets_renamed hs, ha.innerTargets]

theorem map_masked_allTargets {s : Statement} (h : s.isSupported) :
    s.allTargets.map (masked digest) =
      s.targets.map (masked digest) ++ s.innerTargets.map (masked digest) := by
  unfold Statement.allTargets
  rw [List.map_append, Statement.ownTargets_eq h]

theorem flatMap_eq_iff {α β : Type} {f g : α → List β} {as : List α}
    (hl : ∀ a ∈ as, (f a).length = (g a).length) :
    as.flatMap f = as.flatMap g ↔ ∀ a ∈ as, f a = g a := by
  induction as with
  | nil => simp
  | cons a as ih =>
    obtain ⟨ha, hs⟩ := List.forall_mem_cons.mp hl
    rw [List.flatMap_cons, List.flatMap_cons, List.forall_mem_cons, ← ih hs]
    constructor
    · intro h
      exact List.append_inj h ha
    · rintro ⟨h, hr⟩
      rw [h, hr]

theorem map_eq_self_iff {α : Type} {f : α → α} {as : List α} :
    as.map f = as ↔ ∀ a ∈ as, f a = a := by
  have h : as.map f = as.map id ↔ ∀ a ∈ as, f a = id a := List.map_inj_left
  rwa [List.map_id] at h

/-- A batch is refused, or each of its targets is masked, wherever its statement stands. -/
def NothingLeftClear (digest : String → String) (batch : List Statement) : Prop :=
  (∃ index keyword,
    rewriteBatch (ownMapping digest batch) batch = .error (.unsupported index keyword)) ∨
  ∃ out, rewriteBatch (ownMapping digest batch) batch = .ok out ∧
    out.flatMap Statement.allTargets = (batch.flatMap Statement.allTargets).map (masked digest)

theorem nothingLeftClear_supported (h : ∀ s ∈ batch, s.isSupported) :
    NothingLeftClear digest batch ↔ ∀ s ∈ batch, ∀ i ∈ s.innerTargets, masked digest i = i := by
  have hlength : ∀ s ∈ batch, (renamed (ownMapping digest batch) s).allTargets.length =
      (s.allTargets.map (masked digest)).length := by
    intro s hs
    rw [allTargets_renamed hs (h s hs), map_masked_allTargets (h s hs)]
    simp
  have hinner : ∀ s ∈ batch, (renamed (ownMapping digest batch) s).allTargets =
      s.allTargets.map (masked digest) ↔ ∀ i ∈ s.innerTargets, masked digest i = i := by
    intro s hs
    rw [allTargets_renamed hs (h s hs), map_masked_allTargets (h s hs),
      List.append_cancel_left_eq, eq_comm]
    exact map_eq_self_iff
  unfold NothingLeftClear
  rw [rewriteBatch_ownMapping h]
  constructor
  · rintro (⟨index, keyword, ho⟩ | ⟨out, ho, heq⟩)
    · cases ho
    · cases ho
      rw [List.flatMap_map, List.map_flatMap, flatMap_eq_iff hlength] at heq
      exact fun s hs => (hinner s hs).mp (heq s hs)
  · intro hi
    refine Or.inr ⟨_, rfl, ?_⟩
    rw [List.flatMap_map, List.map_flatMap, flatMap_eq_iff hlength]
    exact fun s hs => (hinner s hs).mpr (hi s hs)

/-- Every target of a batch is masked exactly if the statements below its statements have no
targets, or only such as are their own digests. A batch with a statement that is not supported is
refused. -/
theorem nothing_is_left_clear_iff (digest : String → String) (batch : List Statement) :
    NothingLeftClear digest batch ↔ (∃ s ∈ batch, ¬ s.isSupported) ∨
      ∀ s ∈ batch, ∀ i ∈ s.innerTargets, masked digest i = i := by
  rcases supported_or_first batch with h | ⟨before, s, after, rfl, hb, hs⟩
  · rw [nothingLeftClear_supported h]
    constructor
    · exact Or.inr
    · rintro (⟨s, hs, hn⟩ | hi)
      · exact absurd (h s hs) hn
      · exact hi
  · constructor
    · exact fun _ => Or.inl ⟨s, by simp, hs⟩
    · intro _
      exact Or.inl ⟨before.length, s.keyword, rewriteBatch_unsupported _ hb hs⟩

/-! ## A text that shows a column -/

/-- Whether a batch is supported and has an unquoted target below one of its statements. -/
def showsTarget (batch : List Statement) : Bool :=
  batch.all Statement.isSupported &&
    batch.any fun s => s.innerTargets.any fun i => i.quote.isNone

theorem not_nothingLeftClear (h : showsTarget batch) : ¬ NothingLeftClear digest batch := by
  unfold showsTarget at h
  simp only [Bool.and_eq_true, List.all_eq_true, List.any_eq_true] at h
  obtain ⟨hs, s, hm, i, hi, hq⟩ := h
  rw [nothingLeftClear_supported hs]
  intro hall
  rw [← hall s hm i hi] at hq
  cases hq

/-- An INSERT as the body of a query keeps its column. -/
theorem an_insert_below_a_query_shows_its_column : ∃ batch,
    parseBatch "with x as (select 1) insert into t (a) values (1)" = .ok batch ∧
    ¬ NothingLeftClear columnDigest batch := by
  have hread : (parseBatch "with x as (select 1) insert into t (a) values (1)").toOption.any
      showsTarget = true := by decide +kernel
  rcases hp : parseBatch "with x as (select 1) insert into t (a) values (1)" with e | batch
  · rw [hp] at hread
    cases hread
  · rw [hp] at hread
    exact ⟨batch, rfl, not_nothingLeftClear hread⟩

end ColumnMask
