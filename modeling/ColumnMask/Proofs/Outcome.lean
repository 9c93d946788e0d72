-- When a batch is rewritten, and why it is not. The rewriting asks for the digests of the
-- names that extraction lists, in the same order, so the first name without a digest is
-- the one it fails with. A statement that is not supported comes before all names.
import ColumnMask.Proofs.FirstSeen
import ColumnMask.Proofs.TargetLists
import ColumnMask.Rewrite

namespace ColumnMask

open Sql

/-! ## Names without a digest -/

/-- Whether the mapping has no digest for a name. -/
def Mapping.lacks (m : Mapping) (name : String) : Bool := (m.get? name).isNone

/-- Fails with the first name that has no digest. -/
def Mapping.require (m : Mapping) (names : List String) : Except Failure Unit :=
  match names.find? m.lacks with
  | none => .ok ()
  | some name => .error (.unmapped name)

theorem Mapping.require_append (m : Mapping) (names more : List String) :
    m.require (names ++ more) = (do m.require names; m.require more) := by
  unfold Mapping.require
  rw [List.find?_append]
  cases names.find? m.lacks <;> rfl

theorem Mapping.require_cons (m : Mapping) (name : String) (names : List String) :
    m.require (name :: names) = (do m.require [name]; m.require names) :=
  m.require_append [name] names

theorem tested_renameColumn (m : Mapping) (i : Ident) :
    tested (renameColumn m) i = m.require [i.value] := by
  unfold tested renameColumn Mapping.require Mapping.lacks
  rcases h : m.get? i.value with _ | digest
  · simp only [List.find?_cons, h, Option.isNone_none]
    rfl
  · simp only [List.find?_cons, h, Option.isNone_some, List.find?_nil]
    rfl

theorem forM_renameColumn (m : Mapping) (is : List Ident) :
    is.forM (tested (renameColumn m)) = m.require (is.map Ident.value) := by
  induction is with
  | nil => rfl
  | cons i is ih =>
    rw [List.map_cons, m.require_cons, ← tested_renameColumn, ← ih]
    rfl

theorem checkMapped_eq (m : Mapping) (is : List Ident) :
    checkMapped m is = m.require (is.map Ident.value) := by
  induction is with
  | nil => rfl
  | cons i is ih =>
    rw [List.map_cons, m.require_cons, ← tested_renameColumn, ← ih, checkMapped, tested, bind_assoc]
    rfl

theorem Mapping.require_ok {m : Mapping} {names : List String} :
    m.require names = .ok () ↔ ∀ name ∈ names, (m.get? name).isSome := by
  unfold Mapping.require
  split
  · rename_i h
    simp only [List.find?_eq_none, Mapping.lacks] at h
    simpa [Option.isSome_iff_ne_none] using h
  · rename_i name h
    have hl : m.lacks name := List.find?_some h
    have hm : name ∈ names := List.mem_of_find?_eq_some h
    simp only [reduceCtorEq, false_iff]
    intro hall
    have hsome := hall name hm
    rw [Option.isNone_iff_eq_none.mp hl] at hsome
    cases hsome

/-- The name is the first of the list without a digest. -/
def Mapping.FirstLacking (m : Mapping) (names : List String) (name : String) : Prop :=
  ∃ known more, names = known ++ name :: more ∧ (∀ k ∈ known, (m.get? k).isSome) ∧
    m.get? name = none

theorem Mapping.require_error {m : Mapping} {names : List String} {name : String} :
    m.require names = .error (.unmapped name) ↔ m.FirstLacking names name := by
  have hfind : m.require names = .error (.unmapped name) ↔ names.find? m.lacks = some name := by
    unfold Mapping.require
    split
    · rename_i h
      simp [h]
    · rename_i found h
      simp [h]
  rw [hfind, List.find?_eq_some_iff_append]
  unfold Mapping.FirstLacking Mapping.lacks
  constructor
  · rintro ⟨hn, known, more, rfl, hk⟩
    refine ⟨known, more, rfl, fun k h => ?_, Option.isNone_iff_eq_none.mp hn⟩
    simpa using hk k h
  · rintro ⟨known, more, rfl, hk, hn⟩
    refine ⟨by simp [hn], known, more, rfl, fun k h => ?_⟩
    simpa using hk k h

theorem Mapping.require_cases (m : Mapping) (names : List String) :
    m.require names = .ok () ∨ ∃ name, m.require names = .error (.unmapped name) := by
  unfold Mapping.require
  cases names.find? m.lacks with
  | none => exact Or.inl rfl
  | some name => exact Or.inr ⟨name, rfl⟩

/-! ## One statement -/

theorem columnRenamer_guards (m : Mapping) : (columnRenamer m).Guards := by
  intro body h i hi
  have hreq : checkMapped m body.usingColumns = .ok () := h
  rw [checkMapped_eq, Mapping.require_ok] at hreq
  show tested (renameColumn m) i = .ok ()
  rw [tested_renameColumn, Mapping.require_ok]
  simpa using hreq i.value (List.mem_map_of_mem hi)

theorem test_columnRenamer (m : Mapping) (v : Visit) :
    (columnRenamer m).test v = m.require (v.sites.map Ident.value) := by
  cases v with
  | enter body => exact checkMapped_eq m body.usingColumns
  | lone i =>
    simp only [Walker.test, Visit.sites, columnRenamer, tested]
    split
    · rfl
    · exact tested_renameColumn m i
  | last i => exact tested_renameColumn m i
  | qualifier i => rfl
  | relation i => rfl
  | source i => rfl
  | label i => rfl
  | inner s => rfl

theorem forM_columnRenamer (m : Mapping) (vs : List Visit) :
    vs.forM (columnRenamer m).test = m.require (namesAt vs) := by
  induction vs with
  | nil => rfl
  | cons v vs ih =>
    rw [namesAt_cons, m.require_append, ← test_columnRenamer, ← ih]
    rfl

/-- The statement whose columns are renamed where they have a digest. -/
def renamed (m : Mapping) (s : Statement) : Statement :=
  ((s.mapTargets (sure (renameColumn m))).run.walk (columnRenamer m).settled).run

theorem checkSupported_singleton {s : Statement} (h : s.isSupported) :
    checkSupported [s] = .ok () := by
  simp [checkSupported, h]

theorem rewriteStatement_eq (m : Mapping) {s : Statement} (h : s.isSupported) :
    rewriteStatement m s = do m.require s.sites; return renamed m s := by
  have hw := columnRenamer_guards m
  rw [rewriteStatement, checkSupported_singleton h, s.mapTargets_eq, forM_renameColumn]
  simp only [bind_assoc, pure_bind, Statement.walk_eq hw, Statement.visits_mapTargets,
    forM_columnRenamer]
  rw [Statement.sites, s.columns_eq, m.require_append, bind_assoc]
  rfl

theorem rewriteStatement_mapped {m : Mapping} {s : Statement} (h : s.isSupported)
    (hm : ∀ name ∈ s.sites, (m.get? name).isSome) : rewriteStatement m s = .ok (renamed m s) := by
  rw [rewriteStatement_eq m h, Mapping.require_ok.mpr hm]
  rfl

/-! ## Supported batches -/

theorem checkSupported_ok {batch : List Statement} (h : ∀ s ∈ batch, s.isSupported) :
    checkSupported batch = .ok () := by
  unfold checkSupported
  rw [List.find?_eq_none.mpr]
  rintro ⟨s, i⟩ hs
  simp [h s (List.fst_mem_of_mem_zipIdx hs)]

theorem checkSupported_append {before after : List Statement} {s : Statement}
    (hb : ∀ t ∈ before, t.isSupported) (hs : ¬ s.isSupported) :
    checkSupported (before ++ s :: after) = .error (.unsupported before.length s.keyword) := by
  unfold checkSupported
  rw [List.zipIdx_append, List.find?_append, List.find?_eq_none.mpr]
  · rw [List.zipIdx_cons, List.find?_cons]
    simp [hs]
  · rintro ⟨t, i⟩ ht
    simp [hb t (List.fst_mem_of_mem_zipIdx ht)]

/-- A batch is supported, or it has a first statement that is not. -/
theorem supported_or_first (batch : List Statement) : (∀ s ∈ batch, s.isSupported) ∨
    ∃ before s after, batch = before ++ s :: after ∧ (∀ t ∈ before, t.isSupported) ∧
      ¬ s.isSupported := by
  induction batch with
  | nil => exact Or.inl fun s hs => by cases hs
  | cons s batch ih =>
    by_cases hs : s.isSupported
    · rcases ih with h | ⟨before, t, after, rfl, hb, ht⟩
      · exact Or.inl (List.forall_mem_cons.mpr ⟨hs, h⟩)
      · exact Or.inr ⟨s :: before, t, after, rfl, List.forall_mem_cons.mpr ⟨hs, hb⟩, ht⟩
    · exact Or.inr ⟨[], s, batch, rfl, (fun t ht => by cases ht), hs⟩

theorem mapEach_rewriteStatement (m : Mapping) {batch : List Statement}
    (h : ∀ s ∈ batch, s.isSupported) : mapEach (rewriteStatement m) batch =
      (do m.require (batch.flatMap Statement.sites); return batch.map (renamed m)) := by
  induction batch with
  | nil => rfl
  | cons s batch ih =>
    obtain ⟨hs, hb⟩ := List.forall_mem_cons.mp h
    rw [mapEach, rewriteStatement_eq m hs, ih hb, List.flatMap_cons, m.require_append]
    simp

/-- A supported batch is rewritten if its columns have digests. The names are asked for in the
order in which extraction lists them. -/
theorem rewriteBatch_eq (m : Mapping) {batch : List Statement} (h : ∀ s ∈ batch, s.isSupported) :
    rewriteBatch m batch =
      (do m.require (extractColumns batch).names; return batch.map (renamed m)) := by
  have hreq : m.require (extractColumns batch).names =
      m.require (batch.flatMap Statement.sites) := by
    unfold Mapping.require extractColumns
    rw [ColumnSet.find?_ofList]
  rw [rewriteBatch, checkSupported_ok h, mapEach_rewriteStatement m h, hreq]
  rfl

theorem rewriteBatch_unsupported (m : Mapping) {before after : List Statement} {s : Statement}
    (hb : ∀ t ∈ before, t.isSupported) (hs : ¬ s.isSupported) :
    rewriteBatch m (before ++ s :: after) = .error (.unsupported before.length s.keyword) := by
  rw [rewriteBatch, checkSupported_append hb hs]
  rfl

/-! ## The outcome of a batch -/

theorem rewriteBatch_ok_iff (m : Mapping) (batch : List Statement) :
    (∃ out, rewriteBatch m batch = .ok out) ↔
      (∀ s ∈ batch, s.isSupported) ∧ ∀ name ∈ extractColumns batch, (m.get? name).isSome := by
  rcases supported_or_first batch with h | ⟨before, s, after, rfl, hb, hs⟩
  · rw [rewriteBatch_eq m h, and_iff_right h]
    refine Iff.trans ?_ Mapping.require_ok
    rcases m.require_cases (extractColumns batch).names with hr | ⟨name, hr⟩
    · rw [hr]
      exact ⟨fun _ => rfl, fun _ => ⟨_, rfl⟩⟩
    · rw [hr]
      constructor
      · rintro ⟨_, ho⟩
        cases ho
      · intro ho
        cases ho
  · rw [rewriteBatch_unsupported m hb hs]
    constructor
    · rintro ⟨_, ho⟩
      cases ho
    · rintro ⟨h, _⟩
      exact absurd (h s (by simp)) hs

theorem rewriteBatch_unmapped_iff (m : Mapping) (batch : List Statement) (name : String) :
    rewriteBatch m batch = .error (.unmapped name) ↔
      (∀ s ∈ batch, s.isSupported) ∧ m.FirstLacking (extractColumns batch).names name := by
  rcases supported_or_first batch with h | ⟨before, s, after, rfl, hb, hs⟩
  · rw [rewriteBatch_eq m h, and_iff_right h]
    refine Iff.trans ?_ Mapping.require_error
    rcases m.require_cases (extractColumns batch).names with hr | ⟨found, hr⟩
    · rw [hr]
      constructor
      · intro ho
        cases ho
      · intro ho
        cases ho
    · rw [hr]
      constructor
      · intro ho
        cases ho
        rfl
      · intro ho
        cases ho
        rfl
  · rw [rewriteBatch_unsupported m hb hs]
    constructor
    · intro ho
      cases ho
    · rintro ⟨h, _⟩
      exact absurd (h s (by simp)) hs

/-- The first statement that is not supported stands at the index, and starts with the keyword. -/
def FirstUnsupported (batch : List Statement) (index : Nat) (keyword : String) : Prop :=
  ∃ before s after, batch = before ++ s :: after ∧ (∀ t ∈ before, t.isSupported) ∧
    ¬ s.isSupported ∧ before.length = index ∧ s.keyword = keyword

theorem rewriteBatch_unsupported_iff (m : Mapping) (batch : List Statement) (index : Nat)
    (keyword : String) : rewriteBatch m batch = .error (.unsupported index keyword) ↔
      FirstUnsupported batch index keyword := by
  constructor
  · intro ho
    rcases supported_or_first batch with h | ⟨before, s, after, rfl, hb, hs⟩
    · rw [rewriteBatch_eq m h] at ho
      rcases m.require_cases (extractColumns batch).names with hr | ⟨name, hr⟩
      · rw [hr] at ho
        cases ho
      · rw [hr] at ho
        cases ho
    · rw [rewriteBatch_unsupported m hb hs] at ho
      cases ho
      exact ⟨before, s, after, rfl, hb, hs, rfl, rfl⟩
  · rintro ⟨before, s, after, rfl, hb, hs, rfl, rfl⟩
    exact rewriteBatch_unsupported m hb hs

/-- There are no other outcomes than these three. -/
theorem rewriteBatch_cases (m : Mapping) (batch : List Statement) :
    (∃ out, rewriteBatch m batch = .ok out) ∨
      (∃ name, rewriteBatch m batch = .error (.unmapped name)) ∨
      ∃ index keyword, rewriteBatch m batch = .error (.unsupported index keyword) := by
  rcases supported_or_first batch with h | ⟨before, s, after, rfl, hb, hs⟩
  · rw [rewriteBatch_eq m h]
    rcases m.require_cases (extractColumns batch).names with hr | ⟨name, hr⟩
    · rw [hr]
      exact Or.inl ⟨_, rfl⟩
    · rw [hr]
      exact Or.inr (Or.inl ⟨name, rfl⟩)
  · exact Or.inr (Or.inr ⟨_, _, rewriteBatch_unsupported m hb hs⟩)

/-- A batch is rewritten, or it lacks a digest, or it is refused. It is rewritten exactly if its
statements are supported and its columns have digests. If a statement is not supported, the first
such statement is the failure, whatever names have no digest. If all are, the failure is the first
name without a digest in the order of extraction. -/
theorem rewriting_fails_at_the_first_fault (m : Mapping) (batch : List Statement) :
    ((∃ out, rewriteBatch m batch = .ok out) ∨
      (∃ name, rewriteBatch m batch = .error (.unmapped name)) ∨
      ∃ index keyword, rewriteBatch m batch = .error (.unsupported index keyword)) ∧
    ((∃ out, rewriteBatch m batch = .ok out) ↔
      (∀ s ∈ batch, s.isSupported) ∧ ∀ name ∈ extractColumns batch, (m.get? name).isSome) ∧
    (∀ name, rewriteBatch m batch = .error (.unmapped name) ↔
      (∀ s ∈ batch, s.isSupported) ∧ m.FirstLacking (extractColumns batch).names name) ∧
    (∀ index keyword, rewriteBatch m batch = .error (.unsupported index keyword) ↔
      FirstUnsupported batch index keyword) :=
  ⟨rewriteBatch_cases m batch, rewriteBatch_ok_iff m batch, rewriteBatch_unmapped_iff m batch,
    rewriteBatch_unsupported_iff m batch⟩

/-! ## The mapping of a batch -/

section

variable {digest : String → String} {batch : List Statement}

theorem Mapping.get?_build {columns : ColumnSet} {name : String} (h : name ∈ columns) :
    (Mapping.build digest columns).get? name = some (digest name) :=
  get?_eq_some_iff.mpr ((mem_build digest columns).mpr ⟨h, rfl⟩)

theorem mem_extractColumns_of_mem_sites {s : Statement} (hs : s ∈ batch) {name : String}
    (h : name ∈ s.sites) : name ∈ extractColumns batch := by
  show name ∈ (extractColumns batch).names
  unfold extractColumns
  rw [ColumnSet.mem_ofList, List.mem_flatMap]
  exact ⟨s, hs, h⟩

theorem mem_extractColumns {s : Statement} (hs : s ∈ batch) {i : Ident} (hi : i ∈ s.siteIdents) :
    i.value ∈ extractColumns batch := by
  refine mem_extractColumns_of_mem_sites hs ?_
  rw [s.sites_eq]
  exact List.mem_map_of_mem hi

/-- The mapping from the columns of a batch to their digests. -/
def ownMapping (digest : String → String) (batch : List Statement) : Mapping :=
  Mapping.build digest (extractColumns batch)

theorem isSome_ownMapping {name : String} (h : name ∈ extractColumns batch) :
    ((ownMapping digest batch).get? name).isSome := by
  have hg : (ownMapping digest batch).get? name = some (digest name) := Mapping.get?_build h
  rw [hg]
  rfl

theorem rewriteBatch_ownMapping (h : ∀ s ∈ batch, s.isSupported) :
    rewriteBatch (ownMapping digest batch) batch =
      .ok (batch.map (renamed (ownMapping digest batch))) := by
  have hreq : (ownMapping digest batch).require (extractColumns batch).names = .ok () :=
    Mapping.require_ok.mpr fun _ => isSome_ownMapping
  rw [rewriteBatch_eq _ h, hreq]
  rfl

end

end ColumnMask
