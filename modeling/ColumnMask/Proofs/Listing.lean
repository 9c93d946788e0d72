-- What a service lists after it was sent requests. Each request that succeeds adds its
-- columns, and no other request adds anything, so the listing is made of the digests of
-- those columns, whatever the order of the requests.
import ColumnMask.Proofs.Composition
import ColumnMask.Proofs.FirstWrite
import ColumnMask.Service.Session

namespace ColumnMask

open Sql

/-! ## The answer to a request -/

/-- The answer of a service whose store does not fail. -/
def Request.answer (quoting : Quoting) (request : Request) : Except Failure Response :=
  if request.isEmpty then .ok .skipped
  else (ColumnMask.anonymize quoting request.text).map .anonymized

/-- The columns in an answer, with their digests; a failure has none. -/
def answeredPairs : Except Failure Response → List Pair
  | .ok response => response.columns
  | .error _ => []

theorem anonymizeBatch_columns {digest : String → String} {quoting : Quoting}
    {batch : List Statement} {out : Anonymized}
    (h : anonymizeBatch digest quoting batch = .ok out) :
    out.columns = (ownMapping digest batch).pairs := by
  rcases supported_or_first batch with hs | ⟨before, s, after, rfl, hb, hs⟩
  · have hp := (anonymizeBatch_ok_iff hs).mp ⟨out, h⟩
    rw [anonymizeBatch_ok hs hp] at h
    cases h
    rfl
  · rw [anonymizeBatch, checkSupported_append hb hs] at h
    cases h

/-- Each column in an answer stands with its digest. -/
theorem digest_of_mem_answer {quoting : Quoting} {request : Request} {p : Pair}
    (h : p ∈ answeredPairs (request.answer quoting)) : p.digest = columnDigest p.name := by
  unfold Request.answer at h
  split at h
  · cases h
  · rcases ha : ColumnMask.anonymize quoting request.text with failure | out
    · rw [ha] at h
      cases h
    · rw [ha] at h
      have hp : p ∈ out.columns := h
      rcases hb : parseBatch request.text with failure | batch
      · rw [ColumnMask.anonymize, hb] at ha
        cases ha
      · rw [ColumnMask.anonymize, hb] at ha
        rw [anonymizeBatch_columns ha] at hp
        obtain ⟨name, _, rfl⟩ := List.mem_map.mp hp
        rfl

/-! ## What a service does with a request -/

section

variable {σ : Type} {quoting : Quoting} {request : Request}

/-- Without columns in the answer the store is left alone. -/
theorem Store.anonymize_quiet (store : Store σ) (s : σ)
    (h : answeredPairs (request.answer quoting) = []) :
    store.anonymize quoting request s = (request.answer quoting, s) := by
  unfold Store.anonymize
  unfold Request.answer at *
  split at h
  · rename_i he
    rw [if_pos he, if_pos he]
  · rename_i he
    rw [if_neg he, if_neg he]
    rcases ha : ColumnMask.anonymize quoting request.text with failure | result
    · rfl
    · rw [ha] at h
      have hnil : result.columns = [] := h
      simp only [hnil, List.isEmpty_nil, if_true]
      rfl

/-- The columns of the answer go to the store, and the answer stands if it takes them. -/
theorem Store.anonymize_writes (store : Store σ) (s : σ)
    (h : answeredPairs (request.answer quoting) ≠ []) :
    store.anonymize quoting request s =
      (match (store.upsert (answeredPairs (request.answer quoting)) s).1 with
        | .ok () => request.answer quoting
        | .error e => .error (.store e),
      (store.upsert (answeredPairs (request.answer quoting)) s).2) := by
  unfold Store.anonymize
  unfold Request.answer at *
  split at h
  · exact absurd rfl h
  · rename_i he
    rw [if_neg he, if_neg he]
    rcases ha : ColumnMask.anonymize quoting request.text with failure | result
    · rw [ha] at h
      exact absurd rfl h
    · rw [ha] at h
      have hne : ¬ result.columns.isEmpty := fun hnil => h (List.isEmpty_iff.mp hnil)
      simp only [if_neg hne]
      show _ = (match (store.upsert result.columns s).1 with
        | .ok () => _
        | .error e => _, (store.upsert result.columns s).2)
      rcases store.upsert result.columns s with ⟨_ | _, s'⟩ <;> rfl

end

/-! ## Requests one after the other -/

section

variable {σ : Type} {store : Store σ} {Holds : σ → List Pair → Prop}

/-- A request is answered whatever the store has, and its columns are added to the rows. -/
theorem Store.KeepsFirst.anonymize (h : store.KeepsFirst Holds) (quoting : Quoting)
    (request : Request) {s : σ} {rows : List Pair} (hs : Holds s rows) :
    ∃ s', store.anonymize quoting request s = (request.answer quoting, s') ∧
      Holds s' (addPairs rows (answeredPairs (request.answer quoting))) := by
  by_cases hp : answeredPairs (request.answer quoting) = []
  · refine ⟨s, store.anonymize_quiet s hp, ?_⟩
    rw [hp]
    exact hs
  · obtain ⟨s', hu, hs'⟩ := h.upsert s rows (answeredPairs (request.answer quoting)) hs
    refine ⟨s', ?_, hs'⟩
    rw [store.anonymize_writes s hp, hu]

/-- After a run of requests the rows are the columns of the answers, added one after the other. -/
theorem Store.KeepsFirst.run (h : store.KeepsFirst Holds) (quoting : Quoting)
    (requests : List Request) {s : σ} {rows : List Pair} (hs : Holds s rows) :
    ∃ s', store.run quoting (requests.map .anonymize) s =
        (requests.map fun r => .response (r.answer quoting), s') ∧
      Holds s' (addPairs rows (requests.flatMap fun r => answeredPairs (r.answer quoting))) := by
  induction requests generalizing s rows with
  | nil => exact ⟨s, rfl, hs⟩
  | cons request requests ih =>
    obtain ⟨t, hstep, ht⟩ := h.anonymize quoting request hs
    obtain ⟨s', hrun, hs'⟩ := ih ht
    refine ⟨s', ?_, ?_⟩
    · rw [List.map_cons, Store.run, Store.step, hstep]
      simp only [hrun, List.map_cons]
    · rw [List.flatMap_cons, addPairs_append]
      exact hs'

end

/-! ## The listing -/

/-- A name among the columns of a request that was answered. -/
def Answered (answers : List Answer) (name : String) : Prop :=
  ∃ response, Answer.response (.ok response) ∈ answers ∧
    name ∈ response.columns.map Pair.name

theorem answered_iff {quoting : Quoting} {requests : List Request} {name : String} :
    Answered (requests.map fun r => .response (r.answer quoting)) name ↔
      ∃ r ∈ requests, name ∈ (answeredPairs (r.answer quoting)).map Pair.name := by
  unfold Answered
  constructor
  · rintro ⟨response, hr, hn⟩
    obtain ⟨r, hmem, heq⟩ := List.mem_map.mp hr
    have ha : r.answer quoting = .ok response := Answer.response.inj heq
    refine ⟨r, hmem, ?_⟩
    rw [ha]
    exact hn
  · rintro ⟨r, hmem, hn⟩
    rcases ha : r.answer quoting with failure | response
    · rw [ha] at hn
      cases hn
    · rw [ha] at hn
      exact ⟨response, List.mem_map.mpr ⟨r, hmem, by rw [ha]⟩, hn⟩

/-- The rows after a run are the answered names, each with its digest. -/
theorem mem_rows_iff {quoting : Quoting} {requests : List Request} {p : Pair} :
    p ∈ addPairs [] (requests.flatMap fun r => answeredPairs (r.answer quoting)) ↔
      p.digest = columnDigest p.name ∧
        ∃ r ∈ requests, p.name ∈ (answeredPairs (r.answer quoting)).map Pair.name := by
  have hdigest : ∀ q ∈ addPairs [] (requests.flatMap fun r => answeredPairs (r.answer quoting)),
      q.digest = columnDigest q.name := by
    intro q hq
    rcases mem_of_mem_addPairs hq with h | h
    · cases h
    · obtain ⟨r, _, hr⟩ := List.mem_flatMap.mp h
      exact digest_of_mem_answer hr
  have hname : ∀ name,
      name ∈ (addPairs [] (requests.flatMap fun r => answeredPairs (r.answer quoting))).map
        Pair.name ↔ ∃ r ∈ requests, name ∈ (answeredPairs (r.answer quoting)).map Pair.name := by
    intro name
    rw [mem_names_addPairs, List.map_flatMap, List.mem_flatMap]
    simp
  rw [← hname]
  constructor
  · intro h
    exact ⟨hdigest p h, List.mem_map_of_mem h⟩
  · rintro ⟨hd, hn⟩
    obtain ⟨⟨name', digest'⟩, hq, hqn⟩ := List.mem_map.mp hn
    rcases p with ⟨name, digest⟩
    obtain rfl : name' = name := hqn
    obtain rfl : digest' = digest := (hdigest _ hq).trans hd.symm
    exact hq

/-- After every run of requests from this state the service lists the digests of the names among
the columns of the requests that succeeded, each name once and in the order of their bytes. Other
orders and repetitions of the requests make no difference. -/
def ListsDigests {σ : Type} (store : Store σ) (start : σ) : Prop :=
  ∀ (quoting : Quoting) (requests : List Request), ∃ pairs,
    (store.mappings (store.run quoting (requests.map .anonymize) start).2).1 = .ok pairs ∧
    (∀ p, p ∈ pairs ↔ p.digest = columnDigest p.name ∧
      Answered (store.run quoting (requests.map .anonymize) start).1 p.name) ∧
    pairs.Pairwise Pair.Before ∧
    ∀ requests' : List Request, (∀ r, r ∈ requests' ↔ r ∈ requests) →
      (store.mappings (store.run quoting (requests'.map .anonymize) start).2).1 = .ok pairs

section

variable {σ : Type} {store : Store σ} {Holds : σ → List Pair → Prop} {start : σ}

theorem Store.KeepsFirst.mappings_run (h : store.KeepsFirst Holds) (hs : Holds start [])
    (quoting : Quoting) (requests : List Request) : ∃ pairs,
    (store.mappings (store.run quoting (requests.map .anonymize) start).2).1 = .ok pairs ∧
    (∀ p, p ∈ pairs ↔ p.digest = columnDigest p.name ∧
      ∃ r ∈ requests, p.name ∈ (answeredPairs (r.answer quoting)).map Pair.name) ∧
    pairs.Pairwise Pair.Before := by
  obtain ⟨s, hrun, hrows⟩ := h.run quoting requests hs
  obtain ⟨found, hlist, hperm⟩ := h.list s _ hrows
  refine ⟨sortPairs found, ?_, ?_, ?_⟩
  · rw [hrun]
    unfold Store.mappings
    rw [hlist]
  · intro p
    rw [(sortPairs_perm found).mem_iff, hperm.mem_iff, mem_rows_iff]
  · apply sortPairs_before
    rw [(hperm.map Pair.name).nodup_iff]
    exact nodup_addPairs _ List.nodup_nil

theorem Store.KeepsFirst.listsDigests (h : store.KeepsFirst Holds) (hs : Holds start []) :
    ListsDigests store start := by
  intro quoting requests
  obtain ⟨pairs, hpairs, hmem, hsorted⟩ := h.mappings_run hs quoting requests
  obtain ⟨s, hrun, _⟩ := h.run quoting requests hs
  refine ⟨pairs, hpairs, ?_, hsorted, ?_⟩
  · intro p
    rw [hmem, hrun, answered_iff]
  · intro requests' hsame
    obtain ⟨pairs', hpairs', hmem', hsorted'⟩ := h.mappings_run hs quoting requests'
    have heq : pairs' = pairs := by
      refine eq_of_before hsorted' hsorted fun p => ?_
      rw [hmem, hmem']
      simp only [hsame]
    rw [hpairs', heq]

end

/-- Both stores, from empty ones. A file that is missing is empty once it is opened. -/
theorem services_list_the_digests_of_answered_names :
    ListsDigests Memory.store Memory.empty ∧
      ListsDigests DatabaseFile.store DatabaseFile.missing.openTable.2 :=
  ⟨Memory.keepsFirst.listsDigests ⟨.nil, .refl _⟩, DatabaseFile.keepsFirst.listsDigests rfl⟩

end ColumnMask
