-- A request is one unit of work, in every session and on every store. It calls the store
-- once, with the columns of its result, or not at all, and its answer depends on nothing
-- but the request unless that one call fails.
import ColumnMask.Proofs.Listing

namespace ColumnMask

open Sql

/-! ## Failures of the text -/

/-- Text fails for reasons of its own. The store is none of them. -/
theorem anonymize_ne_store (quoting : Quoting) (text : String) (e : StoreError) :
    ColumnMask.anonymize quoting text ≠ .error (.store e) := by
  unfold ColumnMask.anonymize parseBatch
  rcases parse text with cause | batch
  · intro h
    cases h
  · show anonymizeBatch columnDigest quoting batch ≠ .error (.store e)
    rcases supported_or_first batch with hs | ⟨before, s, after, rfl, hb, hs⟩
    · rcases passes_or_first columnDigest quoting batch with hp | ⟨before, s, after, m, rfl, hb, hu⟩
      · rw [anonymizeBatch_ok hs hp]
        intro h
        cases h
      · rw [anonymizeBatch_error hs hb hu]
        intro h
        cases h
    · rw [anonymizeBatch, checkSupported_append hb hs]
      intro h
      cases h

theorem Request.answer_ne_store (quoting : Quoting) (request : Request) (e : StoreError) :
    request.answer quoting ≠ .error (.store e) := by
  unfold Request.answer
  split
  · intro h
    cases h
  · rcases h : ColumnMask.anonymize quoting request.text with failure | result
    · rintro hf
      cases hf
      exact anonymize_ne_store quoting request.text e h
    · intro hf
      cases hf

/-! ## What reaches the store -/

/-- The calls of a request: one with the columns of its answer, if there are any. -/
def Request.calls (quoting : Quoting) (request : Request) : List StoreCall :=
  if (answeredPairs (request.answer quoting)).isEmpty then []
  else [.upsert (answeredPairs (request.answer quoting))]

/-- The calls of a step. They are the same on every store. -/
def Step.calls (quoting : Quoting) : Step → List StoreCall
  | .anonymize request => request.calls quoting
  | .mappings => [.list]
  | .list => [.list]
  | .upsert pairs => [.upsert pairs]

section

variable {σ : Type} {quoting : Quoting} {request : Request}

theorem Store.recorded_anonymize (store : Store σ) (s : σ) (calls : List StoreCall) :
    store.recorded.anonymize quoting request (s, calls) =
      ((store.anonymize quoting request s).1, (store.anonymize quoting request s).2,
        calls ++ request.calls quoting) := by
  unfold Request.calls
  by_cases h : answeredPairs (request.answer quoting) = []
  · rw [store.recorded.anonymize_quiet _ h, store.anonymize_quiet s h, h, List.isEmpty_nil,
      if_pos rfl, List.append_nil]
  · have hne : ¬ (answeredPairs (request.answer quoting)).isEmpty :=
      fun hnil => h (List.isEmpty_iff.mp hnil)
    rw [store.recorded.anonymize_writes _ h, store.anonymize_writes s h, if_neg hne]
    rfl

/-- The record of a step has its calls, and the step is taken as if there were no record. -/
theorem Store.recorded_step (store : Store σ) (quoting : Quoting) (step : Step) (s : σ)
    (calls : List StoreCall) : store.recorded.step quoting step (s, calls) =
      ((store.step quoting step s).1, (store.step quoting step s).2,
        calls ++ step.calls quoting) := by
  cases step with
  | anonymize request =>
    rw [Store.step_anonymize, store.recorded_anonymize]
    rfl
  | mappings =>
    have hlist : store.recorded.list (s, calls) =
        ((store.list s).1, (store.list s).2, calls ++ [.list]) := rfl
    rw [Store.step_mappings, Store.step_mappings]
    unfold Store.mappings
    rw [hlist]
    rcases store.list s with ⟨_ | _, s'⟩ <;> rfl
  | list => rfl
  | upsert pairs => rfl

theorem Store.recorded_run (store : Store σ) (quoting : Quoting) (steps : List Step) (s : σ)
    (calls : List StoreCall) : store.recorded.run quoting steps (s, calls) =
      ((store.run quoting steps s).1, (store.run quoting steps s).2,
        calls ++ steps.flatMap (Step.calls quoting)) := by
  induction steps generalizing s calls with
  | nil =>
    rw [List.flatMap_nil, List.append_nil]
    rfl
  | cons step steps ih =>
    rw [Store.run_cons, store.recorded_step, ih, Store.run_cons, List.flatMap_cons,
      List.append_assoc]

end

/-! ## What a request keeps -/

namespace Request

/-- The request has text, the text has a result, and these are its columns, of which there are
some. -/
def Keeps (quoting : Quoting) (request : Request) (columns : List Pair) : Prop :=
  ∃ sql result, request.sql = some sql ∧ sql ≠ "" ∧ ColumnMask.anonymize quoting sql = .ok result ∧
    result.columns = columns ∧ columns ≠ []

variable {quoting : Quoting} {request : Request} {columns : List Pair}

theorem isEmpty_iff : request.isEmpty ↔ request.sql = none ∨ request.sql = some "" := by
  rcases request with ⟨_ | sql⟩
  · simp [isEmpty]
  · simp [isEmpty]

theorem answer_of_empty (h : request.sql = none ∨ request.sql = some "") :
    request.answer quoting = .ok .skipped := by
  unfold answer
  rw [if_pos (isEmpty_iff.mpr h)]

theorem answer_of_text {sql : String} (h : request.sql = some sql) (hne : sql ≠ "") :
    request.answer quoting = (ColumnMask.anonymize quoting sql).map .anonymized := by
  have he : ¬ request.isEmpty := by
    rw [isEmpty_iff, h]
    rintro (hn | hs)
    · cases hn
    · exact hne (Option.some.inj hs)
  unfold answer
  rw [if_neg he, text, h]
  rfl

theorem empty_or_text (request : Request) :
    (request.sql = none ∨ request.sql = some "") ∨ ∃ sql, request.sql = some sql ∧ sql ≠ "" := by
  rcases h : request.sql with _ | sql
  · exact .inl (.inl rfl)
  · by_cases hne : sql = ""
    · exact .inl (.inr (congrArg some hne))
    · exact .inr ⟨sql, rfl, hne⟩

theorem keeps_iff : request.Keeps quoting columns ↔
    answeredPairs (request.answer quoting) = columns ∧ columns ≠ [] := by
  constructor
  · rintro ⟨sql, result, hsql, hne, ha, rfl, hc⟩
    rw [answer_of_text hsql hne, ha]
    exact ⟨rfl, hc⟩
  · rintro ⟨rfl, hc⟩
    rcases request.empty_or_text with he | ⟨sql, hsql, hne⟩
    · rw [answer_of_empty he] at hc
      exact absurd rfl hc
    · rw [answer_of_text hsql hne] at *
      rcases ha : ColumnMask.anonymize quoting sql with failure | result
      · rw [ha] at hc
        exact absurd rfl hc
      · rw [ha] at hc
        exact ⟨sql, result, hsql, hne, ha, rfl, hc⟩

theorem Keeps.calls_eq (h : request.Keeps quoting columns) :
    request.calls quoting = [.upsert columns] := by
  obtain ⟨hp, hne⟩ := keeps_iff.mp h
  unfold calls
  rw [hp, if_neg fun hnil => hne (List.isEmpty_iff.mp hnil)]

theorem Keeps.eq {columns' : List Pair} (h : request.Keeps quoting columns)
    (h' : request.Keeps quoting columns') : columns' = columns :=
  (keeps_iff.mp h').1.symm.trans (keeps_iff.mp h).1

theorem calls_of_answer {response : Response} (h : request.answer quoting = .ok response) :
    request.calls quoting =
      if response.columns.isEmpty then [] else [.upsert response.columns] := by
  unfold calls
  rw [h]
  rfl

end Request

/-! ## Requests in a session -/

/-- How a request is served by a store in state `s`: what it answers, the calls that it makes, and
the state that it leaves. -/
structure Serves {σ : Type} (store : Store σ) (quoting : Quoting) (request : Request) (s : σ)
    (answer : Except Failure Response) (calls : List StoreCall) (s' : σ) : Prop where
  /-- A result with columns is kept by one call. -/
  one_call : ∀ columns, request.Keeps quoting columns →
    calls = [.upsert columns] ∧ s' = (store.upsert columns s).2
  no_call : (∀ columns, ¬ request.Keeps quoting columns) → calls = [] ∧ s' = s
  /-- What is kept is what is answered. -/
  same_columns : ∀ response, answer = .ok response →
    calls = if response.columns.isEmpty then [] else [.upsert response.columns]
  skipped : request.sql = none ∨ request.sql = some "" → answer = .ok .skipped
  /-- Other than by a failure of the store, the answer is what the text comes to. -/
  answered : ∀ sql, request.sql = some sql → sql ≠ "" →
    answer = (ColumnMask.anonymize quoting sql).map .anonymized ∨ ∃ e, answer = .error (.store e)
  /-- A failure of the store is answered exactly if the one call failed with it. -/
  store_failure : ∀ e, answer = .error (.store e) ↔
    ∃ columns, request.Keeps quoting columns ∧ (store.upsert columns s).1 = .error e

section

variable {σ : Type} {quoting : Quoting} {request : Request}

theorem Store.serves_nothing (store : Store σ) (s : σ)
    (h : ∀ columns, ¬ request.Keeps quoting columns) :
    Serves store quoting request s (request.answer quoting) [] s where
  one_call columns hk := absurd hk (h columns)
  no_call _ := ⟨rfl, rfl⟩
  same_columns response hr := by
    have hnil : response.columns = [] := by
      by_contra hne
      exact h response.columns (Request.keeps_iff.mpr ⟨by rw [hr]; rfl, hne⟩)
    rw [hnil, List.isEmpty_nil, if_pos rfl]
  skipped := Request.answer_of_empty
  answered _ hsql hne := .inl (Request.answer_of_text hsql hne)
  store_failure e := by
    constructor
    · exact fun ha => absurd ha (request.answer_ne_store quoting e)
    · rintro ⟨columns, hk, _⟩
      exact absurd hk (h columns)

/-- The answer of the text stands if the store takes the columns. -/
theorem Store.serves_columns (store : Store σ) (s : σ) {columns : List Pair}
    (h : request.Keeps quoting columns) :
    Serves store quoting request s
      (match (store.upsert columns s).1 with
        | .ok () => request.answer quoting
        | .error e => .error (.store e))
      [.upsert columns] (store.upsert columns s).2 where
  one_call columns' hk := by
    rw [h.eq hk]
    exact ⟨rfl, rfl⟩
  no_call hno := absurd h (hno columns)
  same_columns response hr := by
    rcases hu : (store.upsert columns s).1 with e | _
    · rw [hu] at hr
      cases hr
    · rw [hu] at hr
      rw [← h.calls_eq, Request.calls_of_answer hr]
  skipped he := by
    obtain ⟨sql, _, hsql, hne, _⟩ := h
    rw [hsql] at he
    rcases he with hn | hs
    · cases hn
    · exact absurd (Option.some.inj hs) hne
  answered sql hsql hne := by
    rcases (store.upsert columns s).1 with e | _
    · exact .inr ⟨e, rfl⟩
    · exact .inl (Request.answer_of_text hsql hne)
  store_failure e := by
    constructor
    · intro ha
      rcases hu : (store.upsert columns s).1 with e' | _
      · rw [hu] at ha
        cases ha
        exact ⟨columns, h, hu⟩
      · rw [hu] at ha
        exact absurd ha (request.answer_ne_store quoting e)
    · rintro ⟨columns', hk, hf⟩
      rw [h.eq hk] at hf
      rw [hf]

theorem Store.serves (store : Store σ) (quoting : Quoting) (request : Request) (s : σ) :
    Serves store quoting request s (store.anonymize quoting request s).1 (request.calls quoting)
      (store.anonymize quoting request s).2 := by
  by_cases hp : answeredPairs (request.answer quoting) = []
  · have hno : ∀ columns, ¬ request.Keeps quoting columns := by
      intro columns hk
      obtain ⟨rfl, hne⟩ := Request.keeps_iff.mp hk
      exact hne hp
    have hcalls : request.calls quoting = [] := by
      unfold Request.calls
      rw [hp, List.isEmpty_nil, if_pos rfl]
    rw [store.anonymize_quiet s hp, hcalls]
    exact store.serves_nothing s hno
  · have hk : request.Keeps quoting (answeredPairs (request.answer quoting)) :=
      Request.keeps_iff.mpr ⟨rfl, hp⟩
    rw [store.anonymize_writes s hp, hk.calls_eq]
    exact store.serves_columns s hk

end

/-- In every session on every store each request is served so, in the state that the steps before
it left, and the record of the session has the calls of the request and no others for it. -/
theorem every_request_is_one_unit_of_work {σ : Type} (store : Store σ) (quoting : Quoting)
    (before after : List Step) (request : Request) (start : σ) :
    ∃ answer calls s',
      store.run quoting (before ++ .anonymize request :: after) start =
        ((store.run quoting before start).1 ++ .response answer :: (store.run quoting after s').1,
          (store.run quoting after s').2) ∧
      (store.recorded.run quoting (before ++ [.anonymize request]) (start, [])).2 =
        (s', (store.recorded.run quoting before (start, [])).2.2 ++ calls) ∧
      Serves store quoting request (store.run quoting before start).2 answer calls s' := by
  refine ⟨_, _, _, ?_, ?_, store.serves quoting request (store.run quoting before start).2⟩
  · rw [store.run_append, Store.run_cons, Store.step_anonymize]
  · rw [store.recorded.run_append, Store.run_cons, Store.run_nil, store.recorded_run,
      store.recorded_step, Store.step_anonymize, List.nil_append]
    rfl

end ColumnMask
