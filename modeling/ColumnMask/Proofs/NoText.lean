-- An empty text stands for no statement. The text of a batch is empty only if the batch is,
-- since no statement has an empty text. So a request that is answered with an empty text asked
-- for nothing, and the line that says so hides no result.
import ColumnMask.Proofs.Causes
import ColumnMask.Proofs.OneRun
import ColumnMask.Proofs.UnitOfWork

namespace ColumnMask

open Sql

/-! ## Texts that are joined -/

-- Of the reader nothing is used but that it finds no statement in the empty text.
theorem joined_eq_empty_iff {ε α : Type} {read : String → Except ε (List α)}
    (hread : read "" = .ok []) {texts : List String}
    (h : ∀ text ∈ texts, ∃ s, read text = .ok [s]) :
    separator.intercalate texts = "" ↔ texts = [] := by
  match texts with
  | [] => simp
  | [text] =>
    obtain ⟨s, hs⟩ := h text (List.mem_singleton_self text)
    rw [String.intercalate_singleton]
    constructor
    · rintro rfl
      rw [hread] at hs
      cases hs
    · intro hnil
      cases hnil
  | text :: next :: texts => simp [separator]

theorem parseBatch_empty : parseBatch "" = .ok [] := rfl

/-- The text of a batch is empty exactly if the batch is. -/
theorem serialize_eq_empty_iff {quoting : Quoting} {batch : List Statement} {text : String}
    (h : serialize quoting batch = .ok text) : text = "" ↔ batch = [] := by
  obtain ⟨hone, rfl⟩ := serialize_ok.mp h
  rw [joined_eq_empty_iff parseBatch_empty (List.forall_mem_map.mpr hone), List.map_eq_nil_iff]

/-! ## Requests that ask for nothing -/

/-- The request has no text, or its text has no statement. -/
def Request.AsksNothing (request : Request) : Prop :=
  request.sql = none ∨ request.sql = some "" ∨ ∃ sql, request.sql = some sql ∧ parse sql = .ok []

section

variable {quoting : Quoting} {sql : String}

theorem anonymize_nothing (h : parse sql = .ok []) :
    ColumnMask.anonymize quoting sql = .ok ⟨"", [], []⟩ := by
  rw [anonymize_of_parse h]
  rfl

/-- What comes of a text is the text of a batch, one statement for each that was read. -/
theorem exists_serialize_of_anonymize {result : Anonymized}
    (h : ColumnMask.anonymize quoting sql = .ok result) :
    ∃ batch out, parse sql = .ok batch ∧ out.length = batch.length ∧
      serialize quoting out = .ok result.sql := by
  obtain ⟨r, hr⟩ := exists_outcome quoting sql
  rw [hr.anonymize_eq] at h
  subst h
  cases hr with
  | @masked batch out h hs hall =>
    have hrewrite := h.2
    rw [rewriteBatch_ownMapping hs] at hrewrite
    cases hrewrite
    exact ⟨batch, _, h.1, List.length_map _, serialize_ok.mpr ⟨hall, rfl⟩⟩

theorem anonymized_eq_empty_iff {result : Anonymized}
    (h : ColumnMask.anonymize quoting sql = .ok result) : result.sql = "" ↔ parse sql = .ok [] := by
  obtain ⟨batch, out, hparse, hlength, hserialize⟩ := exists_serialize_of_anonymize h
  rw [serialize_eq_empty_iff hserialize, hparse, Except.ok.injEq, ← List.length_eq_zero_iff,
    ← List.length_eq_zero_iff, hlength]

end

namespace Request

variable {quoting : Quoting} {request : Request} {response : Response}

theorem asksNothing_of_text {sql : String} (hsql : request.sql = some sql) :
    request.AsksNothing ↔ parse sql = .ok [] := by
  unfold AsksNothing
  rw [hsql]
  constructor
  · rintro (hnone | hempty | ⟨sql', hsql', hparse⟩)
    · cases hnone
    · obtain rfl := Option.some.inj hempty
      rfl
    · obtain rfl := Option.some.inj hsql'
      exact hparse
  · exact fun hparse => .inr (.inr ⟨sql, rfl, hparse⟩)

/-- What is answered was made of the text of the request, unless there is none. -/
theorem answered_cases (h : request.answer quoting = .ok response) :
    ((request.sql = none ∨ request.sql = some "") ∧ response = .skipped) ∨
      ∃ sql result, request.sql = some sql ∧ ColumnMask.anonymize quoting sql = .ok result ∧
        response = .anonymized result := by
  rcases request.empty_or_text with hempty | ⟨sql, hsql, hne⟩
  · rw [answer_of_empty hempty] at h
    cases h
    exact .inl ⟨hempty, rfl⟩
  · rw [answer_of_text hsql hne] at h
    rcases ha : ColumnMask.anonymize quoting sql with failure | result
    · rw [ha] at h
      cases h
    · rw [ha] at h
      cases h
      exact .inr ⟨sql, result, hsql, ha, rfl⟩

/-- An answer has an empty text exactly if nothing was asked for. -/
theorem answer_eq_empty_iff (h : request.answer quoting = .ok response) :
    response.sql = "" ↔ request.AsksNothing := by
  rcases answered_cases h with ⟨hempty, rfl⟩ | ⟨sql, result, hsql, ha, rfl⟩
  · exact iff_of_true rfl (hempty.imp_right .inl)
  · rw [asksNothing_of_text hsql]
    exact anonymized_eq_empty_iff ha

theorem AsksNothing.answer (h : request.AsksNothing) (quoting : Quoting) :
    ∃ response, request.answer quoting = .ok response ∧ response.sql = "" ∧
      response.columns = [] := by
  rcases request.empty_or_text with hempty | ⟨sql, hsql, hne⟩
  · exact ⟨.skipped, answer_of_empty hempty, rfl, rfl⟩
  · rw [asksNothing_of_text hsql] at h
    rw [answer_of_text hsql hne, anonymize_nothing h]
    exact ⟨.anonymized ⟨"", [], []⟩, rfl, rfl, rfl⟩

end Request

section

variable {σ : Type} {quoting : Quoting} {request : Request}

/-- Where a store fails nothing is answered, so what is answered does not depend on the store. -/
theorem Store.answer_of_anonymize {store : Store σ} {s : σ} {response : Response}
    (h : (store.anonymize quoting request s).1 = .ok response) :
    request.answer quoting = .ok response := by
  by_cases hp : answeredPairs (request.answer quoting) = []
  · rwa [store.anonymize_quiet s hp] at h
  · rw [store.anonymize_writes s hp] at h
    rcases hu : (store.upsert (answeredPairs (request.answer quoting)) s).1 with e | ⟨⟩
    · rw [hu] at h
      cases h
    · rwa [hu] at h

theorem Store.anonymize_nothing (store : Store σ) (s : σ) (calls : List StoreCall)
    (h : request.AsksNothing) : ∃ response,
      store.recorded.anonymize quoting request (s, calls) = (.ok response, s, calls) ∧
        response.sql = "" ∧ response.columns = [] := by
  obtain ⟨response, hanswer, hsql, hcolumns⟩ := h.answer quoting
  have hp : answeredPairs (request.answer quoting) = [] := by
    rw [hanswer]
    exact hcolumns
  refine ⟨response, ?_, hsql, hcolumns⟩
  rw [store.recorded.anonymize_quiet _ hp, hanswer]

end

/-- A text in an answer is empty, or it is the text of a batch. -/
theorem exists_serialize_of_answer {quoting : Quoting} {request : Request} {response : Response}
    (h : request.answer quoting = .ok response) (hne : response.sql ≠ "") :
    ∃ out, serialize quoting out = .ok response.sql := by
  rcases Request.answered_cases h with ⟨_, rfl⟩ | ⟨_, result, _, ha, rfl⟩
  · exact absurd rfl hne
  · obtain ⟨_, out, _, _, hserialize⟩ := exists_serialize_of_anonymize ha
    exact ⟨out, hserialize⟩

/-! ## The line for an empty text -/

namespace Program

variable {quoting : Quoting}

theorem not_readsAsOne_line : ¬ ReadsAsOne "(empty)" := by decide +kernel

/-- No batch has the text that stands for an empty one. -/
theorem serialize_ne_line {batch : List Statement} :
    serialize quoting batch ≠ .ok "(empty)" := by
  intro h
  obtain ⟨hone, htext⟩ := serialize_ok.mp h
  match batch with
  | [] => simp at htext
  | [s] =>
    rw [List.map_singleton, String.intercalate_singleton] at htext
    exact not_readsAsOne_line (htext ▸ hone s (List.mem_singleton_self s))
  | s :: t :: more =>
    -- A text of several statements has what stands between them.
    have hmem : ';' ∈ "(empty)".toList := by
      rw [htext]
      simp [separator]
    revert hmem
    decide

/-- If a text and what follows it are printed as one line, the text is that line, unless there is a
line end in what follows. -/
theorem eq_of_one_line {text rest line : String} (hline : '\n' ∉ line.toList)
    (hrest : rest = "" ∨ '\n' ∈ rest.toList) (h : text ++ "\n" ++ rest = line ++ "\n") :
    text = line := by
  rcases hrest with rfl | hmem
  · rw [String.append_empty] at h
    exact (String.append_left_inj _).mp h
  · have hcount := congrArg (fun s : String => s.toList.count '\n') h
    have hpos := List.count_pos_iff.mpr hmem
    have hzero := List.count_eq_zero.mpr hline
    simp at hcount
    omega

/-- The line for an empty text is printed for an answer exactly if its text is empty. -/
theorem showResponse_eq_line_iff {sql : String} {response : Response}
    (h : Request.answer quoting ⟨some sql⟩ = .ok response) :
    showResponse .table response = "(empty)\n" ↔ parse sql = .ok [] := by
  have hasked : response.sql = "" ↔ parse sql = .ok [] :=
    (Request.answer_eq_empty_iff h).trans (Request.asksNothing_of_text rfl)
  rw [← hasked]
  constructor
  · intro hshow
    by_contra hne
    obtain ⟨batch, hserialize⟩ := exists_serialize_of_answer h hne
    unfold showResponse at hshow
    rw [if_neg (by simpa using hne)] at hshow
    have hline : response.sql = "(empty)" := by
      refine eq_of_one_line (by decide) ?_ hshow
      split
      · exact .inl rfl
      · exact .inr (by simp)
    exact serialize_ne_line (hline ▸ hserialize)
  · intro hsql
    unfold showResponse
    rw [hsql]
    rfl

/-- A run prints the line for an empty text exactly if it succeeds and its text has no statement. -/
theorem Ask.prints_line_iff {path sql : String} {dryRun : Bool}
    (opened : Except StoreError (List Pair)) :
    ((Ask.anonymize .table quoting dryRun sql).outcome path opened).stdout = "(empty)\n" ↔
      ((Ask.anonymize .table quoting dryRun sql).outcome path opened).exitCode = 0 ∧
        parse sql = .ok [] := by
  have hanswer : (showAnswer .table (Request.answer quoting ⟨some sql⟩)).stdout = "(empty)\n" ↔
      (showAnswer .table (Request.answer quoting ⟨some sql⟩)).exitCode = 0 ∧
        parse sql = .ok [] := by
    rcases ha : Request.answer quoting ⟨some sql⟩ with failure | response
    · have hexit := exitCode_failure failure ""
      exact iff_of_false (by simp [showAnswer, RunError.outcome]) fun h => hexit h.1
    · rw [← showResponse_eq_line_iff ha]
      exact (and_iff_right rfl).symm
  unfold Ask.outcome
  rcases opened with e | rows
  · cases dryRun with
    | true => exact hanswer
    | false =>
      have hexit : (openError path e).outcome.exitCode ≠ 0 := Nat.one_ne_zero
      exact iff_of_false (by simp [isDry, RunError.outcome]) fun h => hexit h.1
  · exact hanswer

end Program

/-! ## An empty text stands for nothing -/

/-- What an empty text tells: there is no statement in it, nothing was asked for, and nothing is
hidden. -/
structure EmptyMeansNothing (quoting : Quoting) : Prop where
  /-- The text of a batch is empty exactly if the batch is. -/
  batch : ∀ batch text, serialize quoting batch = .ok text → (text = "" ↔ batch = [])
  /-- An answer has an empty text exactly if nothing was asked for. -/
  answer : ∀ {σ : Type} (store : Store σ) request s response,
    (store.anonymize quoting request s).1 = .ok response →
      (response.sql = "" ↔ request.AsksNothing)
  /-- A request for nothing is always answered, without columns and without a call of the store. -/
  quiet : ∀ {σ : Type} (store : Store σ) (request : Request) s calls, request.AsksNothing →
    ∃ response, store.recorded.anonymize quoting request (s, calls) = (.ok response, s, calls) ∧
      response.sql = "" ∧ response.columns = []
  /-- A run prints the line for an empty text exactly if it succeeds and its text has no
  statement. -/
  line : ∀ (start : Program.Start) path dryRun sql d,
    start.AsksAt path (.anonymize .table quoting dryRun sql) →
      ((start.run d).1.stdout = "(empty)\n" ↔ (start.run d).1.exitCode = 0 ∧ parse sql = .ok [])

theorem empty_text_means_no_statements (quoting : Quoting) : EmptyMeansNothing quoting where
  batch _ _ := serialize_eq_empty_iff
  answer _ _ _ _ h := Request.answer_eq_empty_iff (Store.answer_of_anonymize h)
  quiet store _ s calls h := store.anonymize_nothing s calls h
  line _ _ _ _ d h := by
    rw [h.run_outcome d]
    exact Program.Ask.prints_line_iff _

end ColumnMask
