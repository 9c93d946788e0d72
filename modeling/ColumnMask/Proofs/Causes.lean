-- Why SQL text has no masked text. Each cause is tested after the ones before it: the text
-- is no SQL, a statement is refused, a masked statement does not read back. A column
-- without a digest is never the cause, since the digests are made for the columns of the
-- text itself; nor is a store, since none is asked.
import ColumnMask.Proofs.Composition

namespace ColumnMask

open Sql

variable {digest : String → String} {quoting : Quoting} {batch : List Statement}

/-! ## Statements that do not read back -/

theorem complaint?_eq_none {text : String} : complaint? text = none ↔ ReadsAsOne text := by
  have hcheck : checkReadable 0 text = .ok () ↔ ReadsAsOne text := checkReadable_ok
  rw [← hcheck, checkReadable_eq]
  rcases complaint? text with _ | message
  · simp
  · simp

/-- The first statement whose text is not one statement stands at the index, and the message says
what the text is instead. -/
def FirstUnreadable (quoting : Quoting) (batch : List Statement) (index : Nat)
    (message : String) : Prop :=
  ∃ before s after, batch = before ++ s :: after ∧
    (∀ t ∈ before, ReadsAsOne (written quoting t)) ∧
    complaint? (written quoting s) = some message ∧ before.length = index

theorem readable_or_first (quoting : Quoting) (batch : List Statement) :
    (∀ s ∈ batch, ReadsAsOne (written quoting s)) ∨
      ∃ index message, FirstUnreadable quoting batch index message := by
  induction batch with
  | nil => exact .inl fun s hs => by cases hs
  | cons s batch ih =>
    rcases hs : complaint? (written quoting s) with _ | message
    · have hone : ReadsAsOne (written quoting s) := complaint?_eq_none.mp hs
      rcases ih with h | ⟨index, message, before, t, after, rfl, hb, ht, _⟩
      · exact .inl (List.forall_mem_cons.mpr ⟨hone, h⟩)
      · exact .inr ⟨_, message, s :: before, t, after, rfl,
          List.forall_mem_cons.mpr ⟨hone, hb⟩, ht, rfl⟩
    · exact .inr ⟨0, message, [], s, batch, rfl, (fun t ht => by cases ht), hs, rfl⟩

theorem serialize_unreadable {index : Nat} {message : String}
    (h : FirstUnreadable quoting batch index message) :
    serialize quoting batch = .error (.unreadable index message) := by
  obtain ⟨before, s, after, rfl, hb, hs, rfl⟩ := h
  have htexts : ∀ text ∈ before.map (written quoting), complaint? text = none :=
    List.forall_mem_map.mpr fun t ht => complaint?_eq_none.mpr (hb t ht)
  rw [serialize, statementTexts_eq, List.map_append, List.map_cons,
    checkedTexts_error 0 htexts hs, List.length_map, Nat.zero_add]
  rfl

/-! ## Batches -/

/-- A supported batch comes to the text of its rewritten statements, or to none for the reason
that they have none. -/
theorem anonymizeBatch_rewritten {out : List Statement}
    (h : rewriteBatch (ownMapping digest batch) batch = .ok out) :
    anonymizeBatch digest quoting batch = do
      let sql ← serialize quoting out
      return ⟨sql, (ownMapping digest batch).pairs, batch⟩ := by
  have hs : ∀ s ∈ batch, s.isSupported := ((rewriteBatch_ok_iff _ _).mp ⟨out, h⟩).1
  have hrewrite : rewriteBatch (Mapping.build digest (extractColumns batch)) batch = .ok out := h
  unfold anonymizeBatch
  rw [checkSupported_ok hs]
  simp only [hrewrite]
  rfl

theorem anonymizeBatch_unsupported {index : Nat} {keyword : String}
    (h : FirstUnsupported batch index keyword) :
    anonymizeBatch digest quoting batch = .error (.unsupported index keyword) := by
  obtain ⟨before, s, after, rfl, hb, hs, rfl, rfl⟩ := h
  unfold anonymizeBatch
  rw [checkSupported_append hb hs]
  rfl

/-! ## Texts -/

theorem anonymize_of_parse {text : String} (h : parse text = .ok batch) :
    anonymize quoting text = anonymizeBatch columnDigest quoting batch := by
  rw [anonymize, parseBatch, h]
  rfl

theorem anonymize_of_parse_error {text : String} {e : SyntaxError} (h : parse text = .error e) :
    anonymize quoting text = .error (.sqlSyntax e.show) := by
  rw [anonymize, parseBatch, h]
  rfl

/-- The text reads as the first batch, and the second one is that batch with its columns replaced by
their digests. -/
def ReadsAndRewrites (text : String) (batch out : List Statement) : Prop :=
  parse text = .ok batch ∧ rewriteBatch (ownMapping columnDigest batch) batch = .ok out

/-- What comes of a text, and when. -/
inductive Outcome (quoting : Quoting) (text : String) : Except Failure Anonymized → Prop where
  /-- The text is no SQL. -/
  | unparsed {e : SyntaxError} (h : parse text = .error e) :
    Outcome quoting text (.error (.sqlSyntax e.show))
  /-- It is SQL, and a statement is refused: the first that is none of the four kinds. -/
  | refused {batch : List Statement} {index : Nat} {keyword : String} (h : parse text = .ok batch)
    (hfirst : FirstUnsupported batch index keyword) :
    Outcome quoting text (.error (.unsupported index keyword))
  /-- No statement is refused, and a rewritten one does not read back: the first such. -/
  | unreadable {batch out : List Statement} {index : Nat} {message : String}
    (h : ReadsAndRewrites text batch out) (hs : ∀ s ∈ batch, s.isSupported)
    (hfirst : FirstUnreadable quoting out index message) :
    Outcome quoting text (.error (.unreadable index message))
  /-- No statement is refused, and each rewritten one reads back. -/
  | masked {batch out : List Statement} (h : ReadsAndRewrites text batch out)
    (hs : ∀ s ∈ batch, s.isSupported) (hall : ∀ s ∈ out, ReadsAsOne (written quoting s)) :
    Outcome quoting text (.ok ⟨separator.intercalate (out.map (written quoting)),
      (ownMapping columnDigest batch).pairs, batch⟩)

theorem Outcome.anonymize_eq {text : String} {r : Except Failure Anonymized}
    (h : Outcome quoting text r) : anonymize quoting text = r := by
  cases h with
  | unparsed h => exact anonymize_of_parse_error h
  | refused h hfirst => rw [anonymize_of_parse h, anonymizeBatch_unsupported hfirst]
  | unreadable h _ hfirst =>
    rw [anonymize_of_parse h.1, anonymizeBatch_rewritten h.2, serialize_unreadable hfirst]
    rfl
  | masked h _ hall =>
    rw [anonymize_of_parse h.1, anonymizeBatch_rewritten h.2, serialize_ok.mpr ⟨hall, rfl⟩]
    rfl

/-- Every text has an outcome. -/
theorem exists_outcome (quoting : Quoting) (text : String) : ∃ r, Outcome quoting text r := by
  rcases hp : parse text with e | batch
  · exact ⟨_, .unparsed hp⟩
  rcases supported_or_first batch with hs | ⟨before, s, after, rfl, hb, hs⟩
  · have h : ReadsAndRewrites text batch (batch.map (renamed (ownMapping columnDigest batch))) :=
      ⟨hp, rewriteBatch_ownMapping hs⟩
    rcases readable_or_first quoting (batch.map (renamed (ownMapping columnDigest batch))) with
      hall | ⟨index, message, hfirst⟩
    · exact ⟨_, .masked h hs hall⟩
    · exact ⟨_, .unreadable h hs hfirst⟩
  · exact ⟨_, .refused hp ⟨before, s, after, rfl, hb, hs, rfl, rfl⟩⟩

/-- The outcome for a text is the one whose cause is there, tested in order: the text is no SQL, a
statement is refused, a rewritten statement does not read back. Else the text is masked. No other
failure comes of a text. -/
theorem every_outcome_has_its_cause (quoting : Quoting) (text : String) :
    (∀ r, anonymize quoting text = r ↔ Outcome quoting text r) ∧
    (∀ column, anonymize quoting text ≠ .error (.unmapped column)) ∧
    ∀ error, anonymize quoting text ≠ .error (.store error) := by
  have hall : ∀ r, anonymize quoting text = r ↔ Outcome quoting text r := by
    intro r
    constructor
    · rintro rfl
      obtain ⟨r, hr⟩ := exists_outcome quoting text
      rw [hr.anonymize_eq]
      exact hr
    · exact Outcome.anonymize_eq
  refine ⟨hall, ?_, ?_⟩
  · intro column h
    cases (hall _).mp h
  · intro error h
    cases (hall _).mp h

end ColumnMask
