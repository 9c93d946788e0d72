-- What the text of a batch reads back as. The text of each statement was read back alone,
-- but not the joined text. A statement may be written with a line comment at its end, and
-- then the comment takes all that is joined to it.
import ColumnMask.Serialize
import Mathlib.Data.List.TakeDrop
import Mathlib.Data.List.TakeWhile

namespace ColumnMask

open Sql

/-! ## What is checked -/

/-- The text is the text of one statement. -/
def ReadsAsOne (text : String) : Prop := ∃ s, parseBatch text = .ok [s]

theorem readsAsOne_iff {text : String} :
    (parseBatch text).toOption.any (fun found => found.length == 1) ↔ ReadsAsOne text := by
  unfold ReadsAsOne
  rcases parseBatch text with e | found
  · simp [Except.toOption]
  · simp [Except.toOption, List.length_eq_one_iff]

instance (text : String) : Decidable (ReadsAsOne text) := decidable_of_iff _ readsAsOne_iff

theorem checkReadable_ok {index : Nat} {text : String} :
    checkReadable index text = .ok () ↔ ReadsAsOne text := by
  unfold checkReadable ReadsAsOne
  rcases parseBatch text with e | found
  · simp
  · match found with
    | [] => simp
    | [s] => simp
    | s :: t :: more => simp

/-- The text of a statement, before it is checked. -/
def written (quoting : Quoting) (s : Statement) : String := (quoting.apply s).show

variable {quoting : Quoting}

theorem statementTexts_ok {batch : List Statement} (index : Nat)
    (h : ∀ s ∈ batch, ReadsAsOne (written quoting s)) :
    statementTexts quoting batch index = .ok (batch.map (written quoting)) := by
  induction batch generalizing index with
  | nil => rfl
  | cons s ss ih =>
    obtain ⟨hs, hss⟩ := List.forall_mem_cons.mp h
    have hc : checkReadable index (quoting.apply s).show = .ok () := checkReadable_ok.mpr hs
    rw [statementTexts, statementText, hc, ih (index + 1) hss]
    rfl

theorem readsAsOne_of_statementTexts {batch : List Statement} {index : Nat} {texts : List String}
    (h : statementTexts quoting batch index = .ok texts) :
    ∀ s ∈ batch, ReadsAsOne (written quoting s) := by
  induction batch generalizing index texts with
  | nil => simp
  | cons s ss ih =>
    rw [statementTexts, statementText] at h
    rcases hc : checkReadable index (quoting.apply s).show with e | ⟨⟩
    · rw [hc] at h
      cases h
    · rcases hs : statementTexts quoting ss (index + 1) with e | more
      · rw [hc, hs] at h
        cases h
      · exact List.forall_mem_cons.mpr ⟨checkReadable_ok.mp hc, ih hs⟩

/-- A batch has a text exactly if the text of each statement reads back as one statement. -/
theorem serialize_ok {batch : List Statement} {text : String} :
    serialize quoting batch = .ok text ↔
      (∀ s ∈ batch, ReadsAsOne (written quoting s)) ∧
        text = separator.intercalate (batch.map (written quoting)) := by
  constructor
  · intro h
    rcases ht : statementTexts quoting batch 0 with e | texts
    · rw [serialize, ht] at h
      cases h
    · have hs := readsAsOne_of_statementTexts ht
      rw [serialize, statementTexts_ok 0 hs] at h
      cases h
      exact ⟨hs, rfl⟩
  · rintro ⟨hs, rfl⟩
    rw [serialize, statementTexts_ok 0 hs]
    rfl

/-! ## A line comment takes the rest of the line -/

theorem scanToken_lineComment (afterWord : Bool) {us : List Char} (h : '\n' ∉ us) :
    scanToken afterWord ("--".toList ++ us) = .ok (.blank ("--" ++ String.ofList us), []) := by
  have hspan : us.span (· ≠ '\n') = (us, []) := by
    have hall : ∀ c ∈ us, decide (c ≠ '\n') := by
      intro c hc
      rw [decide_eq_true_eq]
      rintro rfl
      exact h hc
    rw [List.span_eq_takeWhile_dropWhile, List.takeWhile_eq_self_iff.mpr hall,
      List.dropWhile_eq_nil_iff.mpr hall]
  have hscan : scanToken afterWord ("--".toList ++ us) =
      .ok (.blank ("--" ++ String.ofList
        ((us.span (· ≠ '\n')).1 ++ (us.span (· ≠ '\n')).2.take 1)),
        (us.span (· ≠ '\n')).2.drop 1) := rfl
  rw [hscan, hspan]
  simp

/-- Where a token ends: after the characters that it took. -/
def stopAfter (start : Position) (cs rest : List Char) : Position :=
  (cs.take (cs.length - rest.length)).foldl Position.after start

theorem tokensFrom_cons {fuel : Nat} {afterWord : Bool} {start : Position} {cs rest : List Char}
    {token : Token} {more : List Located} (hcs : cs ≠ [])
    (h : scanToken afterWord cs = .ok (token, rest))
    (hmore : tokensFrom fuel token.isWord (stopAfter start cs rest) rest = .ok more) :
    tokensFrom (fuel + 1) afterWord start cs =
      .ok (⟨token, ⟨start, stopAfter start cs rest⟩⟩ :: more) := by
  unfold stopAfter at hmore ⊢
  cases cs with
  | nil => exact absurd rfl hcs
  | cons c cs =>
    rw [tokensFrom, h]
    · simp only [hmore]
      rfl
    · simp

theorem tokenize_commented {text : String} {us : List Char}
    (ht : text.toList = "SELECT N'x' --".toList ++ us) (h : '\n' ∉ us) : ∃ a b c d e blank,
    tokenize text = .ok [⟨.ofWord "SELECT", a⟩, ⟨.blank " ", b⟩, ⟨.literal .national "x", c⟩,
      ⟨.blank " ", d⟩, ⟨.blank blank, e⟩] := by
  have hlength : text.length = us.length + 9 + 5 := by
    have hopen : "SELECT N'x' --".toList.length = 14 := rfl
    rw [← String.length_toList, ht, List.length_append]
    omega
  have hselect : scanToken false ("SELECT N'x' --".toList ++ us) =
      .ok (.ofWord "SELECT", " N'x' --".toList ++ us) := rfl
  have hblank : scanToken true (" N'x' --".toList ++ us) =
      .ok (.blank " ", "N'x' --".toList ++ us) := rfl
  have hliteral : scanToken false ("N'x' --".toList ++ us) =
      .ok (.literal .national "x", " --".toList ++ us) := rfl
  have hsecond : scanToken false (" --".toList ++ us) = .ok (.blank " ", "--".toList ++ us) := rfl
  have hcomment := scanToken_lineComment false h
  unfold tokenize
  rw [hlength, ht]
  exact ⟨_, _, _, _, _, _, tokensFrom_cons (by simp) hselect (tokensFrom_cons (by simp) hblank
    (tokensFrom_cons (by simp) hliteral (tokensFrom_cons (by simp) hsecond
      (tokensFrom_cons (by simp) hcomment rfl))))⟩

/-- Whatever follows the comment on its line, one statement is read. -/
theorem readsAsOne_commented {text : String} {us : List Char}
    (ht : text.toList = "SELECT N'x' --".toList ++ us) (h : '\n' ∉ us) : ReadsAsOne text := by
  obtain ⟨a, b, c, d, e, blank, hk⟩ := tokenize_commented ht h
  unfold ReadsAsOne parseBatch parse
  rw [hk]
  exact ⟨_, rfl⟩

/-! ## Texts that are joined -/

theorem newline_free {texts : List String} (h : ∀ t ∈ texts, '\n' ∉ t.toList) :
    '\n' ∉ (separator.intercalate texts).toList := by
  induction texts with
  | nil => simp
  | cons t ts ih =>
    obtain ⟨ht, hts⟩ := List.forall_mem_cons.mp h
    cases ts with
    | nil => simpa using ht
    | cons u us =>
      have hsep : '\n' ∉ separator.toList := by decide
      rw [String.intercalate_cons_cons, String.toList_append, String.toList_append,
        List.mem_append, List.mem_append]
      rintro ((hc | hc) | hc)
      · exact ht hc
      · exact hsep hc
      · exact ih hts hc

/-- A literal of the national kind is written with its quotes as they are, so this text, which was
one literal, ends in a comment. -/
def commented : String := "SELECT N'x' --'"

theorem readsAsOne_joined {ts : List String} (h : ∀ t ∈ ts, '\n' ∉ t.toList) :
    ReadsAsOne (separator.intercalate (commented :: ts)) := by
  have hfree : '\n' ∉ (separator.intercalate (commented :: ts)).toList :=
    newline_free (List.forall_mem_cons.mpr ⟨by decide, h⟩)
  have hopen : ∃ us, (separator.intercalate (commented :: ts)).toList =
      "SELECT N'x' --".toList ++ us := by
    cases ts with
    | nil => exact ⟨['\''], rfl⟩
    | cons t ts =>
      rw [String.intercalate_cons_cons, String.toList_append, String.toList_append]
      exact ⟨'\'' :: separator.toList ++ (separator.intercalate (t :: ts)).toList, rfl⟩
  obtain ⟨us, hus⟩ := hopen
  refine readsAsOne_commented hus fun hc => hfree ?_
  rw [hus]
  exact List.mem_append_right _ hc

/-- Some statement is written so, whatever gets quotes. -/
theorem exists_commented : ∃ s, ∀ quoting, written quoting s = commented := by
  have hread : (parseBatch "select N'x'' --'").toOption.any (fun batch => batch.any fun s =>
      written .always s == commented && written .asWritten s == commented) := by decide +kernel
  rcases hp : parseBatch "select N'x'' --'" with e | batch
  · rw [hp] at hread
    cases hread
  · rw [hp] at hread
    obtain ⟨s, _, hs⟩ := List.any_eq_true.mp hread
    rw [Bool.and_eq_true, beq_iff_eq, beq_iff_eq] at hs
    refine ⟨s, fun quoting => ?_⟩
    cases quoting with
    | always => exact hs.1
    | asWritten => exact hs.2

/-- Batches of one length read back as many statements as they had exactly if they have at most
one. Of every greater length there is one whose text reads back as a single statement. -/
theorem reads_back_as_many_iff (quoting : Quoting) (n : Nat) :
    (∀ (batch : List Statement) (text : String), batch.length = n →
      serialize quoting batch = .ok text →
      ∃ found, parseBatch text = .ok found ∧ found.length = n) ↔ n ≤ 1 := by
  constructor
  · intro hall
    by_contra hn
    obtain ⟨k, rfl⟩ : ∃ k, n = k + 2 := ⟨n - 2, by omega⟩
    obtain ⟨s, hs⟩ := exists_commented
    have hone : ReadsAsOne (separator.intercalate [commented]) := readsAsOne_joined (by simp)
    rw [String.intercalate_singleton] at hone
    have htext : serialize quoting (List.replicate (k + 2) s) =
        .ok (separator.intercalate (commented :: List.replicate (k + 1) commented)) := by
      refine serialize_ok.mpr ⟨?_, ?_⟩
      · intro t ht
        rw [List.eq_of_mem_replicate ht, hs]
        exact hone
      · rw [List.map_replicate, hs]
        rfl
    obtain ⟨found, hfound, hlength⟩ := hall _ _ List.length_replicate htext
    obtain ⟨t, ht⟩ : ReadsAsOne (separator.intercalate
        (commented :: List.replicate (k + 1) commented)) := by
      refine readsAsOne_joined fun t ht => ?_
      rw [List.eq_of_mem_replicate ht]
      decide
    rw [ht] at hfound
    cases hfound
    simp at hlength
  · intro hn batch text hlength htext
    obtain ⟨hs, rfl⟩ := serialize_ok.mp htext
    match batch, hlength with
    | [], rfl => exact ⟨[], rfl, rfl⟩
    | [s], rfl =>
      obtain ⟨t, ht⟩ := hs s (List.mem_singleton_self s)
      refine ⟨[t], ?_, rfl⟩
      rwa [List.map_singleton, String.intercalate_singleton]
    | _ :: _ :: _, rfl => simp at hn

/-- Two statements are read, and their text reads back as one. -/
theorem two_statements_read_back_as_one : ∃ batch text,
    parseBatch "select N'x'' --'; select 2" = .ok batch ∧ batch.length = 2 ∧
      serialize .always batch = .ok text ∧ ReadsAsOne text := by
  have hread : (parseBatch "select N'x'' --'; select 2").toOption.any (fun batch =>
      batch.length == 2 && (serialize .always batch).toOption.any (ReadsAsOne ·)) := by
    decide +kernel
  rcases hp : parseBatch "select N'x'' --'; select 2" with e | batch
  · rw [hp] at hread
    cases hread
  · rw [hp] at hread
    obtain ⟨hlength, htext⟩ := Bool.and_eq_true_iff.mp hread
    rcases hs : serialize .always batch with e | text
    · rw [hs] at htext
      cases htext
    · rw [hs] at htext
      exact ⟨batch, text, rfl, eq_of_beq hlength, hs, of_decide_eq_true htext⟩

end ColumnMask
