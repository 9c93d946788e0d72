-- The text of a statement whose columns are masked. It is made of the digests of its
-- columns and of what is not a column, so neither the names of the columns nor the rest of
-- the batch reach it.
import ColumnMask.Anonymize
import ColumnMask.Proofs.AlikeLaws
import ColumnMask.Proofs.InnerTargets
import ColumnMask.Proofs.Joining
import ColumnMask.Proofs.SameText

namespace ColumnMask

open Sql

variable {digest : String → String}

/-! ## Changes of a masked statement -/

def SameDigest (digest : String → String) (i j : Ident) : Prop := digest i.value = digest j.value

/-- The second identifier is written as the digest of the first one, between double quotes. -/
def WrittenAsDigest (digest : String → String) (i j : Ident) : Prop :=
  j.show = quoted '"' (digest i.value)

def SameShow (i j : Ident) : Prop := j.show = i.show

/-- The change of columns to columns with the same digests. The word `DEFAULT` is no column, so
it stays, and nothing becomes it. -/
def sameDigests (digest : String → String) : Change where
  lone i j := i = j ∨ ¬ i.isDefault ∧ ¬ j.isDefault ∧ SameDigest digest i j
  last := SameDigest digest
  qualifier := Eq
  joined := SameDigest digest
  relation := Eq
  source := Eq
  label := Eq

/-- The change of columns to their digests. -/
def masking (digest : String → String) : Change where
  lone i j := if i.isDefault then i = j else WrittenAsDigest digest i j
  last := WrittenAsDigest digest
  qualifier := Eq
  joined := WrittenAsDigest digest
  relation := Eq
  source := Eq
  label := Eq

/-- The change of columns that keeps their spelling. -/
def respelling : Change where
  lone := SameShow
  last := SameShow
  qualifier := Eq
  joined := SameShow
  relation := Eq
  source := Eq
  label := Eq

/-- The change that puts quotes where the quoting walk puts them. -/
def requoting : Change where
  lone := SameShow
  last := SameShow
  qualifier i j := j = quoteIdent i
  joined := SameShow
  relation i j := j = quoteIdent i
  source i j := j = quoteIdent i
  label i j := j = quoteIdent i

/-! ## How the changes fit together -/

theorem relates_digests :
    Relates (SameDigest digest) (WrittenAsDigest digest) (WrittenAsDigest digest) := by
  intro i j k hij hik
  unfold SameDigest at hij
  unfold WrittenAsDigest at hik ⊢
  rw [hik, hij]

theorem relates_written :
    Relates (WrittenAsDigest digest) (WrittenAsDigest digest) SameShow := by
  intro i j k hij hik
  unfold WrittenAsDigest at hij hik
  unfold SameShow
  rw [hik, hij]

theorem relates_sameShow : Relates SameShow SameShow SameShow := by
  intro i j k hij hik
  unfold SameShow at *
  rw [hik, hij]

theorem relates_function {f : Ident → Ident} :
    Relates (fun i j => j = f i) (fun i j => j = f i) Eq := by
  rintro i j k rfl rfl
  rfl

theorem relates_eq_left {r : Ident → Ident → Prop} : Relates Eq r r := by
  rintro i j k rfl h
  exact h

/-- What masks a statement masks any other one with the same digests. -/
theorem sameDigests_masking : (sameDigests digest).Relates (masking digest) (masking digest) where
  lone := by
    rintro i j k (rfl | ⟨hi, hj, hij⟩) hik
    · exact hik
    · simp only [masking, if_neg hi, if_neg hj] at hik ⊢
      exact relates_digests i j k hij hik
  last := relates_digests
  qualifier := relates_eq
  joined := relates_digests
  relation := relates_eq
  source := relates_eq
  label := relates_eq

theorem masking_masking : (masking digest).Relates (masking digest) respelling where
  lone := by
    intro i j k hij hik
    by_cases hi : i.isDefault
    · simp only [masking, if_pos hi] at hij hik
      rw [← hij, ← hik]
      rfl
    · simp only [masking, if_neg hi] at hij hik
      exact relates_written i j k hij hik
  last := relates_written
  qualifier := relates_eq
  joined := relates_written
  relation := relates_eq
  source := relates_eq
  label := relates_eq

theorem respelling_requoting : respelling.Relates requoting requoting where
  lone := relates_sameShow
  last := relates_sameShow
  qualifier := relates_eq_left
  joined := relates_sameShow
  relation := relates_eq_left
  source := relates_eq_left
  label := relates_eq_left

theorem requoting_requoting : requoting.Relates requoting respelling where
  lone := relates_sameShow
  last := relates_sameShow
  qualifier := relates_function
  joined := relates_sameShow
  relation := relates_function
  source := relates_function
  label := relates_function

theorem requoting_allows : requoting.Allows ColumnMask.quoting where
  lone _ := rfl
  last _ := rfl
  qualifier _ := rfl
  joined _ := rfl
  relation _ := rfl
  source _ := rfl
  label _ := rfl

theorem sameSpelling_sameShow : SameSpelling SameShow := fun _ _ h => h

theorem respelling_keepsText : respelling.KeepsText where
  lone := sameSpelling_sameShow
  last := sameSpelling_sameShow
  qualifier := sameSpelling_eq
  joined := sameSpelling_sameShow
  relation := sameSpelling_eq
  source := sameSpelling_eq
  label := sameSpelling_eq

/-! ## Statements with the same text -/

theorem respelled_withQuotes {s s' : Statement} (h : s.alike respelling SameShow s') :
    s.withQuotes.alike respelling SameShow s'.withQuotes := by
  have hs : s.alike requoting Eq s.withQuotes := s.alike_walk requoting_allows
  have hs' : s'.alike requoting Eq s'.withQuotes := s'.alike_walk requoting_allows
  have hcross : s'.alike requoting SameShow s.withQuotes := by
    refine h.both respelling_requoting ?_ hs
    rintro i j k hij rfl
    exact hij.symm
  refine hcross.both requoting_requoting ?_ hs'
  rintro i j k hij rfl
  exact hij.symm

theorem written_respelled (quoting : Quoting) {s s' : Statement}
    (h : s.alike respelling SameShow s') : written quoting s' = written quoting s := by
  unfold written
  cases quoting with
  | always => exact (respelled_withQuotes h).show respelling_keepsText sameSpelling_sameShow
  | asWritten => exact h.show respelling_keepsText sameSpelling_sameShow

/-- Two ways to mask a statement give one text. -/
theorem written_masked (quoting : Quoting) {s t t' : Statement}
    (h : s.alike (masking digest) (WrittenAsDigest digest) t)
    (h' : s.alike (masking digest) (WrittenAsDigest digest) t') :
    written quoting t' = written quoting t :=
  written_respelled quoting (h.both masking_masking relates_written h')

/-! ## Rewriting masks a statement -/

section

variable {batch : List Statement}

theorem writtenAsDigest_settled {s : Statement} (hs : s ∈ batch) {i j : Ident}
    (hi : i ∈ s.siteIdents) (h : j = settled (renameColumn (ownMapping digest batch)) i) :
    WrittenAsDigest digest i j := by
  rw [h, settled_ownMapping hs hi]
  rfl

theorem mem_siteIdents_of_visit {s : Statement} {v : Visit} {i : Ident} (hv : v ∈ s.visits)
    (hi : i ∈ v.sites) : i ∈ s.siteIdents :=
  List.mem_append_right _ (List.mem_flatMap.mpr ⟨v, hv, hi⟩)

-- A column is a site of the statement where the walk meets it, so its digest is known there.
theorem implies_masking {s : Statement} (hs : s ∈ batch) :
    (columnRenamer (ownMapping digest batch)).settled.change.Implies (masking digest) s.visits := by
  intro v hv
  have hsites : ∀ i ∈ v.sites, ∀ j, j = settled (renameColumn (ownMapping digest batch)) i →
      WrittenAsDigest digest i j :=
    fun i hi j h => writtenAsDigest_settled hs (mem_siteIdents_of_visit hv hi) h
  cases v with
  | enter body => exact hsites
  | last i => exact hsites
  | lone i =>
    intro k hk j h
    obtain rfl := List.mem_singleton.mp hk
    have hj : j = ((columnRenamer (ownMapping digest batch)).settled.lone k).run := h
    rw [settled_lone] at hj
    by_cases hd : k.isDefault
    · rw [if_pos hd] at hj
      simp only [masking, if_pos hd]
      exact hj.symm
    · rw [if_neg hd] at hj
      simp only [masking, if_neg hd]
      exact hsites k (by simp [Visit.sites, hd]) j hj
  | qualifier i => exact fun _ _ _ h => h.symm
  | relation i => exact fun _ _ _ h => h.symm
  | source i => exact fun _ _ _ h => h.symm
  | label i => exact fun _ _ _ h => h.symm
  | inner s => trivial

theorem masking_renamed {s : Statement} (hs : s ∈ batch) :
    s.alike (masking digest) (WrittenAsDigest digest) (renamed (ownMapping digest batch) s) := by
  refine (renamed_follows _ s).imp ?_ (implies_masking hs)
  intro i hi j h
  exact writtenAsDigest_settled hs (List.mem_append_left _ hi) h

end

/-! ## The text of a masked statement -/

/-- The text of a statement with its columns masked. -/
def maskedText (digest : String → String) (quoting : Quoting) (s : Statement) : String :=
  written quoting (renamed (ownMapping digest [s]) s)

/-- The rest of the batch does not matter for the text of a statement. -/
theorem written_renamed (quoting : Quoting) {batch : List Statement} {s : Statement}
    (hs : s ∈ batch) :
    written quoting (renamed (ownMapping digest batch) s) = maskedText digest quoting s :=
  written_masked quoting (masking_renamed (List.mem_singleton_self s)) (masking_renamed hs)

theorem maskedText_sameDigests (quoting : Quoting) {s s' : Statement}
    (h : s.alike (sameDigests digest) (SameDigest digest) s') :
    maskedText digest quoting s' = maskedText digest quoting s := by
  have hs : s.alike (masking digest) (WrittenAsDigest digest) (renamed (ownMapping digest [s]) s) :=
    masking_renamed (List.mem_singleton_self s)
  have hs' : s'.alike (masking digest) (WrittenAsDigest digest)
      (renamed (ownMapping digest [s']) s') := masking_renamed (List.mem_singleton_self s')
  have hcross := h.both sameDigests_masking relates_digests hs
  exact written_masked quoting hcross hs'

/-! ## The text of a masked batch -/

/-- Checks that each text reads back as one statement; they are counted from an index on. -/
def checkedTexts : List String → Nat → Except Failure (List String)
  | [], _ => .ok []
  | text :: texts, index => do
    checkReadable index text
    return text :: (← checkedTexts texts (index + 1))

theorem statementTexts_eq (quoting : Quoting) (batch : List Statement) (index : Nat) :
    statementTexts quoting batch index = checkedTexts (batch.map (written quoting)) index := by
  induction batch generalizing index with
  | nil => rfl
  | cons s batch ih =>
    rw [statementTexts, List.map_cons, checkedTexts, ih, statementText, bind_assoc]
    rfl

/-- A supported batch comes to the texts of its masked statements, each one read back. -/
theorem anonymizeBatch_eq (quoting : Quoting) {batch : List Statement}
    (h : ∀ s ∈ batch, s.isSupported) : anonymizeBatch digest quoting batch = do
      let texts ← checkedTexts (batch.map (maskedText digest quoting)) 0
      return ⟨separator.intercalate texts, (ownMapping digest batch).pairs, batch⟩ := by
  have htexts : (batch.map (renamed (ownMapping digest batch))).map (written quoting) =
      batch.map (maskedText digest quoting) := by
    rw [List.map_map]
    exact List.map_congr_left fun s hs => written_renamed quoting hs
  have hrewrite : rewriteBatch (Mapping.build digest (extractColumns batch)) batch =
      .ok (batch.map (renamed (ownMapping digest batch))) := rewriteBatch_ownMapping h
  unfold anonymizeBatch
  rw [checkSupported_ok h, ← htexts]
  simp only [hrewrite, serialize, statementTexts_eq, bind_assoc, pure_bind]
  rfl

theorem supported_alike {c : Change} {u : Ident → Ident → Prop} {batch batch' : List Statement}
    (h : List.Forall₂ (Statement.alike c u) batch batch') (hs : ∀ s ∈ batch, s.isSupported) :
    ∀ s ∈ batch', s.isSupported := by
  induction h with
  | nil => exact hs
  | cons halike _ ih =>
    obtain ⟨hfirst, hrest⟩ := List.forall_mem_cons.mp hs
    refine List.forall_mem_cons.mpr ⟨?_, ih hrest⟩
    rw [halike.isSupported]
    exact hfirst

/-- Of two batches that differ in columns only, and there in columns with the same digests, the
texts are the same, or neither has a text and for the same reason. -/
theorem digests_decide_the_text (digest : String → String) (quoting : Quoting)
    {batch batch' : List Statement} (hsupported : ∀ s ∈ batch, s.isSupported)
    (h : List.Forall₂ (Statement.alike (sameDigests digest) (SameDigest digest)) batch batch') :
    (anonymizeBatch digest quoting batch').map Anonymized.sql =
      (anonymizeBatch digest quoting batch).map Anonymized.sql := by
  have htexts : batch'.map (maskedText digest quoting) = batch.map (maskedText digest quoting) := by
    induction h with
    | nil => rfl
    | cons hs _ ih =>
      rw [List.map_cons, List.map_cons, maskedText_sameDigests quoting hs,
        ih (List.forall_mem_cons.mp hsupported).2]
  have hsupported' : ∀ s ∈ batch', s.isSupported := supported_alike h hsupported
  rw [anonymizeBatch_eq quoting hsupported, anonymizeBatch_eq quoting hsupported', htexts]
  cases checkedTexts (batch.map (maskedText digest quoting)) 0 <;> rfl

/-- Names of one length have one digest here, and the two statements have one text. -/
theorem one_text_for_two_updates :
    (∀ s ∈ [updateOf { value := "a" } { value := "b", quote := some '[' }], s.isSupported) ∧
    List.Forall₂ (Statement.alike (sameDigests fun name => toString name.length)
        (SameDigest fun name => toString name.length))
      [updateOf { value := "a" } { value := "b", quote := some '[' }]
      [updateOf { value := "c", quote := some '"' } { value := "d" }] ∧
    (anonymizeBatch (fun name => toString name.length) .always
        [updateOf { value := "c", quote := some '"' } { value := "d" }]).map Anonymized.sql =
      (anonymizeBatch (fun name => toString name.length) .always
        [updateOf { value := "a" } { value := "b", quote := some '[' }]).map Anonymized.sql := by
  have hsupported : ∀ s ∈ [updateOf { value := "a" } { value := "b", quote := some '[' }],
      s.isSupported := by decide
  have hset : SameDigest (fun name => toString name.length) { value := "a" }
      { value := "c", quote := some '"' } := rfl
  have hread : (sameDigests fun name => toString name.length).lone
      { value := "b", quote := some '[' } { value := "d" } :=
    .inr ⟨by decide +kernel, by decide +kernel, rfl⟩
  have halike : (updateOf { value := "a" } { value := "b", quote := some '[' }).alike
      (sameDigests fun name => toString name.length) (SameDigest fun name => toString name.length)
      (updateOf { value := "c", quote := some '"' } { value := "d" }) := by
    refine ⟨_, _, _, _, _, rfl, rfl, ?table, ?assignments, rfl, rfl⟩
    case table => exact ⟨_, _, rfl, ⟨_, _, _, rfl, ⟨_, _, rfl, ⟨_, rfl, rfl⟩, rfl⟩, rfl, rfl⟩, rfl⟩
    case assignments =>
      refine ⟨_, _, rfl, ⟨_, _, rfl, ?target, ⟨_, rfl, hread⟩⟩, rfl⟩
      exact ⟨_, rfl, _, _, rfl, ⟨_, rfl, rfl⟩, _, rfl, _, rfl, hset⟩
  exact ⟨hsupported, .cons halike .nil,
    digests_decide_the_text _ .always hsupported (.cons halike .nil)⟩

end ColumnMask
