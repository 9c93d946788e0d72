-- What rewriting makes of a statement. The digest of a column stands where the column
-- stood, each column is renamed once, and whatever is not a column stays as it was.
import ColumnMask.Proofs.Counterparts
import ColumnMask.Proofs.Outcome

namespace ColumnMask

open Sql

/-! ## Changes of columns -/

/-- Anything may stand for an identifier. -/
def anything (_ _ : Ident) : Prop := True

/-- The change of columns only. The word `DEFAULT` is no column, and no column becomes it. -/
def columnsOnly : Change where
  lone i j := i = j ∨ ¬ i.isDefault ∧ ¬ j.isDefault
  last := anything
  qualifier := Eq
  joined := anything
  relation := Eq
  source := Eq
  label := Eq

/-- The digest of a column stands for it, between double quotes. -/
def Renamed (m : Mapping) (i j : Ident) : Prop :=
  ∃ digest, m.get? i.value = some digest ∧ j = { i with value := digest, quote := some '"' }

/-- A column is renamed if it has a digest, and stays as it is if not. -/
def RenamedIfKnown (m : Mapping) (i j : Ident) : Prop := j = settled (renameColumn m) i

/-- What a walker makes of each identifier, as a change. -/
def Sql.Walker.change (w : Walker Id) : Change where
  lone i j := j = (w.lone i).run
  last i j := j = (w.last i).run
  qualifier i j := j = (w.qualifier i).run
  joined i j := j = (w.joined i).run
  relation i j := j = (w.relation i).run
  source i j := j = (w.source i).run
  label i j := j = (w.label i).run

theorem Sql.Walker.change_allows (w : Walker Id) : w.change.Allows w where
  lone _ := rfl
  last _ := rfl
  qualifier _ := rfl
  joined _ := rfl
  relation _ := rfl
  source _ := rfl
  label _ := rfl

/-! ## What becomes of a column -/

variable (m : Mapping)

theorem renameColumn_some {i : Ident} {digest : String} (h : m.get? i.value = some digest) :
    settled (renameColumn m) i = { i with value := digest, quote := some '"' } := by
  simp only [settled, renameColumn, h]
  rfl

theorem renameColumn_none {i : Ident} (h : m.get? i.value = none) :
    settled (renameColumn m) i = i := by
  simp only [settled, renameColumn, h]
  rfl

theorem renamed_settled {i : Ident} (h : (m.get? i.value).isSome) :
    Renamed m i (settled (renameColumn m) i) := by
  obtain ⟨digest, hd⟩ := Option.isSome_iff_exists.mp h
  exact ⟨digest, hd, renameColumn_some m hd⟩

/-- A digest stands between quotes, so it is never read as the word `DEFAULT`. -/
theorem isDefault_settled {i : Ident} (h : ¬ i.isDefault) :
    ¬ (settled (renameColumn m) i).isDefault := by
  rcases hd : m.get? i.value with _ | digest
  · rwa [renameColumn_none m hd]
  · rw [renameColumn_some m hd]
    simp [Ident.isDefault]

theorem settled_lone (i : Ident) : ((columnRenamer m).settled.lone i).run =
    if i.isDefault then i else settled (renameColumn m) i := by
  show settled (fun i => if i.isDefault then .ok i else renameColumn m i) i = _
  by_cases h : i.isDefault
  · simp only [settled, if_pos h]
    rfl
  · simp only [settled, if_neg h]

/-! ## What becomes of a statement -/

theorem columnsOnly_allows : columnsOnly.Allows (columnRenamer m).settled where
  lone i := by
    rw [settled_lone]
    split
    · exact Or.inl rfl
    · rename_i h
      exact Or.inr ⟨h, isDefault_settled m h⟩
  last _ := trivial
  qualifier _ := rfl
  joined _ := trivial
  relation _ := rfl
  source _ := rfl
  label _ := rfl

theorem columnRenamer_atSites :
    (columnRenamer m).settled.change.AtSites (RenamedIfKnown m) where
  lone i j h := by
    have hj : j = ((columnRenamer m).settled.lone i).run := h
    rw [settled_lone] at hj
    split at hj
    · rename_i hi
      exact Or.inl ⟨hi, hj ▸ hi⟩
    · rename_i hi
      exact Or.inr ⟨hi, hj ▸ isDefault_settled m hi, hj⟩
  last _ _ h := h
  joined _ _ h := h

theorem renamed_alike (s : Statement) : s.alike columnsOnly anything (renamed m s) :=
  s.alike_mapTargets (columnsOnly_allows m) fun _ => trivial

theorem renamed_follows (s : Statement) :
    s.alike (columnRenamer m).settled.change (RenamedIfKnown m) (renamed m s) := by
  have hu : ∀ i, RenamedIfKnown m i (sure (renameColumn m) i).run := fun _ => rfl
  exact s.alike_mapTargets (columnRenamer m).settled.change_allows hu

theorem siteIdents_renamed (s : Statement) :
    List.Forall₂ (RenamedIfKnown m) s.siteIdents (renamed m s).siteIdents :=
  (renamed_follows m s).siteIdents (columnRenamer_atSites m) fun _ _ hu => hu

theorem rewriteStatement_ok {m : Mapping} {s r : Statement} (h : rewriteStatement m s = .ok r) :
    (∀ i ∈ s.siteIdents, (m.get? i.value).isSome) ∧ r = renamed m s := by
  by_cases hs : s.isSupported
  · rw [rewriteStatement_eq m hs] at h
    rcases m.require_cases s.sites with hr | ⟨name, hr⟩
    · rw [hr] at h
      cases h
      rw [s.sites_eq, Mapping.require_ok] at hr
      exact ⟨fun i hi => hr i.value (List.mem_map_of_mem hi), rfl⟩
    · rw [hr] at h
      cases h
  · have hc : checkSupported [s] = .error (.unsupported 0 s.keyword) := by
      simp [checkSupported, hs]
    rw [rewriteStatement, hc] at h
    cases h

/-- A rewritten statement has the shape of the one it was made from, and differs from it at
columns only. Its columns are the columns of that statement in the same order, each with its
digest for its value, between double quotes. -/
theorem rewriting_renames_each_column_once (m : Mapping) {s r : Statement}
    (h : rewriteStatement m s = .ok r) :
    s.alike columnsOnly anything r ∧ List.Forall₂ (Renamed m) s.siteIdents r.siteIdents := by
  obtain ⟨hm, rfl⟩ := rewriteStatement_ok h
  refine ⟨renamed_alike m s, ?_⟩
  have hs := (List.forall₂_and_left _ _).mpr ⟨hm, siteIdents_renamed m s⟩
  refine hs.imp ?_
  rintro i j ⟨hi, rfl⟩
  exact renamed_settled m hi

/-- `UPDATE t SET t.<set> = <read>`, the columns as identifiers. -/
def updateOf (set read : Ident) : Statement :=
  .update [] (.mk (.table [.ident { value := "t" }] .absent []) [])
    [.mk (.name [.ident { value := "t" }, .ident set]) (.column read)] .absent []

def twoDigests : Mapping := ⟨[⟨"a", "0a"⟩, ⟨"b", "0b"⟩], by decide⟩

theorem renaming_an_update :
    rewriteStatement twoDigests (updateOf { value := "a" } { value := "b", quote := some '[' }) =
      .ok (updateOf { value := "0a", quote := some '"' } { value := "0b", quote := some '"' }) ∧
    (updateOf { value := "a" } { value := "b", quote := some '[' }).alike columnsOnly anything
      (updateOf { value := "0a", quote := some '"' } { value := "0b", quote := some '"' }) ∧
    List.Forall₂ (Renamed twoDigests)
      (updateOf { value := "a" } { value := "b", quote := some '[' }).siteIdents
      (updateOf { value := "0a", quote := some '"' }
        { value := "0b", quote := some '"' }).siteIdents := by
  have h : rewriteStatement twoDigests
      (updateOf { value := "a" } { value := "b", quote := some '[' }) =
      .ok (updateOf { value := "0a", quote := some '"' } { value := "0b", quote := some '"' }) :=
    rfl
  exact ⟨h, rewriting_renames_each_column_once twoDigests h⟩

end ColumnMask
