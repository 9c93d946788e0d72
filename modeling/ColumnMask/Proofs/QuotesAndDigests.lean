-- Quotes and digests stand at different places. The walk that puts quotes around
-- identifiers leaves every column alone, and the renaming of columns leaves alone what gets
-- quotes. So it does not matter which of the two comes first.
import ColumnMask.Proofs.InnerTargets
import ColumnMask.Proofs.Sameness
import ColumnMask.Quoting

namespace ColumnMask

open Sql

/-! ## The quotes leave the columns alone -/

theorem withQuotes_follows (s : Statement) : s.alike quoting.change Eq s.withQuotes :=
  s.alike_walk quoting.change_allows

theorem quoting_atSites : quoting.change.AtSites Eq where
  lone := by
    rintro i j rfl
    by_cases h : j.isDefault
    · exact .inl ⟨h, h⟩
    · exact .inr ⟨h, h, rfl⟩
  last := by
    rintro i j rfl
    rfl
  joined := by
    rintro i j rfl
    rfl

/-- The columns of a statement with quotes are the columns of the statement, each as it was
written. -/
theorem siteIdents_withQuotes (s : Statement) : s.withQuotes.siteIdents = s.siteIdents :=
  eq_of_forall₂ ((withQuotes_follows s).siteIdents quoting_atSites fun _ _ h => h)

theorem sites_withQuotes (s : Statement) : s.withQuotes.sites = s.sites := by
  rw [s.withQuotes.sites_eq, s.sites_eq, siteIdents_withQuotes]

theorem extractColumns_withQuotes (s : Statement) :
    extractColumns [s.withQuotes] = extractColumns [s] := by
  unfold extractColumns
  rw [List.flatMap_singleton, List.flatMap_singleton, sites_withQuotes]

theorem isSupported_withQuotes (s : Statement) : s.withQuotes.isSupported = s.isSupported :=
  (withQuotes_follows s).isSupported

/-! ## The order of quotes and digests -/

theorem commute_keep_left (f : Ident → Ident) :
    Commute (fun i j => j = i) (fun i j => j = f i) := by
  rintro i j k l n rfl rfl rfl rfl
  rfl

theorem commute_keep_right (f : Ident → Ident) :
    Commute (fun i j => j = f i) (fun i j => j = i) := by
  rintro i j k l n rfl rfl rfl rfl
  rfl

theorem commute_eq_left (f : Ident → Ident) : Commute Eq (fun i j => j = f i) := by
  rintro i j k l n rfl rfl rfl rfl
  rfl

-- At a column the quotes do nothing, and at every other place the renaming does nothing.
theorem quoting_commutes (m : Mapping) :
    quoting.change.Commutes (columnRenamer m).settled.change where
  lone := commute_keep_left _
  last := commute_keep_left _
  qualifier := commute_keep_right _
  joined := commute_keep_left _
  relation := commute_keep_right _
  source := commute_keep_right _
  label := commute_keep_right _

theorem renamed_withQuotes (m : Mapping) (s : Statement) :
    renamed m s.withQuotes = (renamed m s).withQuotes :=
  ((withQuotes_follows s).commute (quoting_commutes m) (commute_eq_left _)
    (renamed_follows m s.withQuotes) (renamed_follows m s)
    (withQuotes_follows (renamed m s))).symm

theorem rewriteStatement_withQuotes (m : Mapping) {s : Statement} (h : s.isSupported) :
    rewriteStatement m s.withQuotes = (rewriteStatement m s).map Sql.Statement.withQuotes := by
  have hq : s.withQuotes.isSupported := by rwa [isSupported_withQuotes]
  rw [rewriteStatement_eq m h, rewriteStatement_eq m hq, sites_withQuotes, renamed_withQuotes]
  rcases m.require_cases s.sites with hr | ⟨name, hr⟩
  · rw [hr]
    rfl
  · rw [hr]
    rfl

/-- The columns of a statement are the same with quotes around its other identifiers, and so are
the identifiers at its column sites. A supported statement can be quoted before its columns are
renamed or after: the same statement comes of it, or the same column has no digest. -/
theorem quotes_and_digests_stand_apart (s : Statement) :
    extractColumns [s.withQuotes] = extractColumns [s] ∧
    s.withQuotes.siteIdents = s.siteIdents ∧
    (s.isSupported → ∀ m,
      rewriteStatement m s.withQuotes = (rewriteStatement m s).map Sql.Statement.withQuotes) :=
  ⟨extractColumns_withQuotes s, siteIdents_withQuotes s, fun h m => rewriteStatement_withQuotes m h⟩

/-- `SELECT t.a AS x, default FROM t JOIN u USING (b)`. -/
def joinedSelect : Statement :=
  .query (.mk .absent (.select (.mk .standard .absent []
    [.aliased (.qualified [{ value := "t" }, { value := "a" }]) { value := "x" },
      .plain (.column { value := "default" })] []
    [.mk (.table [.ident { value := "t" }] .absent [])
      [.constrained (.table [.ident { value := "u" }] .absent []) false .join
        (.using [[.ident { value := "b" }]])]] [])) [])

theorem joinedSelect_quoted_and_renamed : joinedSelect.isSupported ∧
    (rewriteStatement twoDigests joinedSelect).isOk ∧
    rewriteStatement twoDigests joinedSelect.withQuotes =
      (rewriteStatement twoDigests joinedSelect).map Sql.Statement.withQuotes := by
  have h : joinedSelect.isSupported := rfl
  exact ⟨h, by decide +kernel, (quotes_and_digests_stand_apart joinedSelect).2.2 h twoDigests⟩

end ColumnMask
