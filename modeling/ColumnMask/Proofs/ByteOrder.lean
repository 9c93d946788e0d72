-- The order of names by their bytes in UTF-8, and of pairs by their names. It tells all
-- names apart, so pairs with different names have one sorted list.
import ColumnMask.Mapping

namespace ColumnMask

/-! ## Bytes -/

theorem bytesLe_iff : ∀ {as bs : List UInt8}, bytesLe as bs ↔ as ≤ bs
  | [], bs => by simp [bytesLe]
  | a :: as, [] => by simp [bytesLe]
  | a :: as, b :: bs => by
    rw [bytesLe, Bool.or_eq_true, Bool.and_eq_true, decide_eq_true_eq, beq_iff_eq, bytesLe_iff,
      List.cons_le_cons_iff]

theorem utf8_inj {a b : String} : utf8 a = utf8 b ↔ a = b := by
  constructor
  · intro h
    exact String.toByteArray_inj.mp (ByteArray.ext (Array.toList_inj.mp h))
  · rintro rfl
    rfl

/-! ## Pairs -/

namespace Pair

/-- The bytes of the name of the first pair come before those of the second. -/
def Before (p q : Pair) : Prop := utf8 p.name < utf8 q.name

theorem Before.ne {p q : Pair} (h : p.Before q) : p.name ≠ q.name := by
  intro heq
  unfold Before at h
  rw [heq] at h
  exact List.lt_irrefl _ h

theorem before_trans {p q r : Pair} (h : p.Before q) (h' : q.Before r) : p.Before r :=
  List.lt_trans h h'

theorem before_of_le {p q : Pair} (h : utf8 p.name ≤ utf8 q.name) (hne : p.name ≠ q.name) :
    p.Before q :=
  Std.lt_of_le_of_ne h fun heq => hne (utf8_inj.mp heq)

theorem le_iff {p q : Pair} :
    p.le q ↔ p.Before q ∨ p.name = q.name ∧ utf8 p.digest ≤ utf8 q.digest := by
  unfold le
  split
  · rename_i h
    rw [bytesLe_iff]
    constructor
    · exact fun hd => .inr ⟨h, hd⟩
    · rintro (hb | ⟨_, hd⟩)
      · exact absurd h hb.ne
      · exact hd
  · rename_i h
    rw [bytesLe_iff]
    constructor
    · exact fun hle => .inl (before_of_le hle h)
    · rintro (hb | ⟨heq, _⟩)
      · exact Std.le_of_lt hb
      · exact absurd heq h

theorem le_trans {p q r : Pair} (h : p.le q) (h' : q.le r) : p.le r := by
  rw [le_iff] at *
  rcases h with hb | ⟨hn, hd⟩
  · rcases h' with hb' | ⟨hn', _⟩
    · exact .inl (before_trans hb hb')
    · unfold Before at *
      rw [← hn']
      exact .inl hb
  · rcases h' with hb' | ⟨hn', hd'⟩
    · unfold Before at *
      rw [hn]
      exact .inl hb'
    · exact .inr ⟨hn.trans hn', List.le_trans hd hd'⟩

theorem le_total (p q : Pair) : p.le q || q.le p := by
  rw [Bool.or_eq_true, le_iff, le_iff]
  by_cases hn : p.name = q.name
  · rcases List.le_total (utf8 p.digest) (utf8 q.digest) with hd | hd
    · exact .inl (.inr ⟨hn, hd⟩)
    · exact .inr (.inr ⟨hn.symm, hd⟩)
  · rcases List.le_total (utf8 p.name) (utf8 q.name) with h | h
    · exact .inl (.inl (before_of_le h hn))
    · exact .inr (.inl (before_of_le h (Ne.symm hn)))

theorem le_antisymm {p q : Pair} (h : p.le q) (h' : q.le p) : p = q := by
  rcases p with ⟨name, digest⟩
  rcases q with ⟨name', digest'⟩
  rw [le_iff] at *
  rcases h with hb | ⟨hn, hd⟩
  · rcases h' with hb' | ⟨hn', _⟩
    · exact absurd rfl (before_trans hb hb').ne
    · exact absurd hn'.symm hb.ne
  · rcases h' with hb' | ⟨_, hd'⟩
    · exact absurd hn.symm hb'.ne
    · obtain rfl : name = name' := hn
      obtain rfl : digest = digest' := utf8_inj.mp (List.le_antisymm hd hd')
      rfl

end Pair

/-! ## Sorted pairs -/

theorem sortPairs_perm (pairs : List Pair) : (sortPairs pairs).Perm pairs :=
  List.mergeSort_perm pairs Pair.le

theorem sortPairs_pairwise (pairs : List Pair) : (sortPairs pairs).Pairwise fun p q => p.le q := by
  unfold sortPairs
  apply List.pairwise_mergeSort
  · exact fun _ _ _ => Pair.le_trans
  · exact Pair.le_total

/-- The order in which pairs come makes no difference to the sorted list. -/
theorem sortPairs_eq_of_perm {ps qs : List Pair} (h : ps.Perm qs) :
    sortPairs ps = sortPairs qs := by
  have hperm : (sortPairs ps).Perm (sortPairs qs) :=
    (sortPairs_perm ps).trans (h.trans (sortPairs_perm qs).symm)
  refine hperm.eq_of_pairwise ?_ (sortPairs_pairwise ps) (sortPairs_pairwise qs)
  intro p q _ _
  exact Pair.le_antisymm

/-- Pairs with different names stand in strict order after sorting. -/
theorem sortPairs_before {pairs : List Pair} (h : (pairs.map Pair.name).Nodup) :
    (sortPairs pairs).Pairwise Pair.Before := by
  have hnames : (sortPairs pairs).Pairwise fun p q => p.name ≠ q.name := by
    have hsorted := ((sortPairs_perm pairs).map Pair.name).nodup_iff.mpr h
    exact List.pairwise_map.mp hsorted
  refine ((sortPairs_pairwise pairs).and hnames).imp ?_
  rintro p q ⟨hle, hne⟩
  rcases Pair.le_iff.mp hle with hb | ⟨heq, _⟩
  · exact hb
  · exact absurd heq hne

/-- Two lists in strict order with the same members are the same. -/
theorem eq_of_before {ps qs : List Pair} (hp : ps.Pairwise Pair.Before)
    (hq : qs.Pairwise Pair.Before) (h : ∀ p, p ∈ ps ↔ p ∈ qs) : ps = qs := by
  have hnodup : ∀ {rs : List Pair}, rs.Pairwise Pair.Before → rs.Nodup := by
    intro rs hr
    refine hr.imp ?_
    rintro a b hab rfl
    exact hab.ne rfl
  have hperm : ps.Perm qs := (List.perm_ext_iff_of_nodup (hnodup hp) (hnodup hq)).mpr h
  refine hperm.eq_of_pairwise ?_ hp hq
  intro a b _ _ hab hba
  exact absurd rfl (Pair.before_trans hab hba).ne

end ColumnMask
