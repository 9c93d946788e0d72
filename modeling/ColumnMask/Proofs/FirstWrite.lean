-- Stores that keep the first pair of each name. Both stores do: what they list is, up to
-- order, the rows after the pairs that they took in were added one after the other.
import ColumnMask.Proofs.ByteOrder
import ColumnMask.Store.File
import ColumnMask.Store.Memory

namespace ColumnMask

/-! ## Adding pairs to rows -/

section

variable {rows : List Pair} {p : Pair}

theorem addPair_of_mem (h : p.name ∈ rows.map Pair.name) : addPair rows p = rows := by
  obtain ⟨row, hrow, hname⟩ := List.mem_map.mp h
  have hany : (rows.any fun row => row.name == p.name) = true :=
    List.any_eq_true.mpr ⟨row, hrow, beq_iff_eq.mpr hname⟩
  unfold addPair
  rw [if_pos hany]

theorem addPair_of_not_mem (h : p.name ∉ rows.map Pair.name) : addPair rows p = rows ++ [p] := by
  have hany : ¬ (rows.any fun row => row.name == p.name) = true := by
    intro hall
    obtain ⟨row, hrow, hname⟩ := List.any_eq_true.mp hall
    exact h (List.mem_map.mpr ⟨row, hrow, beq_iff_eq.mp hname⟩)
  unfold addPair
  rw [if_neg hany]

theorem mem_names_addPair {name : String} : name ∈ (addPair rows p).map Pair.name ↔
    name ∈ rows.map Pair.name ∨ name = p.name := by
  by_cases h : p.name ∈ rows.map Pair.name
  · rw [addPair_of_mem h]
    constructor
    · exact .inl
    · rintro (hn | rfl)
      · exact hn
      · exact h
  · rw [addPair_of_not_mem h, List.map_append, List.mem_append, List.map_singleton,
      List.mem_singleton]

theorem mem_of_mem_addPair {q : Pair} (h : q ∈ addPair rows p) : q ∈ rows ∨ q = p := by
  by_cases hm : p.name ∈ rows.map Pair.name
  · rw [addPair_of_mem hm] at h
    exact .inl h
  · rw [addPair_of_not_mem hm, List.mem_append, List.mem_singleton] at h
    exact h

theorem nodup_addPair (h : (rows.map Pair.name).Nodup) :
    ((addPair rows p).map Pair.name).Nodup := by
  by_cases hm : p.name ∈ rows.map Pair.name
  · rw [addPair_of_mem hm]
    exact h
  · rw [addPair_of_not_mem hm, List.map_append]
    exact ColumnSet.nodup_concat h hm

theorem addPair_cons_ne {row : Pair} (h : row.name ≠ p.name) :
    addPair (row :: rows) p = row :: addPair rows p := by
  by_cases hm : p.name ∈ rows.map Pair.name
  · rw [addPair_of_mem hm, addPair_of_mem (List.mem_cons_of_mem _ hm)]
  · have hcons : p.name ∉ (row :: rows).map Pair.name := by
      rw [List.map_cons, List.mem_cons]
      rintro (heq | hmem)
      · exact h heq.symm
      · exact hm hmem
    rw [addPair_of_not_mem hm, addPair_of_not_mem hcons, List.cons_append]

theorem addPair_perm {rows' : List Pair} (h : rows.Perm rows') :
    (addPair rows p).Perm (addPair rows' p) := by
  by_cases hm : p.name ∈ rows.map Pair.name
  · rw [addPair_of_mem hm, addPair_of_mem ((h.map Pair.name).mem_iff.mp hm)]
    exact h
  · have hm' : p.name ∉ rows'.map Pair.name := fun hmem => hm ((h.map Pair.name).mem_iff.mpr hmem)
    rw [addPair_of_not_mem hm, addPair_of_not_mem hm']
    exact h.append_right [p]

end

theorem addPairs_append (rows ps qs : List Pair) :
    addPairs rows (ps ++ qs) = addPairs (addPairs rows ps) qs :=
  List.foldl_append

theorem mem_names_addPairs (rows pairs : List Pair) (name : String) :
    name ∈ (addPairs rows pairs).map Pair.name ↔
      name ∈ rows.map Pair.name ∨ name ∈ pairs.map Pair.name := by
  unfold addPairs
  induction pairs generalizing rows with
  | nil => simp
  | cons p pairs ih =>
    rw [List.foldl_cons, ih, mem_names_addPair, List.map_cons, List.mem_cons, or_assoc]

theorem mem_of_mem_addPairs {rows pairs : List Pair} {p : Pair} (h : p ∈ addPairs rows pairs) :
    p ∈ rows ∨ p ∈ pairs := by
  unfold addPairs at h
  induction pairs generalizing rows with
  | nil => exact .inl h
  | cons q pairs ih =>
    rcases ih h with hp | hp
    · rcases mem_of_mem_addPair hp with hr | rfl
      · exact .inl hr
      · exact .inr (List.mem_cons_self ..)
    · exact .inr (List.mem_cons_of_mem q hp)

theorem nodup_addPairs {rows : List Pair} (pairs : List Pair) (h : (rows.map Pair.name).Nodup) :
    ((addPairs rows pairs).map Pair.name).Nodup := by
  unfold addPairs
  induction pairs generalizing rows with
  | nil => exact h
  | cons p pairs ih => exact ih (nodup_addPair h)

/-! ## Stores that keep the first pair of each name -/

/-- The states of the store hold rows. The store lists them in some order, and it takes pairs in by
adding them to the rows. -/
structure Store.KeepsFirst {σ : Type} (store : Store σ) (Holds : σ → List Pair → Prop) : Prop where
  list : ∀ s rows, Holds s rows → ∃ found, store.list s = (.ok found, s) ∧ found.Perm rows
  upsert : ∀ s rows pairs, Holds s rows →
    ∃ s', store.upsert pairs s = (.ok (), s') ∧ Holds s' (addPairs rows pairs)

/-! ## The store in a file -/

namespace DatabaseFile

/-- The table in the file has these rows. -/
def Holds (file : DatabaseFile) (rows : List Pair) : Prop := file = .table rows

theorem keepsFirst : store.KeepsFirst Holds where
  list := by
    rintro _ rows rfl
    exact ⟨rows, rfl, .refl rows⟩
  upsert := by
    rintro _ rows pairs rfl
    cases pairs with
    | nil => exact ⟨_, rfl, rfl⟩
    | cons p pairs => exact ⟨_, rfl, rfl⟩

end DatabaseFile

/-! ## The store in memory -/

namespace Memory

theorem mem_of_mem_insert {p q : Pair} {m : Memory} (h : q ∈ insert p m) : q = p ∨ q ∈ m := by
  induction m with
  | nil => exact .inl (List.mem_singleton.mp h)
  | cons row rows ih =>
    rw [insert] at h
    split at h
    · exact .inr h
    · split at h
      · exact List.mem_cons.mp h
      · rcases List.mem_cons.mp h with rfl | h
        · exact .inr (List.mem_cons_self ..)
        · rcases ih h with rfl | hm
          · exact .inl rfl
          · exact .inr (List.mem_cons_of_mem row hm)

theorem insert_before {p : Pair} {m : Memory} (h : m.Pairwise Pair.Before) :
    (insert p m).Pairwise Pair.Before := by
  induction m with
  | nil => exact List.pairwise_singleton _ p
  | cons row rows ih =>
    obtain ⟨hrow, hrows⟩ := List.pairwise_cons.mp h
    rw [insert]
    split
    · exact h
    · rename_i hne
      split
      · rename_i hle
        have hp : p.Before row := Pair.before_of_le (bytesLe_iff.mp hle) (Ne.symm hne)
        refine List.pairwise_cons.mpr ⟨?_, h⟩
        intro q hq
        rcases List.mem_cons.mp hq with rfl | hq
        · exact hp
        · exact Pair.before_trans hp (hrow q hq)
      · rename_i hle
        refine List.pairwise_cons.mpr ⟨?_, ih hrows⟩
        intro q hq
        rcases mem_of_mem_insert hq with rfl | hq
        · have hle' : utf8 row.name ≤ utf8 q.name :=
            (List.le_total _ _).resolve_right fun h => hle (bytesLe_iff.mpr h)
          exact Pair.before_of_le hle' hne
        · exact hrow q hq

/-- In an ordered list a name that comes before the first one is not there, so the search may stop
at it. -/
theorem insert_perm {p : Pair} {m : Memory} (h : m.Pairwise Pair.Before) :
    (insert p m).Perm (addPair m p) := by
  induction m with
  | nil => exact .refl _
  | cons row rows ih =>
    obtain ⟨hrow, hrows⟩ := List.pairwise_cons.mp h
    rw [insert]
    split
    · rename_i heq
      have hm : p.name ∈ (row :: rows).map Pair.name := by
        rw [← heq]
        exact List.mem_cons_self ..
      rw [addPair_of_mem hm]
    · rename_i hne
      split
      · rename_i hle
        have hp : p.Before row := Pair.before_of_le (bytesLe_iff.mp hle) (Ne.symm hne)
        have hm : p.name ∉ (row :: rows).map Pair.name := by
          intro hmem
          obtain ⟨q, hq, hname⟩ := List.mem_map.mp hmem
          rcases List.mem_cons.mp hq with rfl | hq
          · exact hp.ne hname.symm
          · exact (Pair.before_trans hp (hrow q hq)).ne hname.symm
        rw [addPair_of_not_mem hm]
        exact (List.perm_append_singleton p (row :: rows)).symm
      · rw [addPair_cons_ne hne]
        exact (ih hrows).cons row

/-- The store has these rows, in the order of their names. -/
def Holds (m : Memory) (rows : List Pair) : Prop := m.Pairwise Pair.Before ∧ m.Perm rows

theorem holds_empty : empty.Holds [] := ⟨.nil, .refl _⟩

theorem holds_insert {p : Pair} {m : Memory} {rows : List Pair} (h : m.Holds rows) :
    (insert p m).Holds (addPair rows p) :=
  ⟨insert_before h.1, (insert_perm h.1).trans (addPair_perm h.2)⟩

theorem holds_foldl_insert {m : Memory} {rows : List Pair} (pairs : List Pair) (h : m.Holds rows) :
    (pairs.foldl (fun rows p => insert p rows) m).Holds (addPairs rows pairs) := by
  unfold addPairs
  induction pairs generalizing m rows with
  | nil => exact h
  | cons p pairs ih => exact ih (holds_insert h)

theorem keepsFirst : store.KeepsFirst Holds where
  list m _ h := ⟨m, rfl, h.2⟩
  upsert _ _ pairs h := ⟨_, rfl, holds_foldl_insert pairs h⟩

end Memory

end ColumnMask
