-- What a store lists after batches of pairs were put into it: of each name the first pair
-- that came with it. How the pairs were cut into batches makes no difference.
import ColumnMask.Proofs.FirstWrite
import ColumnMask.Service.Session

namespace ColumnMask

/-! ## The first pair of a name -/

/-- The pair stands in the list, and no pair before it has its name. -/
def IsFirst (pairs : List Pair) (p : Pair) : Prop :=
  ∃ before after, pairs = before ++ p :: after ∧ p.name ∉ before.map Pair.name

theorem not_isFirst_nil {p : Pair} : ¬ IsFirst [] p := by
  rintro ⟨before, after, heq, _⟩
  cases before <;> cases heq

theorem isFirst_cons {p q : Pair} {pairs : List Pair} :
    IsFirst (q :: pairs) p ↔ p = q ∨ p.name ≠ q.name ∧ IsFirst pairs p := by
  constructor
  · rintro ⟨before, after, heq, hnew⟩
    cases before with
    | nil => exact .inl (List.cons.inj heq).1.symm
    | cons b before =>
      obtain ⟨rfl, rfl⟩ := List.cons.inj heq
      rw [List.map_cons, List.mem_cons, not_or] at hnew
      exact .inr ⟨hnew.1, before, after, rfl, hnew.2⟩
  · rintro (rfl | ⟨hne, before, after, rfl, hnew⟩)
    · exact ⟨[], pairs, rfl, List.not_mem_nil⟩
    · refine ⟨q :: before, after, rfl, ?_⟩
      rw [List.map_cons, List.mem_cons, not_or]
      exact ⟨hne, hnew⟩

/-- Rows keep what they have, and of each new name they get the first pair. -/
theorem mem_addPairs_iff {rows pairs : List Pair} {p : Pair} : p ∈ addPairs rows pairs ↔
    p ∈ rows ∨ p.name ∉ rows.map Pair.name ∧ IsFirst pairs p := by
  induction pairs generalizing rows with
  | nil =>
    have hnil : addPairs rows [] = rows := rfl
    rw [hnil, iff_self_or]
    exact fun h => absurd h.2 not_isFirst_nil
  | cons q pairs ih =>
    have hcons : addPairs rows (q :: pairs) = addPairs (addPair rows q) pairs := rfl
    rw [hcons, ih, isFirst_cons, mem_names_addPair, not_or]
    by_cases hq : q.name ∈ rows.map Pair.name
    · -- the pair is passed over, and a pair of a new name is not it
      rw [addPair_of_mem hq]
      refine or_congr_right ⟨?_, ?_⟩
      · rintro ⟨⟨hp, hne⟩, hfirst⟩
        exact ⟨hp, .inr ⟨hne, hfirst⟩⟩
      · rintro ⟨hp, rfl | ⟨hne, hfirst⟩⟩
        · exact absurd hq hp
        · exact ⟨⟨hp, hne⟩, hfirst⟩
    · rw [addPair_of_not_mem hq, List.mem_append, List.mem_singleton, or_assoc]
      refine or_congr_right ⟨?_, ?_⟩
      · rintro (rfl | ⟨⟨hp, hne⟩, hfirst⟩)
        · exact ⟨hq, .inl rfl⟩
        · exact ⟨hp, .inr ⟨hne, hfirst⟩⟩
      · rintro ⟨hp, rfl | ⟨hne, hfirst⟩⟩
        · exact .inl rfl
        · exact .inr ⟨⟨hp, hne⟩, hfirst⟩

/-! ## Batches put into a store -/

/-- The pairs are those that the batches, one after the other, have first of each name. -/
structure FirstPairs (batches : List (List Pair)) (found : List Pair) : Prop where
  /-- There is a pair for each name of the batches and for no other. -/
  names : ∀ name, name ∈ found.map Pair.name ↔ ∃ batch ∈ batches, name ∈ batch.map Pair.name
  once : (found.map Pair.name).Nodup
  first : ∀ p, p ∈ found ↔ IsFirst batches.flatten p

theorem firstPairs_addPairs (batches : List (List Pair)) :
    FirstPairs batches (addPairs [] batches.flatten) where
  names name := by
    rw [mem_names_addPairs, List.map_flatten, ← List.flatMap_def, List.mem_flatMap]
    exact or_iff_right List.not_mem_nil
  once := nodup_addPairs _ List.nodup_nil
  first p := by
    rw [mem_addPairs_iff]
    simp

theorem FirstPairs.of_perm {batches : List (List Pair)} {found found' : List Pair}
    (h : FirstPairs batches found) (hperm : found'.Perm found) : FirstPairs batches found' where
  names name := by rw [(hperm.map Pair.name).mem_iff, h.names]
  once := (hperm.map Pair.name).nodup_iff.mpr h.once
  first p := by rw [hperm.mem_iff, h.first]

/-- A store that is sent batches and then asked for its pairs lists the rows after all of them were
added. -/
theorem Store.KeepsFirst.list_upserts {σ : Type} {store : Store σ} {Holds : σ → List Pair → Prop}
    (h : store.KeepsFirst Holds) (quoting : Quoting) (batches : List (List Pair)) {s : σ}
    {rows : List Pair} (hs : Holds s rows) : ∃ found,
      (store.run quoting (batches.map .upsert ++ [.list]) s).1 =
        batches.map (fun _ => .upserted (.ok ())) ++ [.listed (.ok found)] ∧
      found.Perm (addPairs rows batches.flatten) := by
  induction batches generalizing s rows with
  | nil =>
    obtain ⟨found, hlist, hperm⟩ := h.list s rows hs
    refine ⟨found, ?_, hperm⟩
    rw [List.map_nil, List.nil_append, Store.run_cons, Store.step_list, hlist]
    rfl
  | cons batch batches ih =>
    obtain ⟨t, hupsert, ht⟩ := h.upsert s rows batch hs
    obtain ⟨found, hrun, hperm⟩ := ih ht
    refine ⟨found, ?_, ?_⟩
    · rw [List.map_cons, List.cons_append, Store.run_cons, Store.step_upsert, hupsert, hrun]
      rfl
    · rw [List.flatten_cons, addPairs_append]
      exact hperm

/-- Both stores, empty at first, take in all batches. After that each lists the first pair of every
name, so the two list the same pairs. -/
theorem stores_list_the_first_pairs (quoting : Quoting) (batches : List (List Pair)) :
    ∃ inMemory inFile,
      (Memory.store.run quoting (batches.map .upsert ++ [.list]) Memory.empty).1 =
        batches.map (fun _ => .upserted (.ok ())) ++ [.listed (.ok inMemory)] ∧
      (DatabaseFile.store.run quoting (batches.map .upsert ++ [.list])
          DatabaseFile.missing.openTable.2).1 =
        batches.map (fun _ => .upserted (.ok ())) ++ [.listed (.ok inFile)] ∧
      FirstPairs batches inMemory ∧ FirstPairs batches inFile ∧ inMemory.Perm inFile := by
  have hopened : DatabaseFile.missing.openTable.2.Holds [] := rfl
  obtain ⟨inMemory, hmemory, hperm⟩ := Memory.keepsFirst.list_upserts quoting batches
    Memory.holds_empty
  obtain ⟨inFile, hfile, hperm'⟩ := DatabaseFile.keepsFirst.list_upserts quoting batches hopened
  have hfirst := firstPairs_addPairs batches
  exact ⟨inMemory, inFile, hmemory, hfile, hfirst.of_perm hperm, hfirst.of_perm hperm',
    hperm.trans hperm'.symm⟩

/-- A repeated name, an empty batch and a later digest. -/
example : (Memory.store.run .always
    ([[⟨"b", "1"⟩, ⟨"a", "1"⟩, ⟨"b", "2"⟩], [], [⟨"a", "2"⟩]].map .upsert) Memory.empty).2 =
      [⟨"a", "1"⟩, ⟨"b", "1"⟩] := by
  decide

end ColumnMask
