-- A set of columns over its calls, from the empty set on, and the mapping that is made of it.
-- Every answer is told by the names that were inserted before. At the end the set has the names
-- that were inserted, each once, where it was inserted first, and the mapping has their digests in
-- the same order.
import ColumnMask.Proofs.FirstSeen
import Mathlib.Data.Finset.Card

namespace ColumnMask

namespace ColumnSet

/-! ## Calls -/

/-- A call on a set of columns. -/
inductive Call where
  | insert (name : String)
  | contains (name : String)

/-- What a call answers, and the set as it is afterwards. -/
def step (s : ColumnSet) : Call → Bool × ColumnSet
  | .insert name => (s.isNew name, s.insert name)
  | .contains name => (s.contains name, s)

/-- What calls answer, one after the other, and the set as it is after the last one. -/
def run (s : ColumnSet) : List Call → List Bool × ColumnSet
  | [] => ([], s)
  | call :: calls =>
    let (answer, s) := s.step call
    let (answers, s) := s.run calls
    (answer :: answers, s)

/-- The names that calls insert, as often as they do. -/
def inserted : List Call → List String
  | [] => []
  | .insert name :: calls => name :: inserted calls
  | .contains _ :: calls => inserted calls

/-- The right answer to a call, by the names that were inserted before it. -/
def Call.answer (seen : List String) : Call → Bool
  | .insert name => name ∉ seen
  | .contains name => name ∈ seen

/-! ## Answers -/

theorem run_cons (s : ColumnSet) (call : Call) (calls : List Call) :
    s.run (call :: calls) =
      ((s.step call).1 :: ((s.step call).2.run calls).1, ((s.step call).2.run calls).2) := rfl

theorem run_append (s : ColumnSet) (before calls : List Call) :
    s.run (before ++ calls) =
      ((s.run before).1 ++ ((s.run before).2.run calls).1, ((s.run before).2.run calls).2) := by
  induction before generalizing s with
  | nil => rfl
  | cons call before ih => rw [List.cons_append, run_cons, run_cons, ih, List.cons_append]

theorem length_answers (s : ColumnSet) (calls : List Call) :
    (s.run calls).1.length = calls.length := by
  induction calls generalizing s with
  | nil => rfl
  | cons call calls ih => rw [run_cons, List.length_cons, List.length_cons, ih]

theorem foldl_inserted_step (s : ColumnSet) (call : Call) (calls : List Call) :
    (inserted calls).foldl insert (s.step call).2 = (inserted (call :: calls)).foldl insert s := by
  cases call <;> rfl

/-- Only the inserted names count for the set. -/
theorem set_run (s : ColumnSet) (calls : List Call) :
    (s.run calls).2 = (inserted calls).foldl insert s := by
  induction calls generalizing s with
  | nil => rfl
  | cons call calls ih => rw [run_cons, ih, foldl_inserted_step]

theorem set_run_empty (calls : List Call) : (empty.run calls).2 = ofList (inserted calls) :=
  set_run empty calls

theorem step_ofList (seen : List String) (call : Call) :
    ((ofList seen).step call).1 = call.answer seen := by
  have hcontains (name : String) : (ofList seen).contains name = decide (name ∈ seen) :=
    decide_eq_decide.mpr (mem_ofList seen name)
  cases call with
  | insert name =>
    rw [step, isNew, hcontains, Call.answer, decide_not]
  | contains name => exact hcontains name

/-- A call is answered by the names that were inserted before it. -/
theorem answer_run (before after : List Call) (call : Call) :
    (empty.run (before ++ call :: after)).1[before.length]? =
      some (call.answer (inserted before)) := by
  have hlength : before.length = (empty.run before).1.length := (length_answers empty before).symm
  rw [run_append, hlength, List.getElem?_append_right (Nat.le_refl _), Nat.sub_self, run_cons,
    List.getElem?_cons_zero, set_run_empty, step_ofList]

/-- A name that is inserted again is not new. -/
example : (empty.run [.insert "b", .insert "a", .insert "b", .contains "c"]).1 =
    [true, true, false, false] := by decide

/-! ## Order -/

theorem ofList_concat (names : List String) (name : String) :
    ofList (names ++ [name]) = (ofList names).insert name := by
  unfold ofList
  rw [List.foldl_append, List.foldl_cons, List.foldl_nil]

/-- The names of the set stand in the order of their first places in the list. -/
theorem pairwise_idxOf_ofList (names : List String) :
    (ofList names).names.Pairwise fun a b => names.idxOf a < names.idxOf b := by
  -- The last name of the list adds to the set only if it is new, and then it comes last in both.
  induction names using List.reverseRecOn with
  | nil => exact .nil
  | append_singleton names name ih =>
    have hkept {a : String} (ha : a ∈ (ofList names).names) :
        (names ++ [name]).idxOf a = names.idxOf a :=
      List.idxOf_append_of_mem ((mem_ofList names a).mp ha)
    have hold : (ofList names).names.Pairwise fun a b =>
        (names ++ [name]).idxOf a < (names ++ [name]).idxOf b := by
      apply ih.imp_of_mem
      intro a b ha hb hlt
      rwa [hkept ha, hkept hb]
    rw [ofList_concat, names_insert]
    split
    · exact hold
    · rename_i hnew
      rw [mem_ofList] at hnew
      rw [List.pairwise_append]
      refine ⟨hold, List.pairwise_singleton _ _, ?_⟩
      intro a ha b hb
      rw [List.mem_singleton.mp hb, hkept ha, List.idxOf_append_of_notMem hnew,
        List.idxOf_cons_self, Nat.add_zero]
      exact List.idxOf_lt_length_of_mem ((mem_ofList names a).mp ha)

theorem size_ofList (names : List String) : (ofList names).size = names.toFinset.card := by
  have hsame : (ofList names).names.toFinset = names.toFinset := by
    ext name
    rw [List.mem_toFinset, List.mem_toFinset, mem_ofList]
  rw [← hsame, List.toFinset_card_of_nodup (ofList names).distinct]
  rfl

end ColumnSet

/-! ## Calls and their mapping -/

/-- What calls on an empty set come to: their answers, the set after them, and its mapping. -/
structure KeepsFirstOrder (calls : List ColumnSet.Call) (answers : List Bool) (s : ColumnSet)
    (m : Mapping) : Prop where
  /-- Each call is answered by the names that were inserted before it. -/
  answer : ∀ {before after : List ColumnSet.Call} {call : ColumnSet.Call},
    calls = before ++ call :: after →
      answers[before.length]? = some (call.answer (ColumnSet.inserted before))
  length_answers : answers.length = calls.length
  /-- The set has the names that were inserted, each once, by their first insertions. -/
  mem_iff : ∀ name, name ∈ s.names ↔ name ∈ ColumnSet.inserted calls
  distinct : s.names.Nodup
  order : s.names.Pairwise fun a b =>
    (ColumnSet.inserted calls).idxOf a < (ColumnSet.inserted calls).idxOf b
  size : s.size = (ColumnSet.inserted calls).toFinset.card
  /-- The mapping has one pair for each name of the set, in the order of the set. -/
  names : m.pairs.map Pair.name = s.names
  size_mapping : m.size = s.size
  get? : ∀ name, m.get? name =
    if name ∈ ColumnSet.inserted calls then some (columnDigest name) else none
  /-- The pairs are the names with the digests that a search for them finds. -/
  mem_pairs : ∀ p : Pair, p ∈ m.pairs ↔ m.get? p.name = some p.digest
  distinct_names : (m.pairs.map Pair.name).Nodup

theorem calls_keep_first_order (calls : List ColumnSet.Call) :
    KeepsFirstOrder calls (ColumnSet.empty.run calls).1 (ColumnSet.empty.run calls).2
      (Mapping.build columnDigest (ColumnSet.empty.run calls).2) := by
  rw [ColumnSet.set_run_empty]
  have hmem := ColumnSet.mem_ofList (ColumnSet.inserted calls)
  refine {
    answer := ?_
    length_answers := ColumnSet.length_answers _ calls
    mem_iff := hmem
    distinct := (ColumnSet.ofList _).distinct
    order := ColumnSet.pairwise_idxOf_ofList _
    size := ColumnSet.size_ofList _
    names := Mapping.names_build _ _
    size_mapping := Mapping.size_build _ _
    get? := ?_
    mem_pairs := fun _ => Mapping.get?_eq_some_iff.symm
    distinct_names := (Mapping.build _ _).distinct }
  · rintro before after call rfl
    exact ColumnSet.answer_run before after call
  · intro name
    rw [Mapping.get?_build_eq]
    simp only [hmem]

end ColumnMask
