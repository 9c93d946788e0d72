-- Stores that keep the first pair of each name, told by their rows alone: what a step
-- answers and which rows it leaves. Two such stores with the same rows answer alike.
import ColumnMask.Proofs.Listing

namespace ColumnMask

/-- The answer with the pairs that a store listed in order. -/
def Answer.sorted : Answer → Answer
  | .listed (.ok pairs) => .listed (.ok (sortPairs pairs))
  | answer => answer

namespace Step

/-- What a step answers on rows. -/
def answerOn (quoting : Quoting) (rows : List Pair) : Step → Answer
  | .anonymize request => .response (request.answer quoting)
  | .mappings => .mappings (.ok (sortPairs rows))
  | .list => .listed (.ok (sortPairs rows))
  | .upsert _ => .upserted (.ok ())

/-- The rows after a step. -/
def rowsAfter (quoting : Quoting) (rows : List Pair) : Step → List Pair
  | .anonymize request => addPairs rows (answeredPairs (request.answer quoting))
  | .mappings => rows
  | .list => rows
  | .upsert pairs => addPairs rows pairs

end Step

namespace Store.KeepsFirst

variable {σ : Type} {store : Store σ} {Holds : σ → List Pair → Prop} {s : σ} {rows : List Pair}

theorem mappings (h : store.KeepsFirst Holds) (hs : Holds s rows) :
    store.mappings s = (.ok (sortPairs rows), s) := by
  obtain ⟨found, hlist, hperm⟩ := h.list s rows hs
  unfold Store.mappings
  rw [hlist]
  show (Except.ok (sortPairs found), s) = _
  rw [sortPairs_eq_of_perm hperm]

theorem step (h : store.KeepsFirst Holds) (quoting : Quoting) (step : Step) (hs : Holds s rows) :
    (store.step quoting step s).1.sorted = step.answerOn quoting rows ∧
      Holds (store.step quoting step s).2 (step.rowsAfter quoting rows) := by
  cases step with
  | anonymize request =>
    obtain ⟨s', ha, hs'⟩ := h.anonymize quoting request hs
    rw [Store.step_anonymize, ha]
    exact ⟨rfl, hs'⟩
  | mappings =>
    rw [Store.step_mappings, h.mappings hs]
    exact ⟨rfl, hs⟩
  | list =>
    obtain ⟨found, hlist, hperm⟩ := h.list s rows hs
    rw [Store.step_list, hlist]
    refine ⟨?_, hs⟩
    show Answer.listed (.ok (sortPairs found)) = _
    rw [sortPairs_eq_of_perm hperm]
    rfl
  | upsert pairs =>
    obtain ⟨s', hu, hs'⟩ := h.upsert s rows pairs hs
    rw [Store.step_upsert, hu]
    exact ⟨rfl, hs'⟩

end Store.KeepsFirst

end ColumnMask
