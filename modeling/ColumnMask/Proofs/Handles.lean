-- Two handles on one file that nothing else writes. They answer as one store in memory
-- would if it took the steps of both, and opening or closing a handle moves no pair.
import ColumnMask.Proofs.OnRows

namespace ColumnMask

/-! ## The pairs of a file -/

namespace DatabaseFile

/-- The pairs in a file, none if it has no table. -/
def pairs : DatabaseFile → List Pair
  | .table rows => rows
  | .missing | .blank | .foreign => []

/-- Opening a file neither adds nor drops a pair. -/
theorem pairs_openTable (file : DatabaseFile) : file.openTable.2.pairs = file.pairs := by
  cases file <;> rfl

theorem Holds.openTable_eq {file : DatabaseFile} {rows : List Pair} (h : file.Holds rows) :
    file.openTable = (.ok (), .table rows) := by
  obtain rfl : file = .table rows := h
  rfl

end DatabaseFile

/-! ## One store for two handles -/

/-- A store in memory, and the quoting of each handle that is open on it. -/
structure SharedMemory where
  memory : Memory := .empty
  handles : Handle → Option Quoting := fun _ => none

namespace SharedMemory

/-- The same with one handle opened or closed. -/
def setHandle (t : SharedMemory) (h : Handle) (quoting : Option Quoting) : SharedMemory :=
  { t with handles := fun k => if k = h then quoting else t.handles k }

/-- Takes a step. Only a step on an open handle reaches the store, with the quoting that the handle
was opened with. -/
def step (t : SharedMemory) : FileStep → FileAnswer × SharedMemory
  | .openHandle h quoting => (.done, t.setHandle h (some quoting))
  | .close h => (.done, t.setHandle h none)
  | .use h step =>
    match t.handles h with
    | none => (.closed, t)
    | some quoting =>
      let (answer, memory) := Memory.store.step quoting step t.memory
      (.answer answer, { t with memory })
  | .write _ => (.done, t)

theorem step_use_closed {t : SharedMemory} {h : Handle} (hq : t.handles h = none) (step : Step) :
    t.step (.use h step) = (.closed, t) := by
  simp only [SharedMemory.step, hq]

theorem step_use_open {t : SharedMemory} {h : Handle} {quoting : Quoting}
    (hq : t.handles h = some quoting) (step : Step) : t.step (.use h step) =
      (.answer (Memory.store.step quoting step t.memory).1,
        { t with memory := (Memory.store.step quoting step t.memory).2 }) := by
  simp only [SharedMemory.step, hq]

/-- Takes steps one after the other. -/
def run (t : SharedMemory) : List FileStep → List FileAnswer × SharedMemory
  | [] => ([], t)
  | step :: steps =>
    let (answer, t) := t.step step
    let (answers, t) := t.run steps
    (answer :: answers, t)

theorem run_cons (t : SharedMemory) (step : FileStep) (steps : List FileStep) :
    t.run (step :: steps) =
      ((t.step step).1 :: ((t.step step).2.run steps).1, ((t.step step).2.run steps).2) := rfl

end SharedMemory

/-! ## The same answers -/

/-- The answer with the pairs that a store listed in order. -/
def FileAnswer.sorted : FileAnswer → FileAnswer
  | .answer a => .answer a.sorted
  | other => other

/-- The file opens to the rows of the store, and has them while a handle is open. -/
structure Mirrors (s : SharedFile) (t : SharedMemory) (rows : List Pair) : Prop where
  handles : s.handles = t.handles
  memory : t.memory.Holds rows
  opens : s.file.openTable = (.ok (), .table rows)
  holds : ∀ h, (s.handles h).isSome → s.file.Holds rows

namespace Mirrors

variable {s : SharedFile} {t : SharedMemory} {rows : List Pair}

theorem start : Mirrors {} {} [] where
  handles := rfl
  memory := Memory.holds_empty
  opens := rfl
  holds h := by
    intro hopen
    cases hopen

theorem openHandle (m : Mirrors s t rows) (h : Handle) (quoting : Quoting) :
    (s.step (.openHandle h quoting)).1 = .done ∧
      Mirrors (s.step (.openHandle h quoting)).2 (t.setHandle h (some quoting)) rows := by
  unfold SharedFile.step
  simp only [m.opens]
  refine ⟨trivial, ?_, m.memory, rfl, fun _ _ => rfl⟩
  unfold SharedFile.setHandle SharedMemory.setHandle
  rw [m.handles]

theorem close (m : Mirrors s t rows) (h : Handle) :
    Mirrors (s.setHandle h none) (t.setHandle h none) rows where
  handles := by
    unfold SharedFile.setHandle SharedMemory.setHandle
    rw [m.handles]
  memory := m.memory
  opens := m.opens
  holds k := by
    unfold SharedFile.setHandle
    dsimp only
    split
    · intro hopen
      cases hopen
    · exact m.holds k

theorem use (m : Mirrors s t rows) (h : Handle) (step : Step) :
    (s.step (.use h step)).1.sorted = (t.step (.use h step)).1.sorted ∧
      ∃ rows', Mirrors (s.step (.use h step)).2 (t.step (.use h step)).2 rows' := by
  rcases hq : s.handles h with _ | quoting
  · rw [SharedFile.step_use_closed hq, SharedMemory.step_use_closed (m.handles ▸ hq)]
    exact ⟨rfl, rows, m⟩
  · rw [SharedFile.step_use_open hq, SharedMemory.step_use_open (m.handles ▸ hq)]
    have hfile : s.file.Holds rows := m.holds h (by rw [hq]; rfl)
    obtain ⟨hanswer, hrows⟩ := DatabaseFile.keepsFirst.step quoting step hfile
    obtain ⟨hanswer', hrows'⟩ := Memory.keepsFirst.step quoting step m.memory
    refine ⟨?_, step.rowsAfter quoting rows, m.handles, hrows', ?_, fun _ _ => hrows⟩
    · exact congrArg FileAnswer.answer (hanswer.trans hanswer'.symm)
    · exact DatabaseFile.Holds.openTable_eq hrows

theorem step (m : Mirrors s t rows) {step : FileStep} (hw : ∀ text, step ≠ .write text) :
    (s.step step).1.sorted = (t.step step).1.sorted ∧
      ∃ rows', Mirrors (s.step step).2 (t.step step).2 rows' := by
  cases step with
  | openHandle h quoting =>
    obtain ⟨hdone, hm⟩ := m.openHandle h quoting
    rw [hdone]
    exact ⟨rfl, rows, hm⟩
  | close h => exact ⟨rfl, rows, m.close h⟩
  | use h step => exact m.use h step
  | write text => exact absurd rfl (hw text)

theorem run (m : Mirrors s t rows) {steps : List FileStep} (hw : ∀ text, .write text ∉ steps) :
    (s.run steps).1.map FileAnswer.sorted = (t.run steps).1.map FileAnswer.sorted ∧
      ∃ rows', Mirrors (s.run steps).2 (t.run steps).2 rows' := by
  induction steps generalizing s t rows with
  | nil => exact ⟨rfl, rows, m⟩
  | cons step steps ih =>
    have hfirst : ∀ text, step ≠ .write text :=
      fun text heq => hw text (heq ▸ List.mem_cons_self ..)
    obtain ⟨hanswer, rows', m'⟩ := m.step hfirst
    obtain ⟨hanswers, hrest⟩ := ih m' fun text hmem => hw text (List.mem_cons_of_mem step hmem)
    rw [SharedFile.run_cons, SharedMemory.run_cons, List.map_cons, List.map_cons, hanswer, hanswers]
    exact ⟨rfl, hrest⟩

theorem pairs_eq (m : Mirrors s t rows) : s.file.pairs = rows := by
  rw [← s.file.pairs_openTable, m.opens]
  rfl

end Mirrors

/-- How steps on two handles of a missing file compare with the same steps on one store. -/
structure ActAsOneStore (steps : List FileStep) : Prop where
  /-- Each step is answered alike, up to the order in which the store lists pairs. -/
  answers : (SharedFile.run {} steps).1.map FileAnswer.sorted =
    (SharedMemory.run {} steps).1.map FileAnswer.sorted
  /-- The file has the pairs of the store. -/
  pairs : (SharedFile.run {} steps).2.file.pairs.Perm (SharedMemory.run {} steps).2.memory
  /-- Opening a handle, also one that was open before, succeeds and moves no pair. -/
  opening : ∀ h quoting, ((SharedFile.run {} steps).2.step (.openHandle h quoting)).1 = .done ∧
    ((SharedFile.run {} steps).2.step (.openHandle h quoting)).2.file.pairs =
      (SharedFile.run {} steps).2.file.pairs
  closing : ∀ h, ((SharedFile.run {} steps).2.step (.close h)).2.file.pairs =
    (SharedFile.run {} steps).2.file.pairs

theorem two_handles_act_as_one_store {steps : List FileStep} (h : ∀ text, .write text ∉ steps) :
    ActAsOneStore steps := by
  obtain ⟨hanswers, rows, m⟩ := Mirrors.start.run h
  refine ⟨hanswers, m.pairs_eq ▸ m.memory.2.symm, ?_, fun _ => rfl⟩
  intro handle quoting
  obtain ⟨hdone, m'⟩ := m.openHandle handle quoting
  exact ⟨hdone, m'.pairs_eq.trans m.pairs_eq.symm⟩

/-- Two handles that are opened, used and closed in turn. -/
def handlesInTurn : List FileStep :=
  [.openHandle .first .always, .use .first (.upsert [⟨"b", "1"⟩]), .use .second .list,
    .openHandle .second .asWritten, .use .second (.upsert [⟨"b", "2"⟩, ⟨"a", "3"⟩]),
    .close .first, .use .first .mappings, .openHandle .first .asWritten,
    .use .first (.anonymize ⟨some "select a from t"⟩), .use .second .list]

theorem handlesInTurn_act_as_one_store :
    (∀ text, .write text ∉ handlesInTurn) ∧ ActAsOneStore handlesInTurn := by
  have hwrites : ∀ text, .write text ∉ handlesInTurn := by
    intro text
    simp [handlesInTurn]
  exact ⟨hwrites, two_handles_act_as_one_store hwrites⟩

end ColumnMask
