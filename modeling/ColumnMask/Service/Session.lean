-- A service that anonymizes requests and keeps the mappings in a store, and the steps
-- that callers take with it.
import ColumnMask.Service.Request
import ColumnMask.Store.File

namespace ColumnMask

variable {σ : Type}

/-! ## The service -/

/-- Answers a request. The store is called once, after all else succeeded, and only if there are
columns. -/
def Store.anonymize (store : Store σ) (quoting : Quoting) (request : Request) (s : σ) :
    Except Failure Response × σ :=
  if request.isEmpty then (.ok .skipped, s)
  else match ColumnMask.anonymize quoting request.text with
    | .error failure => (.error failure, s)
    | .ok result =>
      if result.columns.isEmpty then (.ok (.anonymized result), s)
      else match store.upsert result.columns s with
        | (.ok (), s) => (.ok (.anonymized result), s)
        | (.error e, s) => (.error (.store e), s)

/-- All pairs of the store, sorted. -/
def Store.mappings (store : Store σ) (s : σ) : Except Failure (List Pair) × σ :=
  match store.list s with
  | (.ok pairs, s) => (.ok (sortPairs pairs), s)
  | (.error e, s) => (.error (.store e), s)

/-! ## Steps -/

/-- What a caller does: it sends a request or asks for the mappings, or goes to the store itself. -/
inductive Step where
  | anonymize (request : Request)
  | mappings
  | list
  | upsert (pairs : List Pair)

/-- What comes back. -/
inductive Answer where
  | response (answer : Except Failure Response)
  | mappings (answer : Except Failure (List Pair))
  | listed (answer : Except StoreError (List Pair))
  | upserted (answer : Except StoreError Unit)

/-- Takes a step. -/
def Store.step (store : Store σ) (quoting : Quoting) : Step → σ → Answer × σ
  | .anonymize request, s =>
    let (answer, s) := store.anonymize quoting request s
    (.response answer, s)
  | .mappings, s =>
    let (answer, s) := store.mappings s
    (.mappings answer, s)
  | .list, s =>
    let (answer, s) := store.list s
    (.listed answer, s)
  | .upsert pairs, s =>
    let (answer, s) := store.upsert pairs s
    (.upserted answer, s)

section

variable (store : Store σ) (quoting : Quoting) (s : σ)

theorem Store.step_anonymize (request : Request) : store.step quoting (.anonymize request) s =
    (.response (store.anonymize quoting request s).1, (store.anonymize quoting request s).2) :=
  rfl

theorem Store.step_mappings :
    store.step quoting .mappings s = (.mappings (store.mappings s).1, (store.mappings s).2) :=
  rfl

theorem Store.step_list :
    store.step quoting .list s = (.listed (store.list s).1, (store.list s).2) :=
  rfl

theorem Store.step_upsert (pairs : List Pair) : store.step quoting (.upsert pairs) s =
    (.upserted (store.upsert pairs s).1, (store.upsert pairs s).2) :=
  rfl

end

/-- Takes steps one after the other. -/
def Store.run (store : Store σ) (quoting : Quoting) : List Step → σ → List Answer × σ
  | [], s => ([], s)
  | step :: steps, s =>
    let (answer, s) := store.step quoting step s
    let (answers, s) := store.run quoting steps s
    (answer :: answers, s)

theorem Store.run_nil (store : Store σ) (quoting : Quoting) (s : σ) :
    store.run quoting [] s = ([], s) := rfl

theorem Store.run_cons (store : Store σ) (quoting : Quoting) (step : Step) (steps : List Step)
    (s : σ) : store.run quoting (step :: steps) s =
      ((store.step quoting step s).1 :: (store.run quoting steps (store.step quoting step s).2).1,
        (store.run quoting steps (store.step quoting step s).2).2) := rfl

theorem Store.run_append (store : Store σ) (quoting : Quoting) (before after : List Step) (s : σ) :
    store.run quoting (before ++ after) s =
      ((store.run quoting before s).1 ++ (store.run quoting after (store.run quoting before s).2).1,
        (store.run quoting after (store.run quoting before s).2).2) := by
  induction before generalizing s with
  | nil => rfl
  | cons step before ih => rw [List.cons_append, run_cons, ih, run_cons, List.cons_append]

/-! ## Two handles on one file -/

/-- One of two handles on a file. -/
inductive Handle where
  | first | second
  deriving DecidableEq, Repr

/-- A file and the quoting of each handle that is open on it. -/
structure SharedFile where
  file : DatabaseFile := .missing
  handles : Handle → Option Quoting := fun _ => none

/-- What happens to a file and its handles. -/
inductive FileStep where
  | openHandle (h : Handle) (quoting : Quoting)
  | close (h : Handle)
  | use (h : Handle) (step : Step)
  /-- Something else writes the file. -/
  | write (text : String)

inductive FileAnswer where
  | done
  | failed (e : StoreError)
  | closed
  | answer (a : Answer)

namespace SharedFile

/-- The same with one handle opened or closed. -/
def setHandle (s : SharedFile) (h : Handle) (quoting : Option Quoting) : SharedFile :=
  { s with handles := fun k => if k = h then quoting else s.handles k }

/-- Takes a step. A handle that cannot be opened stays as it was. -/
def step (s : SharedFile) : FileStep → FileAnswer × SharedFile
  | .openHandle h quoting =>
    match s.file.openTable with
    | (.ok (), file) => (.done, { s with file }.setHandle h (some quoting))
    | (.error e, file) => (.failed e, { s with file })
  | .close h => (.done, s.setHandle h none)
  | .use h step =>
    match s.handles h with
    | none => (.closed, s)
    | some quoting =>
      let (answer, file) := DatabaseFile.store.step quoting step s.file
      (.answer answer, { s with file })
  | .write text => (.done, { s with file := .ofText text })

theorem step_use_closed {s : SharedFile} {h : Handle} (hq : s.handles h = none) (step : Step) :
    s.step (.use h step) = (.closed, s) := by
  simp only [SharedFile.step, hq]

theorem step_use_open {s : SharedFile} {h : Handle} {quoting : Quoting}
    (hq : s.handles h = some quoting) (step : Step) : s.step (.use h step) =
      (.answer (DatabaseFile.store.step quoting step s.file).1,
        { s with file := (DatabaseFile.store.step quoting step s.file).2 }) := by
  simp only [SharedFile.step, hq]

/-- Takes steps one after the other. -/
def run (s : SharedFile) : List FileStep → List FileAnswer × SharedFile
  | [] => ([], s)
  | step :: steps =>
    let (answer, s) := s.step step
    let (answers, s) := s.run steps
    (answer :: answers, s)

theorem run_cons (s : SharedFile) (step : FileStep) (steps : List FileStep) :
    s.run (step :: steps) =
      ((s.step step).1 :: ((s.step step).2.run steps).1, ((s.step step).2.run steps).2) := rfl

end SharedFile

end ColumnMask
