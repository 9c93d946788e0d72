-- Runs of the program one after the other on one file of a directory that was empty. They
-- print what one service with a store in memory would answer, and a dry run leaves no trace.
import ColumnMask.Program.Run
import ColumnMask.Proofs.OnRows

namespace ColumnMask.Program

/-! ## Runs one after the other -/

/-- What a run starts with. -/
structure Start where
  env : String → Option String := fun _ => none
  args : List String
  input : ByteArray := .empty

/-- One run in a directory. -/
def Start.run (start : Start) (d : Directory) : Outcome × Directory :=
  Program.run start.env start.args start.input d

/-- Runs in a directory, one after the other. -/
def runAll : List Start → Directory → List Outcome × Directory
  | [], d => ([], d)
  | start :: starts, d =>
    let (outcome, d) := start.run d
    let (outcomes, d) := runAll starts d
    (outcome :: outcomes, d)

theorem runAll_cons (start : Start) (starts : List Start) (d : Directory) :
    runAll (start :: starts) d =
      ((start.run d).1 :: (runAll starts (start.run d).2).1, (runAll starts (start.run d).2).2) :=
  rfl

/-! ## What a command line asks for -/

/-- What a run is asked to do, with the text itself in place of a dash. -/
inductive Ask where
  | anonymize (format : Format) (quoting : Quoting) (dryRun : Bool) (sql : String)
  | mappings (format : Format)

/-- A path that leads to a file of the directory. A path that starts with `file:` is an address. -/
structure NamesFile (path file : String) : Prop where
  notMemory : path ≠ ":memory:"
  notAddress : ¬ "file:".toList <+: path.toList
  name : fileName? path.toList = some file

/-- The text that an argument stands for: the argument itself, or for a dash all of the input. -/
inductive Start.Reads (start : Start) : String → String → Prop
  | argument {sql : String} (h : sql ≠ "-") : start.Reads sql sql
  | input {sql : String} (h : start.input = sql.toUTF8) : start.Reads "-" sql

/-- The command line is understood, is about the file, and asks for this. -/
inductive Start.Asks (start : Start) (file : String) : Ask → Prop
  | anonymize {database argument sql : String} {format : Format} {quoting : Quoting} {dryRun : Bool}
      (line : readInvocation start.env start.args =
        .ok ⟨database, format, .anonymize quoting dryRun argument⟩)
      (names : NamesFile database file) (reads : start.Reads argument sql) :
      start.Asks file (.anonymize format quoting dryRun sql)
  | mappings {database : String} {format : Format}
      (line : readInvocation start.env start.args = .ok ⟨database, format, .mappings⟩)
      (names : NamesFile database file) : start.Asks file (.mappings format)

/-! ## One service that is asked the same -/

/-- The answer of a service with a store in memory, printed. A dry run takes the answer and leaves
the store as it was. -/
def Ask.serve (m : Memory) : Ask → Outcome × Memory
  | .anonymize format quoting dryRun sql =>
    let (answer, after) := Memory.store.anonymize quoting ⟨some sql⟩ m
    (showAnswer format answer, if dryRun then m else after)
  | .mappings format =>
    match Memory.store.mappings m with
    | (.ok pairs, m) => (⟨0, showMappings format pairs, ""⟩, m)
    | (.error failure, m) => (RunError.outcome (.anonymize failure), m)

/-- What the service prints for one request after the other. -/
def serveAll : List Ask → Memory → List Outcome
  | [], _ => []
  | ask :: asked, m => (ask.serve m).1 :: serveAll asked (ask.serve m).2

/-! ## Both told by the rows -/

namespace Ask

/-- What is printed if the store has these rows. -/
def outcomeOn (rows : List Pair) : Ask → Outcome
  | .anonymize format quoting _ sql => showAnswer format (Request.answer quoting ⟨some sql⟩)
  | .mappings format => ⟨0, showMappings format (sortPairs rows), ""⟩

def rowsAfter (rows : List Pair) : Ask → List Pair
  | .anonymize _ quoting false sql =>
    addPairs rows (answeredPairs (Request.answer quoting ⟨some sql⟩))
  | .anonymize _ _ true _ => rows
  | .mappings _ => rows

theorem serve_on (ask : Ask) {m : Memory} {rows : List Pair} (hm : m.Holds rows) :
    (ask.serve m).1 = ask.outcomeOn rows ∧ (ask.serve m).2.Holds (ask.rowsAfter rows) := by
  cases ask with
  | anonymize format quoting dryRun sql =>
    obtain ⟨after, ha, hafter⟩ := Memory.keepsFirst.anonymize quoting ⟨some sql⟩ hm
    simp only [serve, ha]
    refine ⟨rfl, ?_⟩
    cases dryRun with
    | false => exact hafter
    | true => exact hm
  | mappings format =>
    simp only [serve, Memory.keepsFirst.mappings hm]
    exact ⟨rfl, hm⟩

end Ask

/-! ## One run on a file -/

theorem fromUTF8?_toUTF8 (s : String) : String.fromUTF8? s.toUTF8 = some s :=
  dif_pos s.isValidUTF8

theorem Start.Reads.resolveText_eq {start : Start} {argument sql : String}
    (h : start.Reads argument sql) : resolveText argument start.input = .ok sql := by
  cases h with
  | argument h => exact if_pos h
  | input h =>
    unfold resolveText
    rw [h, fromUTF8?_toUTF8]
    rfl

section

variable {database argument sql : String} {format : Format} {quoting : Quoting} {input : ByteArray}
  {file : DatabaseFile} {rows : List Pair}

theorem execute_dryRun (blocked : Option StoreError) (hsql : resolveText argument input = .ok sql) :
    execute ⟨database, format, .anonymize quoting true argument⟩ input blocked file =
      (showAnswer format (Request.answer quoting ⟨some sql⟩), file) := by
  obtain ⟨_, ha, _⟩ := Memory.keepsFirst.anonymize quoting ⟨some sql⟩ Memory.holds_empty
  unfold execute
  simp only [hsql, ha, if_true]

theorem execute_anonymize (hsql : resolveText argument input = .ok sql)
    (ho : file.openTable = (.ok (), .table rows)) :
    execute ⟨database, format, .anonymize quoting false argument⟩ input none file =
      (showAnswer format (Request.answer quoting ⟨some sql⟩),
        .table (addPairs rows (answeredPairs (Request.answer quoting ⟨some sql⟩)))) := by
  have hrows : (DatabaseFile.table rows).Holds rows := rfl
  obtain ⟨after, ha, rfl⟩ := DatabaseFile.keepsFirst.anonymize quoting ⟨some sql⟩ hrows
  unfold execute openUnless
  simp only [hsql, ho, ha]
  rfl

theorem execute_mappings (ho : file.openTable = (.ok (), .table rows)) :
    execute ⟨database, format, .mappings⟩ input none file =
      (⟨0, showMappings format (sortPairs rows), ""⟩, .table rows) := by
  have hm : DatabaseFile.store.mappings (.table rows) = (.ok (sortPairs rows), .table rows) :=
    DatabaseFile.keepsFirst.mappings rfl
  unfold execute openUnless
  simp only [ho, hm]

end

theorem NamesFile.run_eq {start : Start} {i : Invocation} {file : String}
    (names : NamesFile i.database file)
    (line : readInvocation start.env start.args = .ok i) (d : Directory) :
    start.run d = ((execute i start.input none (d.get file)).1,
      d.set file (execute i start.input none (d.get file)).2) := by
  unfold Start.run run
  simp only [line, if_neg names.notMemory, names.name]

/-! ## Runs in a directory with nothing else -/

/-- The directory is empty, or the file with these rows is all it has. -/
inductive Directory.Keeps (file : String) : Directory → List Pair → Prop
  | fresh : Keeps file [] []
  | written (rows : List Pair) : Keeps file [(file, .table rows)] rows

namespace Directory.Keeps

variable {file : String} {d : Directory} {rows : List Pair}

theorem opens (h : d.Keeps file rows) : (d.get file).openTable = (.ok (), .table rows) := by
  cases h with
  | fresh => rfl
  | written => simp [get, DatabaseFile.openTable]

theorem set_get (h : d.Keeps file rows) : d.set file (d.get file) = d := by
  cases h with
  | fresh => rfl
  | written => simp [get, set]

theorem set_table (h : d.Keeps file rows) (rows' : List Pair) :
    (d.set file (.table rows')).Keeps file rows' := by
  have hd : d.set file (.table rows') = [(file, .table rows')] := by
    cases h with
    | fresh => rfl
    | written => simp [set]
  rw [hd]
  exact .written rows'

end Directory.Keeps

namespace Start.Asks

variable {start : Start} {file : String} {ask : Ask} {d : Directory} {rows : List Pair}

theorem run_on (h : start.Asks file ask) (hd : d.Keeps file rows) :
    (start.run d).1 = ask.outcomeOn rows ∧ (start.run d).2.Keeps file (ask.rowsAfter rows) := by
  cases h with
  | @anonymize _ _ _ _ _ dryRun line names reads =>
    rw [names.run_eq line]
    cases dryRun with
    | false =>
      rw [execute_anonymize reads.resolveText_eq hd.opens]
      exact ⟨rfl, hd.set_table _⟩
    | true =>
      rw [execute_dryRun none reads.resolveText_eq]
      refine ⟨rfl, ?_⟩
      rw [hd.set_get]
      exact hd
  | mappings line names =>
    rw [names.run_eq line, execute_mappings hd.opens]
    exact ⟨rfl, hd.set_table rows⟩

/-- A dry run leaves the directory as it was, also without the file if it is not there. -/
theorem dryRun_leaves {format : Format} {quoting : Quoting} {sql : String}
    (h : start.Asks file (.anonymize format quoting true sql)) (hd : d.Keeps file rows) :
    (start.run d).2 = d := by
  cases h with
  | anonymize line names reads =>
    rw [names.run_eq line, execute_dryRun none reads.resolveText_eq]
    exact hd.set_get

end Start.Asks

/-- The rows carry the runs and the service from one request to the next. -/
theorem runAll_on {file : String} {starts : List Start} {asked : List Ask}
    (h : List.Forall₂ (Start.Asks · file) starts asked) {d : Directory} {m : Memory}
    {rows : List Pair} (hd : d.Keeps file rows) (hm : m.Holds rows) :
    (runAll starts d).1 = serveAll asked m ∧ ∃ rows', (runAll starts d).2.Keeps file rows' := by
  induction h generalizing d m rows with
  | nil => exact ⟨rfl, rows, hd⟩
  | @cons start ask starts asked hask _ ih =>
    obtain ⟨houtcome, hd'⟩ := hask.run_on hd
    obtain ⟨hanswer, hm'⟩ := ask.serve_on hm
    obtain ⟨houtcomes, hrest⟩ := ih hd' hm'
    rw [runAll_cons, serveAll, houtcome, hanswer, houtcomes]
    exact ⟨rfl, hrest⟩

/-- How runs in a directory that was empty compare with one service that is asked the same. -/
structure AnswerAsOneService (file : String) (starts : List Start) (asked : List Ask) : Prop where
  /-- Each run prints the answer of the service, and exits with the code that goes with it. -/
  outcomes : (runAll starts []).1 = serveAll asked Memory.empty
  /-- A dry run that comes next leaves all files as they were and makes none, so no later run shows
  it. -/
  dryRun_leaves : ∀ (start : Start) format quoting sql,
    start.Asks file (.anonymize format quoting true sql) →
      (start.run (runAll starts []).2).2 = (runAll starts []).2
  /-- It prints what the run would print if it were no dry run. -/
  dryRun_prints : ∀ (start wet : Start) format quoting sql,
    start.Asks file (.anonymize format quoting true sql) →
    wet.Asks file (.anonymize format quoting false sql) →
      (start.run (runAll starts []).2).1 = (wet.run (runAll starts []).2).1

theorem runs_answer_as_one_service {file : String} {starts : List Start} {asked : List Ask}
    (h : List.Forall₂ (Start.Asks · file) starts asked) :
    AnswerAsOneService file starts asked := by
  obtain ⟨houtcomes, rows, hd⟩ := runAll_on h .fresh Memory.holds_empty
  refine ⟨houtcomes, ?_, ?_⟩
  · intro start format quoting sql hdry
    exact hdry.dryRun_leaves hd
  · intro start wet format quoting sql hdry hwet
    rw [(hdry.run_on hd).1, (hwet.run_on hd).1]
    rfl

/-- Three runs on one file: a request, a dry run that reads the input, and a listing. -/
def threeRuns : List Start :=
  [{ args := ["anonymize", "select a from t", "--db", "m.db"] },
    { args := ["--db", "m.db", "anonymize", "--dry-run", "--quoting", "as-written", "-"],
      input := "select b from t".toUTF8 },
    { args := ["mappings", "list", "--db", "./m.db", "--format", "json"] }]

/-- What they ask for. -/
def threeAsked : List Ask :=
  [.anonymize .table .always false "select a from t",
    .anonymize .table .asWritten true "select b from t", .mappings .json]

theorem threeRuns_answer_as_one_service :
    List.Forall₂ (Start.Asks · "m.db") threeRuns threeAsked ∧
      AnswerAsOneService "m.db" threeRuns threeAsked := by
  have plain : NamesFile "m.db" "m.db" := ⟨by decide, by simp, by simp [fileName?]⟩
  have dotted : NamesFile "./m.db" "m.db" := ⟨by decide, by simp, by simp [fileName?]⟩
  have first : threeRuns[0].Asks "m.db" threeAsked[0] :=
    .anonymize rfl plain (.argument (by decide))
  have second : threeRuns[1].Asks "m.db" threeAsked[1] := .anonymize rfl plain (.input rfl)
  have third : threeRuns[2].Asks "m.db" threeAsked[2] := .mappings rfl dotted
  have h : List.Forall₂ (Start.Asks · "m.db") threeRuns threeAsked :=
    .cons first (.cons second (.cons third .nil))
  exact ⟨h, runs_answer_as_one_service h⟩

end ColumnMask.Program
