-- One run in a directory with any files. What a run prints depends on what it is asked, and
-- on what comes of opening its database: the pairs in it, or why it cannot be opened. A path is
-- read as a file name throughout. One that starts with `file:` is an address, and what is proved
-- of it here is not about the program.
import ColumnMask.Proofs.CommandLine
import ColumnMask.Proofs.Handles

namespace ColumnMask.Program

/-! ## Opening a database -/

/-- What comes of opening a file: the pairs that are then in its table, or why it cannot be
opened. -/
def opening (blocked : Option StoreError) (file : DatabaseFile) : Except StoreError (List Pair) :=
  match blocked with
  | some e => .error e
  | none => file.openTable.1.map fun _ => file.pairs

theorem openTable_of_opening {blocked : Option StoreError} {file : DatabaseFile}
    {rows : List Pair} (h : opening blocked file = .ok rows) :
    blocked = none ∧ file.openTable = (.ok (), .table rows) := by
  cases blocked with
  | some e => cases h
  | none =>
    cases file with
    | foreign => cases h
    | _ =>
      cases h
      exact ⟨rfl, rfl⟩

theorem openUnless_of_failure {blocked : Option StoreError} {file : DatabaseFile} {e : StoreError}
    (h : opening blocked file = .error e) : openUnless blocked file = (.error e, file) := by
  cases blocked with
  | some e =>
    cases h
    rfl
  | none =>
    cases file with
    | foreign =>
      cases h
      rfl
    | _ => cases h

/-- What comes of opening the database that a path names. The path is meant as a file name: what an
address names is not found here. -/
def Directory.opening (d : Directory) (path : String) : Except StoreError (List Pair) :=
  if path = ":memory:" then .ok []
  else match fileName? path.toList with
    | none => .error (unreachable path)
    | some name => Program.opening none (d.get name)

/-! ## What is printed -/

/-- The command line is understood, names the path, and asks for this. The path is meant as a file
name, not as an address that starts with `file:`; `NamesFile` asks for that of a path. -/
inductive Start.AsksAt (start : Start) (path : String) : Ask → Prop
  | anonymize {argument sql : String} {format : Format} {quoting : Quoting} {dryRun : Bool}
      (line : readInvocation start.env start.args =
        .ok ⟨path, format, .anonymize quoting dryRun argument⟩)
      (reads : start.Reads argument sql) : start.AsksAt path (.anonymize format quoting dryRun sql)
  | mappings {format : Format}
      (line : readInvocation start.env start.args = .ok ⟨path, format, .mappings⟩) :
      start.AsksAt path (.mappings format)

/-- A dry run leaves its database alone. -/
def Ask.isDry : Ask → Bool
  | .anonymize _ _ dryRun _ => dryRun
  | .mappings _ => false

/-- What is printed, by what comes of opening the database. -/
def Ask.outcome (path : String) (opened : Except StoreError (List Pair)) (ask : Ask) : Outcome :=
  match opened with
  | .ok rows => ask.outcomeOn rows
  | .error e => if ask.isDry then ask.outcomeOn [] else (openError path e).outcome

/-- The command line that is carried out for what is asked. -/
def Ask.invocation (path argument : String) : Ask → Invocation
  | .anonymize format quoting dryRun _ => ⟨path, format, .anonymize quoting dryRun argument⟩
  | .mappings format => ⟨path, format, .mappings⟩

/-- The text that is asked about is the text that the argument stands for. -/
def Ask.ReadsFrom (argument : String) (input : ByteArray) : Ask → Prop
  | .anonymize _ _ _ sql => resolveText argument input = .ok sql
  | .mappings _ => True

theorem execute_outcome {ask : Ask} (path : String) {argument : String} {input : ByteArray}
    (h : ask.ReadsFrom argument input) (blocked : Option StoreError) (file : DatabaseFile) :
    (execute (ask.invocation path argument) input blocked file).1 =
      ask.outcome path (opening blocked file) := by
  unfold Ask.outcome
  rcases hopen : opening blocked file with e | rows
  · have ho := openUnless_of_failure hopen
    cases ask with
    | anonymize format quoting dryRun sql =>
      have hsql : resolveText argument input = .ok sql := h
      cases dryRun with
      | true => exact congrArg Prod.fst (execute_dryRun blocked hsql)
      | false =>
        unfold execute
        simp only [Ask.invocation, hsql, ho]
        rfl
    | mappings format =>
      unfold execute
      simp only [Ask.invocation, ho]
      rfl
  · obtain ⟨rfl, ho⟩ := openTable_of_opening hopen
    cases ask with
    | anonymize format quoting dryRun sql =>
      cases dryRun with
      | true => exact congrArg Prod.fst (execute_dryRun none h)
      | false => exact congrArg Prod.fst (execute_anonymize h ho)
    | mappings format => exact congrArg Prod.fst (execute_mappings ho)

/-- What a run prints is decided by what it is asked and what comes of opening its database. -/
theorem Start.AsksAt.run_outcome {start : Start} {path : String} {ask : Ask}
    (h : start.AsksAt path ask) (d : Directory) :
    (start.run d).1 = ask.outcome path (d.opening path) := by
  obtain ⟨argument, line, reads⟩ : ∃ argument,
      readInvocation start.env start.args = .ok (ask.invocation path argument) ∧
        ask.ReadsFrom argument start.input := by
    cases h with
    | anonymize line reads => exact ⟨_, line, reads.resolveText_eq⟩
    | mappings line => exact ⟨"", line, trivial⟩
  have hpath : (ask.invocation path argument).database = path := by cases ask <;> rfl
  have hexecute := execute_outcome path reads
  unfold Start.run Program.run Directory.opening
  simp only [line, hpath]
  by_cases hm : path = ":memory:"
  · simp only [if_pos hm]
    exact hexecute none .missing
  · simp only [if_neg hm]
    rcases fileName? path.toList with _ | name
    · exact hexecute (some (unreachable path)) .missing
    · exact hexecute none (d.get name)

theorem exitCode_failure (failure : Failure) (stdout : String) :
    (RunError.outcome (.anonymize failure) stdout).exitCode ≠ 0 := by
  show (if failure.isClientError then 2 else 1) ≠ 0
  split <;> decide

end ColumnMask.Program
