-- What a run prints in JSON, on a database file that is missing, blank, holds the table of
-- mappings, or is no database. It is the text of one value: the response, the list of pairs, or
-- the failure. Among these runs only one that cannot open its database prints nothing. A listing
-- that fails on an open database prints nothing either, but with these files there is none.
import ColumnMask.Proofs.OneRun
import ColumnMask.Proofs.TreeJson

namespace ColumnMask

/-! ## Values that are printed -/

theorem Failure.json_whole (f : Failure) : f.json.Whole := ⟨trivial, trivial, trivial⟩

theorem Pair.json_whole (p : Pair) : p.json.Whole := ⟨trivial, trivial, trivial⟩

theorem pairsJson_whole (pairs : List Pair) : (pairsJson pairs).Whole :=
  Json.wholeItems_map Pair.json_whole pairs

theorem Response.json_whole (r : Response) : r.json.Whole := by
  cases r with
  | skipped => exact ⟨trivial, trivial⟩
  | anonymized result =>
    exact ⟨trivial, pairsJson_whole result.columns,
      Json.wholeItems_map Sql.Statement.json_whole result.statements, trivial⟩

namespace Program

/-- What is printed as JSON is the text of that value and of no other. -/
theorem read?_jsonLines {j : Json} (h : j.Whole) : Json.read? (jsonLines j) = some j :=
  Json.read?_pretty j h

/-! ## The value of a run -/

/-- The format that is asked for. -/
def Ask.format : Ask → Format
  | .anonymize format _ _ _ => format
  | .mappings format => format

/-- What is answered if the store has these rows: a response, a list of pairs, or a failure. -/
def Ask.resultOn (rows : List Pair) : Ask → Except Failure Json
  | .anonymize _ quoting _ sql => (Request.answer quoting ⟨some sql⟩).map Response.json
  | .mappings _ => .ok (pairsJson (sortPairs rows))

/-- What is answered, by what comes of opening the database. A database that cannot be opened is a
failure of the store. -/
def Ask.result (opened : Except StoreError (List Pair)) (ask : Ask) : Except Failure Json :=
  match opened with
  | .ok rows => ask.resultOn rows
  | .error e => if ask.isDry then ask.resultOn [] else .error (.store e)

/-- The value that tells a result: what was answered, or the code and the message of the failure. -/
def body : Except Failure Json → Json
  | .ok value => value
  | .error failure => failure.json

/-- The run prints one JSON value, and it is the one that tells the result. -/
def Start.PrintsResult (start : Start) (path : String) (ask : Ask) (d : Directory) : Prop :=
  Json.read? (start.run d).1.stdout = some (body (ask.result (d.opening path)))

theorem body_response_whole (answer : Except Failure Response) :
    (body (answer.map Response.json)).Whole := by
  cases answer with
  | ok response => exact response.json_whole
  | error failure => exact failure.json_whole

theorem Ask.body_whole (rows : List Pair) (ask : Ask) : (body (ask.resultOn rows)).Whole := by
  cases ask with
  | anonymize format quoting dryRun sql => exact body_response_whole _
  | mappings format => exact pairsJson_whole _

theorem showAnswer_json (answer : Except Failure Response) :
    (showAnswer .json answer).stdout = jsonLines (body (answer.map Response.json)) ∧
      ((showAnswer .json answer).exitCode = 0 ↔ (answer.map Response.json).isOk) := by
  cases answer with
  | ok response => exact ⟨rfl, iff_of_true rfl rfl⟩
  | error failure => exact ⟨rfl, iff_of_false (exitCode_failure failure _) Bool.false_ne_true⟩

/-- With a store that is open the value of the result is printed, and the run succeeds exactly if
the result is no failure. -/
theorem Ask.outcomeOn_json {ask : Ask} (h : ask.format = .json) (rows : List Pair) :
    (ask.outcomeOn rows).stdout = jsonLines (body (ask.resultOn rows)) ∧
      ((ask.outcomeOn rows).exitCode = 0 ↔ (ask.resultOn rows).isOk) := by
  cases ask with
  | anonymize format quoting dryRun sql =>
    obtain rfl : format = .json := h
    exact showAnswer_json _
  | mappings format =>
    obtain rfl : format = .json := h
    exact ⟨rfl, iff_of_true rfl rfl⟩

/-! ## Which runs print their result -/

/-- What a run in JSON comes to, for the kinds of files that `DatabaseFile` has. It exits with zero
exactly if its result is no failure. Its result is printed, as one value and nothing else, exactly
if it is a dry run or its database can be opened; else nothing is printed. -/
structure JsonRun (start : Start) (path : String) (ask : Ask) (d : Directory) : Prop where
  exitCode : (start.run d).1.exitCode = 0 ↔ (ask.result (d.opening path)).isOk
  printed : start.PrintsResult path ask d ↔ ask.isDry ∨ (d.opening path).isOk
  silent : ¬ (ask.isDry ∨ (d.opening path).isOk) → (start.run d).1.stdout = ""

/-- The run is answered as if its store were open. -/
theorem JsonRun.of_outcomeOn {start : Start} {path : String} {ask : Ask} {d : Directory}
    {rows : List Pair} (hf : ask.format = .json)
    (houtcome : (start.run d).1 = ask.outcomeOn rows)
    (hresult : ask.result (d.opening path) = ask.resultOn rows)
    (hanswered : ask.isDry ∨ (d.opening path).isOk) : JsonRun start path ask d := by
  obtain ⟨hstdout, hexit⟩ := Ask.outcomeOn_json hf rows
  refine ⟨?_, iff_of_true ?_ hanswered, fun hnot => absurd hanswered hnot⟩
  · rwa [houtcome, hresult]
  · unfold Start.PrintsResult
    rw [houtcome, hresult, hstdout]
    exact read?_jsonLines (ask.body_whole rows)

/-- The empty text is the text of no value. -/
theorem Start.not_printsResult {start : Start} {d : Directory} (h : (start.run d).1.stdout = "")
    (path : String) (ask : Ask) : ¬ start.PrintsResult path ask d := by
  have hnone : Json.read? "" = none := rfl
  intro hprints
  unfold PrintsResult at hprints
  rw [h] at hprints
  cases hnone.symm.trans hprints

/-- The database cannot be opened, and the run is not a dry one. -/
theorem JsonRun.of_openError {start : Start} {path : String} {ask : Ask} {d : Directory}
    {e : StoreError} (hopen : d.opening path = .error e) (hdry : ¬ ask.isDry)
    (houtcome : (start.run d).1 = (openError path e).outcome) : JsonRun start path ask d := by
  have hexit : (openError path e).outcome.exitCode ≠ 0 := Nat.one_ne_zero
  have hstdout : (start.run d).1.stdout = "" := congrArg Outcome.stdout houtcome
  have hnot : ¬ (ask.isDry ∨ (d.opening path).isOk) := by
    rw [hopen]
    rintro (h | h)
    · exact hdry h
    · cases h
  refine ⟨?_, iff_of_false (Start.not_printsResult hstdout path ask) hnot, fun _ => hstdout⟩
  unfold Ask.result
  rw [houtcome, hopen]
  simp only [if_neg hdry]
  exact iff_of_false hexit Bool.false_ne_true

theorem json_is_printed_iff_opened {start : Start} {path : String} {ask : Ask}
    (h : start.AsksAt path ask) (hf : ask.format = .json) (d : Directory) :
    JsonRun start path ask d := by
  have houtcome := h.run_outcome d
  unfold Ask.outcome at houtcome
  rcases hopen : d.opening path with e | rows
  · rw [hopen] at houtcome
    by_cases hdry : ask.isDry
    · simp only [if_pos hdry] at houtcome
      refine .of_outcomeOn hf houtcome ?_ (.inl hdry)
      unfold Ask.result
      rw [hopen]
      exact if_pos hdry
    · simp only [if_neg hdry] at houtcome
      exact .of_openError hopen hdry houtcome
  · rw [hopen] at houtcome
    refine .of_outcomeOn hf houtcome ?_ (.inr ?_)
    · rw [hopen]
      rfl
    · rw [hopen]
      rfl

/-- A request in JSON on a file that may not be there yet. -/
def jsonRequest : Start :=
  { args := ["--format", "json", "anonymize", "select a from t", "--db", "m.db"] }

theorem jsonRequest_prints_its_result :
    jsonRequest.AsksAt "m.db" (.anonymize .json .always false "select a from t") ∧
      (Ask.anonymize .json .always false "select a from t").format = .json ∧
      JsonRun jsonRequest "m.db" (.anonymize .json .always false "select a from t") [] := by
  have h : jsonRequest.AsksAt "m.db" (.anonymize .json .always false "select a from t") :=
    .anonymize rfl (.argument (by decide))
  exact ⟨h, rfl, json_is_printed_iff_opened h rfl []⟩

/-- A request and a listing in JSON on a file that is no database. -/
def requestOnForeign : Start :=
  { args := ["anonymize", "select a", "--db", "bad.db", "--format", "json"] }

def listingOnForeign : Start :=
  { args := ["mappings", "list", "--db", "bad.db", "--format", "json"] }

theorem opening_foreign :
    Directory.opening [("bad.db", .foreign)] "bad.db" = .error DatabaseFile.notADatabase := by
  simp [Directory.opening, fileName?, Directory.get, Program.opening, DatabaseFile.openTable,
    Except.map]

/-- Both fail because of the store, and neither prints a value that says so. -/
theorem no_json_from_a_foreign_file :
    (requestOnForeign.AsksAt "bad.db" (.anonymize .json .always false "select a") ∧
      ¬ requestOnForeign.PrintsResult "bad.db" (.anonymize .json .always false "select a")
        [("bad.db", .foreign)]) ∧
    listingOnForeign.AsksAt "bad.db" (.mappings .json) ∧
      ¬ listingOnForeign.PrintsResult "bad.db" (.mappings .json) [("bad.db", .foreign)] := by
  have request : requestOnForeign.AsksAt "bad.db" (.anonymize .json .always false "select a") :=
    .anonymize rfl (.argument (by decide))
  have listing : listingOnForeign.AsksAt "bad.db" (.mappings .json) := .mappings rfl
  refine ⟨⟨request, Start.not_printsResult ?_ _ _⟩, listing, Start.not_printsResult ?_ _ _⟩
  · rw [request.run_outcome, opening_foreign]
    rfl
  · rw [listing.run_outcome, opening_foreign]
    rfl

end Program

end ColumnMask
