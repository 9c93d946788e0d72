-- One run of the program: from its arguments, its input and the files of a directory to
-- its output and the files afterwards.
import ColumnMask.Program.Arguments
import ColumnMask.Program.Table
import ColumnMask.Service.Session
import ColumnMask.Store.Memory

namespace ColumnMask.Program

/-! ## Commands -/

inductive Format where
  | table | json
  deriving DecidableEq, Repr

/-- What the program is to do. -/
inductive Command where
  /-- Anonymize text, which a lone dash says to read from the input. -/
  | anonymize (quoting : Quoting) (dryRun : Bool) (sql : String)
  | mappings
  deriving DecidableEq, Repr

/-- A command line that was understood. -/
structure Invocation where
  database : String
  format : Format
  command : Command
  deriving DecidableEq, Repr

/-- Whether the text is to be read from the input. -/
def Invocation.readsInput (i : Invocation) : Bool :=
  match i.command with
  | .anonymize _ _ sql => sql == "-"
  | .mappings => false

/-! ## The command line -/

def databaseOption : OptionSpec where
  long := "db"
  valueName := some "DB"
  help := "Path to the SQLite file holding column hash mappings"
  default := some "sqlmask.db"
  envName := some "SQLMASK_DB"
  isPath := true

def formatOption : OptionSpec where
  long := "format"
  valueName := some "FORMAT"
  help := "Output format"
  choices := ["table", "json"]
  default := some "table"

def quotingOption : OptionSpec where
  long := "quoting"
  valueName := some "QUOTING"
  help := "How table names, aliases and qualifiers are rendered"
  choices := ["always", "as-written"]
  default := some "always"

def dryRunOption : OptionSpec where
  long := "dry-run"
  help := "Anonymize without writing mappings to the database"

def anonymizeCommand : CommandSpec :=
  .mk "anonymize" "Replace column names with their hashes and record the mapping"
    [databaseOption, quotingOption, dryRunOption, formatOption]
    (some { name := "SQL", help := "SQL text to anonymize. Use '-' to read from stdin" }) []

def listCommand : CommandSpec :=
  .mk "list" "List every persisted column name and its hash, sorted by name"
    [databaseOption, formatOption] none []

def mappingsCommand : CommandSpec :=
  .mk "mappings" "Inspect persisted column hash mappings" [databaseOption, formatOption] none
    [listCommand]

def program : CommandSpec :=
  .mk "sqlmask" "Anonymize column names in SQL text" [databaseOption, formatOption] none
    [anonymizeCommand, mappingsCommand]

/-- What a command line asks for. -/
def readInvocation (env : String → Option String) (args : List String) :
    Except Stop Invocation := do
  let levels ← readLevels env { command := program, path := program.name } args
  let value (o : OptionSpec) : String := (optionValue env levels o).getD ""
  let format := if value formatOption == "json" then Format.json else .table
  let database := value databaseOption
  match levels.getLast?.bind Level.argument with
  | some sql =>
    let quoting := if value quotingOption == "as-written" then Quoting.asWritten else .always
    let dryRun := levels.any fun l => l.values.any fun v => v.1 == dryRunOption.long
    return ⟨database, format, .anonymize quoting dryRun sql⟩
  | none => return ⟨database, format, .mappings⟩

/-! ## Errors -/

/-- Why a run fails. -/
inductive RunError where
  | message (text : String)
  /-- Reading or writing failed while doing something. -/
  | io (context cause : String)
  | anonymize (failure : Failure)
  deriving DecidableEq, Repr

namespace RunError

def text : RunError → String
  | .message text => text
  | .io context cause => context ++ ": " ++ cause
  | .anonymize failure => failure.code.show ++ ": " ++ failure.message

/-- The exit code: 2 if the caller's input is at fault. -/
def exitCode : RunError → Nat
  | .anonymize failure => if failure.isClientError then 2 else 1
  | _ => 1

/-- The text of the error below this one, if there is one. -/
def source? : RunError → Option String
  | .message _ => none
  | .io _ cause => some cause
  | .anonymize failure => some failure.message

/-- The error of a failure to read the input. -/
def input (cause : String) : RunError := .io "failed to read SQL from stdin" cause

end RunError

/-! ## Output -/

/-- What a run prints and the code it exits with. -/
structure Outcome where
  exitCode : Nat
  stdout : String := ""
  stderr : String := ""
  deriving DecidableEq, Repr

/-- The outcome of a run that fails, with what it printed before. -/
def RunError.outcome (e : RunError) (stdout : String := "") : Outcome :=
  ⟨e.exitCode, stdout, "error: " ++ e.text ++ "\n"⟩

/-- JSON as the program prints it. -/
def jsonLines (j : Json) : String := j.pretty ++ "\n"

/-- A response as the program prints it. -/
def showResponse (format : Format) (r : Response) : String :=
  match format with
  | .json => jsonLines r.json
  | .table =>
    if r.sql.isEmpty then "(empty)\n"
    else r.sql ++ "\n" ++ (if r.columns.isEmpty then "" else "\n" ++ pairTable r.columns ++ "\n")

/-- A list of pairs as the program prints it. -/
def showMappings (format : Format) (pairs : List Pair) : String :=
  match format with
  | .json => jsonLines (pairsJson pairs)
  | .table => pairTable pairs ++ "\n(" ++ toString pairs.length ++ " rows)\n"

/-! ## Runs -/

/-- The answer to a request, printed. A failure is printed to both outputs if the format is
JSON. -/
def showAnswer (format : Format) (answer : Except Failure Response) : Outcome :=
  match answer with
  | .ok r => ⟨0, showResponse format r, ""⟩
  | .error failure =>
    RunError.outcome (.anonymize failure)
      (match format with
        | .json => jsonLines failure.json
        | .table => "")

/-- The text to anonymize: the argument, or the input if the argument is a dash. -/
def resolveText (argument : String) (input : ByteArray) : Except RunError String :=
  if argument ≠ "-" then .ok argument
  else match String.fromUTF8? input with
    | some text => .ok text
    | none => .error (.input "stream did not contain valid UTF-8")

/-- The error of a database that cannot be opened. -/
def openError (path : String) (e : StoreError) : RunError :=
  .message ("failed to open mapping database at " ++ path ++ ": " ++ e.message)

/-- Opens a file unless something keeps it from being reached. -/
def openUnless (blocked : Option StoreError) (file : DatabaseFile) :
    Except StoreError Unit × DatabaseFile :=
  match blocked with
  | some e => (.error e, file)
  | none => file.openTable

/-- Carries out what a command line asks for, on the file it names. A dry run does not touch the
file. -/
def execute (i : Invocation) (input : ByteArray) (blocked : Option StoreError)
    (file : DatabaseFile) : Outcome × DatabaseFile :=
  match i.command with
  | .anonymize quoting dryRun argument =>
    match resolveText argument input with
    | .error e => (e.outcome, file)
    | .ok sql =>
      if dryRun then
        (showAnswer i.format (Memory.store.anonymize quoting ⟨some sql⟩ Memory.empty).1, file)
      else match openUnless blocked file with
        | (.error e, file) => ((openError i.database e).outcome, file)
        | (.ok (), file) =>
          let (answer, file) := DatabaseFile.store.anonymize quoting ⟨some sql⟩ file
          (showAnswer i.format answer, file)
  | .mappings =>
    match openUnless blocked file with
    | (.error e, file) => ((openError i.database e).outcome, file)
    | (.ok (), file) =>
      match DatabaseFile.store.mappings file with
      | (.ok pairs, file) => (⟨0, showMappings i.format pairs, ""⟩, file)
      | (.error failure, file) => (RunError.outcome (.anonymize failure), file)

/-- What a command line that asks for no run prints: help that was asked for, help in place of a
missing command, or why it is refused. -/
def Stop.outcome (env : String → Option String) : Stop → Outcome
  | .help command path true => ⟨0, helpText command path env, ""⟩
  | .help command path false => ⟨2, "", helpText command path env⟩
  | .refused e => ⟨2, "", "error: " ++ e.message ++ "\n\nFor more information, try '--help'.\n"⟩

/-! ## Directories -/

/-- The files of a directory by their names. -/
abbrev Directory := List (String × DatabaseFile)

namespace Directory

/-- The file of the name. -/
def get (d : Directory) (name : String) : DatabaseFile :=
  ((d.find? fun f => f.1 == name).map Prod.snd).getD .missing

/-- The directory with the file of the name replaced. -/
def set (d : Directory) (name : String) (file : DatabaseFile) : Directory :=
  let others := d.filter fun f => f.1 ≠ name
  match file with
  | .missing => others
  | file => others ++ [(name, file)]

/-- The names of the files, sorted. -/
def names (d : Directory) : List String :=
  (d.map Prod.fst).mergeSort fun a b => bytesLe (utf8 a) (utf8 b)

end Directory

/-- The file name that a path stands for, if it can be one of the directory itself. A path that
starts with `file:` is an address for SQLite. Addresses are left out: here such a path is a name
like any other, and a run on it is not what the program does. -/
def fileName? (path : List Char) : Option String :=
  match path with
  | '.' :: '/' :: rest => fileName? rest
  | name =>
    let name := String.ofList name
    if name.contains '/' || name = "." || name = ".." || name.isEmpty then none else some name

/-- The error of a path where no file can be. -/
def unreachable (path : String) : StoreError := ⟨"unable to open database file: " ++ path⟩

/-- One run in a directory. The database of the name `:memory:` is in no file, and no database is
named by an address (see `fileName?`). -/
def run (env : String → Option String) (args : List String) (input : ByteArray) (d : Directory) :
    Outcome × Directory :=
  match readInvocation env args with
  | .error stop => (stop.outcome env, d)
  | .ok i =>
    if i.database = ":memory:" then ((execute i input none .missing).1, d)
    else match fileName? i.database.toList with
      | none => ((execute i input (some (unreachable i.database)) .missing).1, d)
      | some name =>
        let (outcome, file) := execute i input none (d.get name)
        (outcome, d.set name file)

end ColumnMask.Program
