-- The program: it reads the arguments, the input and the database file, and does what one
-- run says. It keeps no log.
import ColumnMask.Program.Run

namespace ColumnMask.Program

/-- What the file at a path holds, or why it cannot be reached. -/
def readFile (path : String) : IO (Option StoreError × DatabaseFile) := do
  if path = ":memory:" then return (none, .missing)
  try
    match String.fromUTF8? (← IO.FS.readBinFile path) with
    | some text => return (none, .ofText text)
    | none => return (none, .foreign)
  catch
    | .noFileOrDirectory .. => return (none, .missing)
    | _ => return (some (unreachable path), .missing)

/-- Writes the rows of the table that a run leaves in the file at a path. -/
def writeFile (path : String) (file : DatabaseFile) : IO Unit := do
  if path = ":memory:" then return
  match file with
  | .table rows => IO.FS.writeFile path (DatabaseFile.textOfRows rows)
  | _ => return

/-- Prints what a run printed. -/
def finish (o : Outcome) : IO UInt32 := do
  (← IO.getStdout).putStr o.stdout
  (← IO.getStderr).putStr o.stderr
  return o.exitCode.toUInt32

/-- Carries out a command line that was understood. -/
def runFile (i : Invocation) : IO UInt32 := do
  let input ← if i.readsInput then (← IO.getStdin).readBinToEnd else pure ByteArray.empty
  let (blocked, file) ← readFile i.database
  let (outcome, after) := execute i input blocked file
  if after = file then finish outcome
  else
    try
      writeFile i.database after
    catch _ =>
      return ← finish (execute i input (some (unreachable i.database)) file).1
    finish outcome

end ColumnMask.Program

open ColumnMask.Program

def main (args : List String) : IO UInt32 := do
  let database ← IO.getEnv "SQLMASK_DB"
  let env (name : String) : Option String := if name = "SQLMASK_DB" then database else none
  match readInvocation env args with
  | .error stop => finish (stop.outcome env)
  | .ok i => runFile i
