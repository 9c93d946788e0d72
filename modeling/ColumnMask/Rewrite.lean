-- Replacing columns by their digests. The targets of a statement are renamed first, the
-- rest on one walk; a query is entered only if all its USING columns have a digest.
import ColumnMask.Failure
import ColumnMask.Mapping
import ColumnMask.Sql.Printer
import ColumnMask.Sql.Walk

namespace ColumnMask

open Sql

/-! ## Statements whose columns are all known -/

/-- Queries and the three statements on rows. -/
def Sql.Statement.isSupported : Statement → Bool
  | .query _ | .insert .. | .update .. | .delete .. => true
  | .other .. => false

/-- The first word of a statement, in upper case. -/
def Sql.Statement.keyword (s : Statement) : String :=
  let rest := s.show.toList.dropWhile Text.isBlank
  String.ofList ((rest.takeWhile fun c => !Text.isBlank c).map Char.toUpper)

/-- Refuses a batch that holds a statement whose columns are not all known. -/
def checkSupported (batch : List Statement) : Except Failure Unit :=
  match batch.zipIdx.find? fun (s, _) => !s.isSupported with
  | some (s, index) => .error (.unsupported index s.keyword)
  | none => .ok ()

/-! ## Renaming -/

/-- The identifier whose value is the digest of a column, between double quotes since a digest may
start with a digit. -/
def renameColumn (m : Mapping) (i : Ident) : Except Failure Ident :=
  match m.get? i.value with
  | some digest => .ok { i with value := digest, quote := some '"' }
  | none => .error (.unmapped i.value)

/-- Fails with the first column that has no digest. -/
def checkMapped (m : Mapping) : List Ident → Except Failure Unit
  | [] => .ok ()
  | i :: is => do
    let _ ← renameColumn m i
    checkMapped m is

/-- The walk that renames the columns of expressions and of USING lists. -/
def columnRenamer (m : Mapping) : Walker (Except Failure) :=
  { Walker.keep with
    enter := fun body => checkMapped m body.usingColumns
    lone := fun i => if i.isDefault then .ok i else renameColumn m i
    last := renameColumn m
    joined := renameColumn m }

/-- The statement with every column renamed. -/
def rewriteStatement (m : Mapping) (s : Statement) : Except Failure Statement := do
  checkSupported [s]
  (← s.mapTargets (renameColumn m)).walk (columnRenamer m)

/-- The batch with every column renamed. -/
def rewriteBatch (m : Mapping) (batch : List Statement) : Except Failure (List Statement) := do
  checkSupported batch
  mapEach (rewriteStatement m) batch

end ColumnMask
