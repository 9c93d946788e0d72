-- A store in a database file. The file may be missing, hold no table yet, hold the table
-- of mappings, or be no database at all; several handles may be open on it. Their calls come
-- one after the other, so none waits for another. A file whose table of that name has other
-- columns, and one with damaged pages, is left out: it opens, but its rows cannot be listed.
import ColumnMask.Json.Reader
import ColumnMask.Store.Basic

namespace ColumnMask

/-! ## Files -/

/-- What a database file holds. -/
inductive DatabaseFile where
  /-- There is no such file. -/
  | missing
  /-- A file without tables. -/
  | blank
  /-- The table of mappings, its rows in the order of their insertion. -/
  | table (rows : List Pair)
  /-- A file that is no database. -/
  | foreign
  deriving DecidableEq, Repr

namespace DatabaseFile

instance : Inhabited DatabaseFile := ⟨.missing⟩

def notADatabase : StoreError := ⟨"file is not a database"⟩

def noTable : StoreError := ⟨"no such table: hashed_columns"⟩

/-- Opens the file: makes it if it is missing, and makes the table unless it is there. -/
def openTable : DatabaseFile → Except StoreError Unit × DatabaseFile
  | .missing => (.ok (), .table [])
  | .blank => (.ok (), .table [])
  | .table rows => (.ok (), .table rows)
  | .foreign => (.error notADatabase, .foreign)

/-- The rows of the table. -/
def rows : DatabaseFile → Except StoreError (List Pair)
  | .table rows => .ok rows
  | .missing => .error noTable
  | .blank => .error noTable
  | .foreign => .error notADatabase

/-- The store in the file, through a handle that is open. Taking in no pairs does not touch the
file. -/
def store : Store DatabaseFile where
  upsert pairs file :=
    if pairs.isEmpty then (.ok (), file)
    else match file.rows with
      | .ok rows => (.ok (), .table (addPairs rows pairs))
      | .error e => (.error e, file)
  list file := (file.rows, file)

/-! ## The text of a file

The text stands in for the pages that SQLite writes. -/

/-- The first line of a file that holds the table of mappings. -/
def header : String := "sqlmask column mappings\n"

/-- The rows as the lines of a file. -/
def textOfRows (rows : List Pair) : String := header ++ (pairsJson rows).compact

/-- The rows in the text of a file, if it is one with the table. -/
def rowsOfText? (text : String) : Option (List Pair) := do
  let rest ← Json.skipWord? header.toList text.toList
  pairsOfJson? (← Json.read? (String.ofList rest))

/-- A file with this text. A file of at most one byte has no tables. -/
def ofText (text : String) : DatabaseFile :=
  if text.utf8ByteSize ≤ 1 then .blank
  else match rowsOfText? text with
    | some rows => .table rows
    | none => .foreign

end DatabaseFile

end ColumnMask
