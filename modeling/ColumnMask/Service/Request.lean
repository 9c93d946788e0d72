-- What callers send and what they get back, in their JSON forms.
import ColumnMask.Anonymize
import ColumnMask.Sql.Encode

namespace ColumnMask

/-! ## Requests -/

/-- A request to replace the columns of SQL text. -/
structure Request where
  sql : Option String := none
  deriving DecidableEq, Repr

namespace Request

/-- Whether there is nothing to do. Text of blanks is something to do. -/
def isEmpty (r : Request) : Bool := r.sql.all String.isEmpty

/-- The text of the request, empty if there is none. -/
def text (r : Request) : String := r.sql.getD ""

def ofJson? (j : Json) : Option Request := do
  match ← j.record? ["sql"] with
  | [none] | [some .null] => return ⟨none⟩
  | [some (.text sql)] => return ⟨some sql⟩
  | _ => none

def json (r : Request) : Json := .object [("sql", .ofOption .text r.sql)]

end Request

/-! ## Configurations -/

/-- How a service anonymizes. -/
structure Config where
  quoting : Quoting := .always
  deriving DecidableEq, Repr

/-- The quoting of the name. -/
def Quoting.ofName? : String → Option Quoting
  | "always" => some .always
  | "as_written" => some .asWritten
  | _ => none

def Quoting.name : Quoting → String
  | .always => "always"
  | .asWritten => "as_written"

namespace Config

def ofJson? (j : Json) : Option Config := do
  match ← j.record? ["identifier_quoting"] with
  | [none] => return {}
  | [some value] => return ⟨← Quoting.ofName? (← value.choice?)⟩
  | _ => none

def json (c : Config) : Json := .object [("identifier_quoting", .text c.quoting.name)]

end Config

/-! ## Failures -/

/-- A failure as callers get it. -/
def Failure.json (f : Failure) : Json :=
  .object [("code", .text f.code.show), ("message", .text f.message)]

/-! ## Responses -/

/-- The answer to a request: nothing was to do, or the columns were replaced. -/
inductive Response where
  | skipped
  | anonymized (result : Anonymized)

namespace Response

/-- The new text, empty if nothing was to do. -/
def sql : Response → String
  | .skipped => ""
  | .anonymized a => a.sql

/-- The columns with their digests. -/
def columns : Response → List Pair
  | .skipped => []
  | .anonymized a => a.columns

def json : Response → Json
  | .skipped => .object [("modifiedSQL", .text "")]
  | .anonymized a => .object [("modifiedSQL", .text a.sql), ("hashedColumns", pairsJson a.columns),
      ("ast", .array (a.statements.map Sql.Statement.json))]

end Response

end ColumnMask
