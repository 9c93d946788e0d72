-- The text of a batch. Each statement's text is parsed again before it is given out, so
-- that no text leaves that is not one statement.
import ColumnMask.Failure
import ColumnMask.Quoting
import ColumnMask.Sql.Parser
import ColumnMask.Sql.Printer

namespace ColumnMask

open Sql

/-- The statements of a text. -/
def parseBatch (text : String) : Except Failure (List Statement) :=
  (parse text).mapError fun e => .sqlSyntax e.show

/-- What stands between the statements of a text. -/
def separator : String := " ; "

/-- Checks that a text reads back as one statement. -/
def checkReadable (index : Nat) (text : String) : Except Failure Unit :=
  match parseBatch text with
  | .error failure => .error (.unreadable index failure.message)
  | .ok [_] => .ok ()
  | .ok found => .error (.unreadable index
      ("expected one statement after serialization, found " ++ toString found.length))

/-- The text of the statement at an index of a batch. -/
def statementText (quoting : Quoting) (s : Statement) (index : Nat) : Except Failure String := do
  let text := (quoting.apply s).show
  checkReadable index text
  return text

/-- The texts of statements from an index on. -/
def statementTexts (quoting : Quoting) : List Statement → Nat → Except Failure (List String)
  | [], _ => .ok []
  | s :: ss, index => do
    let text ← statementText quoting s index
    return text :: (← statementTexts quoting ss (index + 1))

/-- The text of a batch. -/
def serialize (quoting : Quoting) (batch : List Statement) : Except Failure String := do
  return separator.intercalate (← statementTexts quoting batch 0)

end ColumnMask
