-- How identifiers other than columns are written: as they were, or with quotes around
-- the names of tables, the names given to tables and projections, and qualifiers.
import ColumnMask.Sql.Walk

namespace ColumnMask

open Sql

/-- Whether identifiers get quotes or stay as written. -/
inductive Quoting where
  | always | asWritten
  deriving DecidableEq, Repr

instance : Inhabited Quoting := ⟨.always⟩

/-- The identifier with quotes; quotes it has are kept. -/
def quoteIdent (i : Ident) : Ident := { i with quote := some (i.quote.getD '"') }

/-- The walk that puts quotes around identifiers. -/
def quoting : Walker Id :=
  { Walker.keep with
    relation := quoteIdent
    source := quoteIdent
    label := quoteIdent
    qualifier := quoteIdent }

/-- The statement with quotes around the identifiers that get some. -/
def Sql.Statement.withQuotes (s : Statement) : Statement := (s.walk quoting).run

/-- The statement as it is written out. -/
def Quoting.apply : Quoting → Statement → Statement
  | .always, s => s.withQuotes
  | .asWritten, s => s

end ColumnMask
