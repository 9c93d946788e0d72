-- The whole way from SQL text to SQL text without the names of columns.
import ColumnMask.Extract
import ColumnMask.Rewrite
import ColumnMask.Serialize

namespace ColumnMask

/-- A batch after its columns were replaced. -/
structure Anonymized where
  /-- The new text. -/
  sql : String
  /-- The columns with their digests, in the order in which they were met. -/
  columns : List Pair
  /-- The statements as they were read. -/
  statements : List Sql.Statement

/-- Replaces the columns of a batch by what `digest` makes of them. -/
def anonymizeBatch (digest : String → String) (quoting : Quoting) (batch : List Sql.Statement) :
    Except Failure Anonymized := do
  checkSupported batch
  let mapping := Mapping.build digest (extractColumns batch)
  let sql ← serialize quoting (← rewriteBatch mapping batch)
  return ⟨sql, mapping.pairs, batch⟩

/-- Replaces the columns of SQL text by their digests. -/
def anonymize (quoting : Quoting) (text : String) : Except Failure Anonymized := do
  anonymizeBatch columnDigest quoting (← parseBatch text)

end ColumnMask
