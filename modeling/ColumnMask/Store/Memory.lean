-- A store in memory: an ordered map from names to digests.
import ColumnMask.Store.Basic

namespace ColumnMask

/-- The pairs of a store in memory, in the order of their names. -/
abbrev Memory := List Pair

namespace Memory

/-- Puts a pair in its place unless its name is there. -/
def insert (p : Pair) : Memory → Memory
  | [] => [p]
  | row :: rows =>
    if row.name = p.name then row :: rows
    else if bytesLe (utf8 p.name) (utf8 row.name) then p :: row :: rows
    else row :: insert p rows

def empty : Memory := []

/-- The store in memory. It never fails. -/
def store : Store Memory where
  upsert pairs rows := (.ok (), pairs.foldl (fun rows p => insert p rows) rows)
  list rows := (.ok rows, rows)

end Memory

end ColumnMask
