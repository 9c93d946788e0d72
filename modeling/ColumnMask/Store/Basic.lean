-- Stores of mappings. A store takes pairs in and gives all its pairs out; either may
-- fail. What it keeps between calls is its state.
import ColumnMask.Failure
import ColumnMask.Mapping

namespace ColumnMask

/-! ## Stores -/

/-- The two calls of a store whose state is a `σ`. -/
structure Store (σ : Type) where
  /-- Takes pairs in; a name that is there already keeps its digest. -/
  upsert : List Pair → σ → Except StoreError Unit × σ
  /-- All pairs, in whatever order. -/
  list : σ → Except StoreError (List Pair) × σ

/-- A store whose calls all fail. -/
def Store.failing (error : StoreError) : Store Unit where
  upsert _ s := (.error error, s)
  list s := (.error error, s)

/-! ## Recorded calls -/

/-- A call that reached a store. -/
inductive StoreCall where
  | upsert (pairs : List Pair)
  | list
  deriving DecidableEq, Repr

def StoreCall.isUpsert : StoreCall → Bool
  | .upsert _ => true
  | .list => false

/-- The store with a record of the calls that reached it, the failing ones too. -/
def Store.recorded {σ : Type} (store : Store σ) : Store (σ × List StoreCall) where
  upsert pairs := fun (s, calls) =>
    let (answer, s) := store.upsert pairs s
    (answer, s, calls ++ [.upsert pairs])
  list := fun (s, calls) =>
    let (answer, s) := store.list s
    (answer, s, calls ++ [.list])

/-! ## First write wins -/

/-- The pair at the end of the rows, unless a row has its name. -/
def addPair (rows : List Pair) (p : Pair) : List Pair :=
  if rows.any fun row => row.name == p.name then rows else rows ++ [p]

/-- The rows after pairs were added one after the other. -/
def addPairs (rows pairs : List Pair) : List Pair := pairs.foldl addPair rows

end ColumnMask
