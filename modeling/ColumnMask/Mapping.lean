-- The digests that stand for the names of columns, and their pairs as JSON.
import ColumnMask.Columns
import ColumnMask.Digest
import ColumnMask.Json.Value

namespace ColumnMask

/-! ## Pairs -/

/-- The name of a column and the digest that stands for it. -/
structure Pair where
  name : String
  digest : String
  deriving DecidableEq, Repr

instance : Inhabited Pair := ⟨"", ""⟩

/-- Lists of bytes are compared by the first byte in which they differ; a list comes before those
it is a start of. -/
def bytesLe : List UInt8 → List UInt8 → Bool
  | [], _ => true
  | _ :: _, [] => false
  | a :: as, b :: bs => a < b || (a == b && bytesLe as bs)

/-- Pairs are ordered by the bytes of the name, then by those of the digest. -/
def Pair.le (p q : Pair) : Bool :=
  if p.name = q.name then bytesLe (utf8 p.digest) (utf8 q.digest)
  else bytesLe (utf8 p.name) (utf8 q.name)

/-- The pairs in order. -/
def sortPairs (pairs : List Pair) : List Pair := pairs.mergeSort Pair.le

/-! ## Pairs in JSON -/

/-- A pair as a list of the name and the digest. -/
def Pair.json (p : Pair) : Json := .array [.text p.name, .text p.digest]

def Pair.ofJson? : Json → Option Pair
  | .array [.text name, .text digest] => some ⟨name, digest⟩
  | _ => none

/-- A list of pairs. -/
def pairsJson (pairs : List Pair) : Json := .array (pairs.map Pair.json)

def pairsOfJson? : Json → Option (List Pair)
  | .array items => items.mapM Pair.ofJson?
  | _ => none

/-! ## Mappings -/

/-- A digest for each of some different names. -/
structure Mapping where
  pairs : List Pair
  distinct : (pairs.map Pair.name).Nodup

namespace Mapping

/-- The mapping that gives each name its digest, in the order of the set. -/
def build (digest : String → String) (columns : ColumnSet) : Mapping where
  pairs := columns.names.map fun name => ⟨name, digest name⟩
  distinct := by
    rw [List.map_map, show Pair.name ∘ (fun name => ⟨name, digest name⟩) = id from rfl, List.map_id]
    exact columns.distinct

/-- The digest of a name. -/
def get? (m : Mapping) (name : String) : Option String :=
  (m.pairs.find? fun p => p.name == name).map Pair.digest

def size (m : Mapping) : Nat := m.pairs.length

def isEmpty (m : Mapping) : Bool := m.pairs.isEmpty

end Mapping

end ColumnMask
