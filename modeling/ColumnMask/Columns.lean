-- Names of columns in the order in which they were first seen, each name once.

namespace ColumnMask

/-! ## Sets of columns -/

/-- Different names in the order of their first insertion. -/
structure ColumnSet where
  names : List String
  distinct : names.Nodup

namespace ColumnSet

def empty : ColumnSet := ⟨[], List.nodup_nil⟩

instance : EmptyCollection ColumnSet := ⟨empty⟩
instance : Inhabited ColumnSet := ⟨empty⟩

instance : Membership String ColumnSet := ⟨fun s name => name ∈ s.names⟩

instance (name : String) (s : ColumnSet) : Decidable (name ∈ s) :=
  inferInstanceAs (Decidable (name ∈ s.names))

/-- Whether the name was inserted before. -/
def contains (s : ColumnSet) (name : String) : Bool := name ∈ s

def size (s : ColumnSet) : Nat := s.names.length

def isEmpty (s : ColumnSet) : Bool := s.names.isEmpty

theorem nodup_concat {names : List String} {name : String} (h : names.Nodup) (new : name ∉ names) :
    (names ++ [name]).Nodup := by
  rw [List.nodup_append]
  refine ⟨h, by simp, ?_⟩
  intro a ha b hb
  rw [List.mem_singleton] at hb
  rintro rfl
  exact new (hb ▸ ha)

/-- Adds a name at the end unless it is there already. -/
def insert (s : ColumnSet) (name : String) : ColumnSet :=
  if new : name ∈ s.names then s else ⟨s.names ++ [name], nodup_concat s.distinct new⟩

/-- Whether inserting the name would add it. -/
def isNew (s : ColumnSet) (name : String) : Bool := !s.contains name

/-- The names of a list, inserted from first to last. -/
def ofList (names : List String) : ColumnSet := names.foldl insert empty

end ColumnSet

end ColumnMask
