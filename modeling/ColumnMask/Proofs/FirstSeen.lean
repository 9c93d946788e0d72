-- The set of names in the order of first sight, against the list it was made from: it
-- holds the same names, and a search in it finds what a search in the list finds. The mapping of a
-- set has a pair for each of its names.
import ColumnMask.Mapping
import Mathlib.Data.List.Nodup

namespace ColumnMask

namespace ColumnSet

theorem names_insert (s : ColumnSet) (name : String) :
    (s.insert name).names = if name ∈ s.names then s.names else s.names ++ [name] := by
  unfold insert
  split <;> rfl

theorem mem_insert (s : ColumnSet) (name n : String) :
    n ∈ (s.insert name).names ↔ n ∈ s.names ∨ n = name := by
  rw [names_insert]
  split
  · rename_i h
    constructor
    · exact Or.inl
    · rintro (hn | rfl)
      · exact hn
      · exact h
  · simp

/-- A name that was seen before is never the first hit of a search. -/
theorem find?_insert (p : String → Bool) (s : ColumnSet) (name : String) (rest : List String) :
    ((s.insert name).names ++ rest).find? p = (s.names ++ name :: rest).find? p := by
  rw [names_insert]
  split
  · rename_i h
    rw [List.find?_append, List.find?_append, List.find?_cons]
    rcases hs : s.names.find? p with _ | found
    · have hp : ¬ p name := List.find?_eq_none.mp hs name h
      simp [hp]
    · rfl
  · rw [List.append_assoc, List.singleton_append]

theorem find?_foldl_insert (p : String → Bool) (names : List String) (s : ColumnSet) :
    (names.foldl insert s).names.find? p = (s.names ++ names).find? p := by
  induction names generalizing s with
  | nil => rw [List.append_nil, List.foldl_nil]
  | cons name names ih => rw [List.foldl_cons, ih, find?_insert]

/-- The first name of the set with a property is the first such name of the list. -/
theorem find?_ofList (p : String → Bool) (names : List String) :
    (ofList names).names.find? p = names.find? p := by
  unfold ofList
  rw [find?_foldl_insert]
  rfl

theorem mem_foldl_insert (names : List String) (s : ColumnSet) (n : String) :
    n ∈ (names.foldl insert s).names ↔ n ∈ s.names ∨ n ∈ names := by
  induction names generalizing s with
  | nil => simp
  | cons name names ih => rw [List.foldl_cons, ih, mem_insert, List.mem_cons, or_assoc]

theorem insert_of_mem {s : ColumnSet} {name : String} (h : name ∈ s.names) : s.insert name = s := by
  unfold insert
  rw [dif_pos h]

/-- Inserting the names of a set is inserting the names that it was made from. -/
theorem foldl_insert_names (names : List String) (t s : ColumnSet) :
    (names.foldl insert t).names.foldl insert s = (t.names ++ names).foldl insert s := by
  induction names generalizing t with
  | nil => rw [List.foldl_nil, List.append_nil]
  | cons name names ih =>
    rw [List.foldl_cons, ih, names_insert]
    split
    · rename_i h
      have hm : name ∈ (t.names.foldl insert s).names :=
        (mem_foldl_insert t.names s name).mpr (.inr h)
      rw [List.foldl_append, List.foldl_append, List.foldl_cons, insert_of_mem hm]
    · rw [List.append_assoc, List.singleton_append]

theorem foldl_insert_ofList (names : List String) (s : ColumnSet) :
    (ofList names).names.foldl insert s = names.foldl insert s :=
  foldl_insert_names names empty s

/-- What was seen first stays first. -/
theorem prefix_foldl_insert (names : List String) (s : ColumnSet) :
    s.names <+: (names.foldl insert s).names := by
  induction names generalizing s with
  | nil => exact List.prefix_refl _
  | cons name names ih =>
    have hstep : s.names <+: (s.insert name).names := by
      rw [names_insert]
      split
      · exact List.prefix_refl _
      · exact List.prefix_append _ _
    exact hstep.trans (ih (s.insert name))

theorem mem_ofList (names : List String) (n : String) : n ∈ (ofList names).names ↔ n ∈ names := by
  unfold ofList
  rw [mem_foldl_insert]
  simp [empty]

end ColumnSet

/-! ## The mapping of a set -/

namespace Mapping

/-- A search finds what is listed, since no name is listed twice. -/
theorem get?_eq_some_iff {m : Mapping} {name digest : String} :
    m.get? name = some digest ↔ ⟨name, digest⟩ ∈ m.pairs := by
  unfold get?
  rw [Option.map_eq_some_iff]
  constructor
  · rintro ⟨p, hp, rfl⟩
    have hfound := List.find?_some hp
    obtain rfl : p.name = name := eq_of_beq hfound
    exact List.mem_of_find?_eq_some hp
  · intro hmem
    have hsome : (m.pairs.find? fun p => p.name == name).isSome :=
      List.find?_isSome.mpr ⟨_, hmem, beq_self_eq_true name⟩
    obtain ⟨p, hp⟩ := Option.isSome_iff_exists.mp hsome
    have hfound := List.find?_some hp
    have hname : p.name = name := eq_of_beq hfound
    have heq : p = ⟨name, digest⟩ :=
      List.inj_on_of_nodup_map m.distinct (List.mem_of_find?_eq_some hp) hmem hname
    exact ⟨p, hp, congrArg Pair.digest heq⟩

variable (digest : String → String) (columns : ColumnSet)

theorem mem_build {p : Pair} :
    p ∈ (build digest columns).pairs ↔ p.name ∈ columns.names ∧ p.digest = digest p.name := by
  unfold build
  rw [List.mem_map]
  constructor
  · rintro ⟨name, hname, rfl⟩
    exact ⟨hname, rfl⟩
  · rintro ⟨hname, hdigest⟩
    exact ⟨p.name, hname, by rw [← hdigest]⟩

theorem names_build : (build digest columns).pairs.map Pair.name = columns.names := by
  unfold build
  rw [List.map_map]
  exact List.map_id _

theorem size_build : (build digest columns).size = columns.size := List.length_map _

theorem get?_build_eq (name : String) :
    (build digest columns).get? name =
      if name ∈ columns.names then some (digest name) else none := by
  ext d
  rw [get?_eq_some_iff, mem_build]
  split
  · rename_i hname
    rw [Option.some.injEq, eq_comm]
    exact and_iff_right hname
  · rename_i hname
    exact iff_of_false (fun h => hname h.1) nofun

end Mapping

end ColumnMask
