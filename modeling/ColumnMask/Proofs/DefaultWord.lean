-- Where the word DEFAULT stays. It is a keyword as an item of a VALUES row and as the value of
-- an assignment. But wherever it stands alone as an expression it is left as it is, so at any
-- other place a column of that name stays in clear.
import ColumnMask.Proofs.AlikeNodes
import ColumnMask.Proofs.InnerTargets
import ColumnMask.Sql.Grammar.Tables

namespace ColumnMask

namespace Sql

/-! ## Addresses -/

namespace Node

/-- The node at an address below a node, and the nodes above it, the nearest one first. An address
says for each step down which child to go to. -/
def descend (above : List Node) (n : Node) : List Nat → Option (List Node × Node)
  | [] => some (above, n)
  | k :: address => n.children[k]?.bind fun child => child.descend (n :: above) address

theorem contains_of_descend {above above' : List Node} {n k : Node} {address : List Nat}
    (h : n.descend above address = some (above', k)) : n.Contains k := by
  induction address generalizing above n with
  | nil =>
    cases h
    exact .refl
  | cons i address ih =>
    obtain ⟨child, hchild, h⟩ := Option.bind_eq_some_iff.mp h
    exact .head (List.mem_of_getElem? hchild) (ih h)

theorem exists_getElem?_of_beside {α β : Type} {r : α → β → Prop} {as : List α} {bs : List β}
    (h : List.Forall₂ r as bs) {a : α} {k : Nat} (ha : as[k]? = some a) :
    ∃ b, bs[k]? = some b ∧ r a b := by
  obtain ⟨hk, rfl⟩ := List.getElem?_eq_some_iff.mp ha
  have hk' : k < bs.length := h.length_eq ▸ hk
  exact ⟨bs[k], List.getElem?_eq_getElem hk', h.get hk hk'⟩

/-- At each address in one of two trees that are alike stands what is alike in the other one. -/
theorem Alike.descend {c : Change} {b : Ident → Ident → Prop} (H : c.Within b) {n n' k : Node}
    (h : n.Alike c b n') {above above' : List Node} {address : List Nat} (beyond : List Node)
    (hk : n.descend above address = some (above', k)) :
    ∃ beyond' k', n'.descend beyond address = some (beyond', k') ∧ k.Alike c b k' := by
  induction address generalizing n n' above beyond with
  | nil =>
    cases hk
    exact ⟨beyond, n', rfl, h⟩
  | cons i address ih =>
    obtain ⟨child, hchild, hk⟩ := Option.bind_eq_some_iff.mp hk
    obtain ⟨child', hchild', halike⟩ := exists_getElem?_of_beside (h.children H) hchild
    obtain ⟨beyond', k', hk', hkk⟩ := ih halike (n' :: beyond) hk
    exact ⟨beyond', k', Option.bind_eq_some_iff.mpr ⟨child', hchild', hk'⟩, hkk⟩

end Node

/-- The node at an address of a statement, and the nodes above it. -/
def Statement.at? (s : Statement) (address : List Nat) : Option (List Node × Node) :=
  (Node.statement s).descend [] address

/-- An identifier alone is the expression at an address, with these nodes above it. -/
def Statement.LoneAt (s : Statement) (address : List Nat) (above : List Node) (i : Ident) : Prop :=
  s.at? address = some (above, .expr (.column i))

/-! ## Where DEFAULT is a keyword -/

/-- The node has the rows of a VALUES. -/
def Node.isValues : Node → Bool
  | .body (.form f _) => f.encoding == Form.values.encoding
  | .part (.node f _) => f.encoding == Form.values.encoding
  | _ => false

/-- An expression with these nodes above it is the value of an assignment or an item of a row of a
VALUES. -/
def isKeywordPlace : List Node → Bool
  | .assignment _ :: _ => true
  | .part (.expr _) :: .part (.node _ _) :: .part (.list _) :: n :: _ => n.isValues
  | _ => false

end Sql

open Sql

/-! ## What becomes of an identifier alone -/

variable {s r : Statement} {address : List Nat} {above : List Node} {i : Ident}

/-- An identifier alone is a column unless it is the word `DEFAULT`. -/
theorem mem_extractColumns_of_loneAt (h : s.LoneAt address above i) (hi : ¬ i.isDefault) :
    i.value ∈ extractColumns [s] := by
  have hsite : i.value ∈ (Node.expr (.column i)).sites.map Ident.value := by
    simp [Node.sites, hi]
  have hcolumn : i.value ∈ s.columns :=
    Node.mem_columns_of_contains (Node.contains_of_descend h) hsite
  exact mem_extractColumns_of_mem_sites (List.mem_singleton_self s)
    (List.mem_append_right _ hcolumn)

/-- What stands at the place of an identifier alone after rewriting. The word `DEFAULT` stays, and
any other identifier is a column and is masked. -/
def becomes (i : Ident) : Ident := if i.isDefault then i else masked columnDigest i

theorem loneAt_renamed (h : s.LoneAt address above i) :
    ∃ beyond, (renamed (ownMapping columnDigest [s]) s).LoneAt address beyond (becomes i) := by
  have halike := renamed_follows (ownMapping columnDigest [s]) s
  obtain ⟨beyond, k, hk, hkk⟩ :=
    Node.Alike.descend (Change.within_unbounded _) (.statement (le_unbounded _) halike) [] h
  cases hkk with
  | expr he =>
    obtain ⟨j, rfl, hj⟩ := he
    have hj : j = ((columnRenamer (ownMapping columnDigest [s])).settled.lone i).run := hj
    have hbecomes : j = becomes i := by
      rw [hj, settled_lone]
      unfold becomes
      split
      · rfl
      · exact renameColumn_some _ (Mapping.get?_build (mem_extractColumns_of_loneAt h ‹_›))
    exact ⟨beyond, hbecomes ▸ hk⟩

/-! ## Where the word stays -/

/-- Where the word `DEFAULT` alone is no keyword, it is a column like any other: it is extracted,
and the rewritten statement has its digest in its place. -/
def ConfinesDefault (s r : Statement) : Prop :=
  ∀ address above i, s.LoneAt address above i → i.isDefault → ¬ isKeywordPlace above →
    i.value ∈ extractColumns [s] ∧ ∃ beyond, r.LoneAt address beyond (masked columnDigest i)

theorem masked_ne_of_isDefault (h : i.isDefault) : masked columnDigest i ≠ i := by
  intro heq
  have hquote : i.quote = some '"' := (congrArg Ident.quote heq).symm
  unfold Ident.isDefault at h
  rw [hquote] at h
  cases h

theorem LoneAt.unique {beyond : List Node} {j : Ident} (h : s.LoneAt address above i)
    (h' : s.LoneAt address beyond j) : i = j := by
  have heq := h.symm.trans h'
  cases heq
  rfl

theorem confinesDefault_renamed_iff :
    ConfinesDefault s (renamed (ownMapping columnDigest [s]) s) ↔
      ∀ address above i, s.LoneAt address above i → i.isDefault → isKeywordPlace above := by
  constructor
  · intro hconfines address above i h hi
    by_contra hplace
    obtain ⟨_, beyond, hmasked⟩ := hconfines address above i h hi hplace
    obtain ⟨beyond', hstays⟩ := loneAt_renamed h
    have heq := LoneAt.unique hmasked hstays
    unfold becomes at heq
    rw [if_pos hi] at heq
    exact masked_ne_of_isDefault hi heq
  · intro hplaces address above i h hi hplace
    exact absurd (hplaces address above i h hi) hplace

/-- What rewriting with its own columns makes of the identifiers that stand alone in a statement.
The word `DEFAULT` stays wherever it stands, any other identifier is extracted and masked; so the
word is confined to where it is a keyword exactly if it stands nowhere else. -/
structure KeepsDefault (s r : Statement) : Prop where
  rewritten : rewriteStatement (ownMapping columnDigest [s]) s = .ok r
  stays : ∀ address above i, s.LoneAt address above i → i.isDefault →
    ∃ beyond, r.LoneAt address beyond i
  hashed : ∀ address above i, s.LoneAt address above i → ¬ i.isDefault →
    i.value ∈ extractColumns [s] ∧ ∃ beyond, r.LoneAt address beyond (masked columnDigest i)
  confined : ConfinesDefault s r ↔
    ∀ address above i, s.LoneAt address above i → i.isDefault → isKeywordPlace above

theorem rewriteStatement_own (h : s.isSupported) :
    rewriteStatement (ownMapping columnDigest [s]) s =
      .ok (renamed (ownMapping columnDigest [s]) s) :=
  rewriteStatement_mapped h fun _ hname =>
    isSome_ownMapping (mem_extractColumns_of_mem_sites (List.mem_singleton_self s) hname)

theorem default_is_kept_wherever_it_stands (h : s.isSupported) : ∃ r, KeepsDefault s r := by
  refine ⟨_, rewriteStatement_own h, ?_, ?_, confinesDefault_renamed_iff⟩
  · intro address above i hlone hi
    obtain ⟨beyond, hstays⟩ := loneAt_renamed hlone
    exact ⟨beyond, (if_pos hi : becomes i = i) ▸ hstays⟩
  · intro address above i hlone hi
    obtain ⟨beyond, hmasked⟩ := loneAt_renamed hlone
    exact ⟨mem_extractColumns_of_loneAt hlone hi, beyond,
      (if_neg hi : becomes i = masked columnDigest i) ▸ hmasked⟩

/-- `UPDATE t SET t.a = Default`. -/
def assignsDefault : Statement := updateOf { value := "a" } { value := "Default" }

theorem assigned_default_stays :
    assignsDefault.isSupported ∧
      (∃ above, assignsDefault.LoneAt [2, 1] above { value := "Default" } ∧
        isKeywordPlace above) ∧
      ∃ r, KeepsDefault assignsDefault r :=
  ⟨rfl, ⟨_, rfl, rfl⟩, default_is_kept_wherever_it_stands rfl⟩

/-- At the address the word `DEFAULT` stands alone, and is no keyword there. -/
def Sql.Statement.strays (address : List Nat) (s : Statement) : Bool :=
  match s.at? address with
  | some (above, .expr (.column i)) => i.isDefault && !isKeywordPlace above
  | _ => false

theorem not_confinesDefault_of_strays (h : s.strays address) :
    ¬ ConfinesDefault s (renamed (ownMapping columnDigest [s]) s) := by
  unfold Sql.Statement.strays at h
  split at h
  · rename_i above i hlone
    obtain ⟨hi, hplace⟩ := Bool.and_eq_true_iff.mp h
    rw [confinesDefault_renamed_iff]
    intro hplaces
    rw [hplaces address above i hlone hi] at hplace
    cases hplace
  · cases h

theorem exists_of_strays {text : String} (address : List Nat)
    (h : (parseBatch text).toOption.any fun batch =>
      batch.length == 1 && batch.all fun s => s.isSupported && s.strays address) :
    ∃ s r, parseBatch text = .ok [s] ∧ s.isSupported ∧
      rewriteStatement (ownMapping columnDigest [s]) s = .ok r ∧ ¬ ConfinesDefault s r := by
  rcases hp : parseBatch text with e | batch
  · rw [hp] at h
    cases h
  · rw [hp] at h
    obtain ⟨hlength, hall⟩ := Bool.and_eq_true_iff.mp h
    obtain ⟨s, rfl⟩ := List.length_eq_one_iff.mp (beq_iff_eq.mp hlength)
    obtain ⟨hs, hstrays⟩ := Bool.and_eq_true_iff.mp
      (List.all_eq_true.mp hall s (List.mem_singleton_self s))
    exact ⟨s, _, rfl, hs, rewriteStatement_own hs, not_confinesDefault_of_strays hstrays⟩

/-- In a projection the word `DEFAULT` is no keyword, and stays in clear. -/
theorem projected_default_stays_clear :
    ∃ s r, parseBatch "select default from t" = .ok [s] ∧ s.isSupported ∧
      rewriteStatement (ownMapping columnDigest [s]) s = .ok r ∧ ¬ ConfinesDefault s r :=
  exists_of_strays [0, 1, 0, 4, 0] (by decide +kernel)

end ColumnMask
