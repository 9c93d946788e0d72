-- The order in which pairs are listed. Texts are ordered by their bytes in UTF-8, which is the
-- order of their characters; so the pairs of a store have one listing, in whatever order the store
-- gives them out.
import ColumnMask.Proofs.ByteOrder
import ColumnMask.Service.Session
import Mathlib.Tactic.SplitIfs

namespace ColumnMask

open String (utf8EncodeChar)

/-! ## The bytes of a character -/

/-- A number in base 64: its last `more` digits are bytes of their own, and what is left of it is
added to the leading byte. -/
def digitBytes (lead : Nat) : Nat → Nat → List UInt8
  | 0, n => [UInt8.ofNat (lead + n)]
  | more + 1, n => digitBytes lead more (n / 64) ++ [UInt8.ofNat (n % 64 + 128)]

/-- What is left of a number without its last digits. -/
def leading : Nat → Nat → Nat
  | 0, n => n
  | more + 1, n => leading more (n / 64)

theorem ofNat_lt_ofNat {a b : Nat} (h : a < b) (hb : b < 256) : UInt8.ofNat a < UInt8.ofNat b := by
  rw [UInt8.lt_iff_toNat_lt, UInt8.toNat_ofNat', UInt8.toNat_ofNat']
  omega

theorem digitBytes_eq_cons (lead more n : Nat) :
    ∃ rest, digitBytes lead more n = UInt8.ofNat (lead + leading more n) :: rest := by
  induction more generalizing n with
  | zero => exact ⟨[], rfl⟩
  | succ more ih =>
    obtain ⟨rest, hrest⟩ := ih (n / 64)
    rw [digitBytes, hrest, leading]
    exact ⟨rest ++ [UInt8.ofNat (n % 64 + 128)], rfl⟩

/-- The first digit that differs decides, whatever follows the digits. -/
theorem digitBytes_lt {lead : Nat} (more : Nat) {a b : Nat} (xs ys : List UInt8) (h : a < b)
    (hb : lead + leading more b < 256) :
    digitBytes lead more a ++ xs < digitBytes lead more b ++ ys := by
  induction more generalizing a b xs ys with
  | zero =>
    rw [leading] at hb
    exact List.cons_lt_cons_iff.mpr (.inl (ofNat_lt_ofNat (by omega) hb))
  | succ more ih =>
    rw [leading] at hb
    rw [digitBytes, digitBytes, List.append_assoc, List.append_assoc]
    by_cases hq : a / 64 = b / 64
    · have hdigit : UInt8.ofNat (a % 64 + 128) < UInt8.ofNat (b % 64 + 128) :=
        ofNat_lt_ofNat (by omega) (by omega)
      rw [hq]
      exact List.append_left_lt (List.cons_lt_cons_iff.mpr (.inl hdigit))
    · exact ih _ _ (by omega) hb

/-- How many bytes follow the leading byte of a character. -/
def moreBytes (n : Nat) : Nat :=
  if n ≤ 0x7F then 0 else if n ≤ 0x7FF then 1 else if n ≤ 0xFFFF then 2 else 3

/-- What is added to the leading byte, by the number of bytes that follow. -/
def leadMark : Nat → Nat
  | 0 => 0
  | 1 => 192
  | 2 => 224
  | _ => 240

theorem toNat_lt_limit (c : Char) : c.toNat < 0x110000 := by
  have hval : c.val.toNat = c.toNat := rfl
  rcases c.valid with h | ⟨_, h⟩ <;> omega

/-- The leading byte: its mark, and what the bytes that follow leave of the number. -/
def leadByte (n : Nat) : Nat := leadMark (moreBytes n) + leading (moreBytes n) n

theorem leadByte_lt {n : Nat} (h : n < 0x110000) : leadByte n < 256 := by
  unfold leadByte moreBytes
  split_ifs <;> simp only [leadMark, leading] <;> omega

/-- A character with more bytes has a larger leading byte. -/
theorem leadByte_lt_leadByte {a b : Nat} (h : a < b) (hmore : moreBytes a ≠ moreBytes b) :
    leadByte a < leadByte b := by
  unfold leadByte
  unfold moreBytes at hmore ⊢
  split_ifs at hmore ⊢ <;> simp only [leadMark, leading] <;> omega

theorem utf8EncodeChar_eq (c : Char) :
    utf8EncodeChar c = digitBytes (leadMark (moreBytes c.toNat)) (moreBytes c.toNat) c.toNat := by
  have hmax := toNat_lt_limit c
  have hval : c.val.toNat = c.toNat := rfl
  unfold utf8EncodeChar moreBytes
  simp only [hval]
  -- The remainders that are taken of the leading digits change nothing: a character is not so large.
  split_ifs with h1 h2 h3
  · rw [leadMark, digitBytes, Nat.zero_add]
  · have hlead : c.toNat / 64 % 32 + 192 = 192 + c.toNat / 64 := by omega
    simp only [leadMark, digitBytes, List.cons_append, List.nil_append, hlead]
  · have hlead : c.toNat / 4096 % 16 + 224 = 224 + c.toNat / 64 / 64 := by omega
    simp only [leadMark, digitBytes, List.cons_append, List.nil_append, hlead]
  · have hlead : c.toNat / 262144 % 8 + 240 = 240 + c.toNat / 64 / 64 / 64 := by omega
    have hsecond : c.toNat / 4096 % 64 = c.toNat / 64 / 64 % 64 := by omega
    simp only [leadMark, digitBytes, List.cons_append, List.nil_append, hlead, hsecond]

theorem utf8EncodeChar_eq_cons (c : Char) :
    ∃ rest, utf8EncodeChar c = UInt8.ofNat (leadByte c.toNat) :: rest := by
  rw [utf8EncodeChar_eq]
  exact digitBytes_eq_cons _ _ _

/-- The bytes of a character come before those of a larger one, whatever follows. -/
theorem utf8EncodeChar_lt {c d : Char} (h : c < d) (xs ys : List UInt8) :
    utf8EncodeChar c ++ xs < utf8EncodeChar d ++ ys := by
  have hlt : c.toNat < d.toNat := h
  have hbyte := leadByte_lt (toNat_lt_limit d)
  by_cases hmore : moreBytes c.toNat = moreBytes d.toNat
  · rw [utf8EncodeChar_eq, utf8EncodeChar_eq, hmore]
    exact digitBytes_lt _ xs ys hlt hbyte
  · obtain ⟨cs, hcs⟩ := utf8EncodeChar_eq_cons c
    obtain ⟨ds, hds⟩ := utf8EncodeChar_eq_cons d
    have hlead := ofNat_lt_ofNat (leadByte_lt_leadByte hlt hmore) hbyte
    rw [hcs, hds]
    exact List.cons_lt_cons_iff.mpr (.inl hlead)

/-! ## Texts -/

theorem utf8_eq_flatMap (s : String) : utf8 s = s.toList.flatMap utf8EncodeChar := by
  have h : s.toByteArray = s.toList.utf8Encode := String.utf8Encode_toList.symm
  unfold utf8
  rw [String.toUTF8, h, List.utf8Encode, List.data_toByteArray]

theorem flatMap_utf8EncodeChar_lt {cs ds : List Char} (h : cs < ds) :
    cs.flatMap utf8EncodeChar < ds.flatMap utf8EncodeChar := by
  induction cs generalizing ds with
  | nil =>
    cases ds with
    | nil => exact absurd h (List.lt_irrefl _)
    | cons d ds =>
      obtain ⟨b, bs, hb⟩ := List.exists_cons_of_ne_nil (String.utf8EncodeChar_ne_nil (c := d))
      rw [List.flatMap_nil, List.flatMap_cons, hb]
      exact List.nil_lt_cons b _
  | cons c cs ih =>
    cases ds with
    | nil => exact absurd h (List.not_lt_nil _)
    | cons d ds =>
      rw [List.flatMap_cons, List.flatMap_cons]
      rcases List.cons_lt_cons_iff.mp h with hlt | ⟨rfl, hlt⟩
      · exact utf8EncodeChar_lt hlt _ _
      · exact List.append_left_lt (ih hlt)

theorem utf8_lt_of_lt {a b : String} (h : a < b) : utf8 a < utf8 b := by
  rw [utf8_eq_flatMap, utf8_eq_flatMap]
  exact flatMap_utf8EncodeChar_lt h

/-- Texts are ordered by their bytes as they are by their characters. -/
theorem utf8_lt_iff {a b : String} : utf8 a < utf8 b ↔ a < b := by
  refine ⟨fun h => ?_, utf8_lt_of_lt⟩
  rcases Std.lt_trichotomy a b with hab | rfl | hba
  · exact hab
  · exact absurd h (List.lt_irrefl _)
  · exact absurd (utf8_lt_of_lt hba) (List.lt_asymm h)

theorem utf8_le_iff {a b : String} : utf8 a ≤ utf8 b ↔ a ≤ b := by
  rw [← List.not_lt, ← String.not_lt, utf8_lt_iff]

/-! ## Listings -/

/-- Pairs in order: by the bytes of the name, then by those of the digest. -/
def InOrder (pairs : List Pair) : Prop :=
  pairs.Pairwise fun p q => p.Before q ∨ p.name = q.name ∧ utf8 p.digest ≤ utf8 q.digest

theorem inOrder_iff {pairs : List Pair} : InOrder pairs ↔ pairs.Pairwise fun p q => p.le q := by
  unfold InOrder
  simp only [Pair.le_iff]

/-- The listing of some pairs has all of them, each as often as it is there, in order. There is no
other list like that. -/
structure IsListing (pairs listed : List Pair) : Prop where
  perm : listed.Perm pairs
  inOrder : InOrder listed
  only : ∀ {other : List Pair}, other.Perm pairs → InOrder other → other = listed

theorem isListing_sortPairs (pairs : List Pair) : IsListing pairs (sortPairs pairs) := by
  have hsorted := sortPairs_pairwise pairs
  refine ⟨sortPairs_perm pairs, inOrder_iff.mpr hsorted, ?_⟩
  intro other hperm horder
  apply (hperm.trans (sortPairs_perm pairs).symm).eq_of_pairwise ?_ (inOrder_iff.mp horder) hsorted
  intro p q _ _
  exact Pair.le_antisymm

theorem Store.mappings_of_list {σ : Type} {store : Store σ} {s s' : σ} {pairs : List Pair}
    (h : store.list s = (.ok pairs, s')) : store.mappings s = (.ok (sortPairs pairs), s') := by
  unfold Store.mappings
  rw [h]

theorem sortPairs_eq_iff {ps qs : List Pair} : sortPairs ps = sortPairs qs ↔ ps.Perm qs := by
  refine ⟨fun h => ?_, sortPairs_eq_of_perm⟩
  have hperm := sortPairs_perm qs
  rw [← h] at hperm
  exact (sortPairs_perm ps).symm.trans hperm

/-- Pairs are ordered by their names, and by their digests if the names are the same. -/
theorem Pair.le_iff_texts {p q : Pair} :
    p.le q ↔ p.name < q.name ∨ p.name = q.name ∧ p.digest ≤ q.digest := by
  rw [Pair.le_iff, Pair.Before, utf8_lt_iff, utf8_le_iff]

/-- What the listings of two stores have in common. -/
structure ListsCanonically {σ τ : Type} (store : Store σ) (other : Store τ) : Prop where
  /-- Whatever pairs a store gives out, and in whatever order: it has their listing. -/
  listed : ∀ {s s' : σ} {pairs : List Pair}, store.list s = (.ok pairs, s') →
    ∃ listed, store.mappings s = (.ok listed, s') ∧ IsListing pairs listed
  /-- Two listings are the same exactly if they are of the same pairs. -/
  same_iff : ∀ {s s' : σ} {t t' : τ} {pairs more : List Pair}, store.list s = (.ok pairs, s') →
    other.list t = (.ok more, t') →
      ((store.mappings s).1 = (other.mappings t).1 ↔ pairs.Perm more)
  /-- Any two pairs can be compared. -/
  total : ∀ p q : Pair, p.le q ∨ q.le p
  /-- Only a pair itself is both before and after it. -/
  eq_iff : ∀ p q : Pair, p.le q ∧ q.le p ↔ p = q
  /-- The order by bytes is the one by characters. -/
  characters : ∀ p q : Pair, p.le q ↔ p.name < q.name ∨ p.name = q.name ∧ p.digest ≤ q.digest

theorem listings_are_canonical {σ τ : Type} (store : Store σ) (other : Store τ) :
    ListsCanonically store other := by
  constructor
  case listed =>
    intro s s' pairs h
    exact ⟨sortPairs pairs, Store.mappings_of_list h, isListing_sortPairs pairs⟩
  case same_iff =>
    intro s s' t t' pairs more h h'
    rw [Store.mappings_of_list h, Store.mappings_of_list h', Except.ok.injEq, sortPairs_eq_iff]
  case total =>
    intro p q
    exact Bool.or_eq_true _ _ ▸ Pair.le_total p q
  case eq_iff =>
    intro p q
    constructor
    · rintro ⟨h, h'⟩
      exact Pair.le_antisymm h h'
    · rintro rfl
      have htotal := Pair.le_total p p
      rw [Bool.or_self] at htotal
      exact ⟨htotal, htotal⟩
  case characters => exact fun _ _ => Pair.le_iff_texts

end ColumnMask
