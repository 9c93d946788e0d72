-- SHA-256 in the words of the Secure Hash Standard. There a message is cut into numbered blocks of
-- numbered words, the words and the states are given by recurrences, and the constants are digits
-- of roots of primes. Each message has one digest by this definition, the one that is computed.
import ColumnMask.Digest
import Mathlib.Data.Nat.Nth
import Mathlib.Data.Nat.Prime.Basic

namespace ColumnMask.Digest

/-! ## The standard -/

/-- The number that some bytes stand for, the highest first. -/
def bigEndian (bytes : List UInt8) : Nat := bytes.foldl (fun n b => 256 * n + b.toNat) 0

/-- The word at a place, four bytes each. -/
def wordAt (bytes : List UInt8) (i : Nat) : UInt32 :=
  UInt32.ofNat (bigEndian ((bytes.drop (4 * i)).take 4))

/-- A message is padded with a one bit, with zero bits, and with its length in bits as a number of
64 bits, by as few zero bits as fill the last block. -/
structure IsPadded (message padded : List UInt8) : Prop where
  parts : ∃ zeros count, zeros < 64 ∧ count.length = 8 ∧
    bigEndian count = 8 * message.length % 2 ^ 64 ∧
      padded = message ++ 0x80 :: List.replicate zeros 0 ++ count
  whole : 64 ∣ padded.length

/-- The largest number whose power is not above the given one. -/
def floorRoot (k x : Nat) : Nat := Nat.findGreatest (fun n => n ^ k ≤ x) x

/-- The first 32 bits behind the point of a root of a prime. -/
noncomputable def primeRootBits (k t : Nat) : UInt32 :=
  UInt32.ofNat (floorRoot k (Nat.nth Nat.Prime t * 2 ^ (32 * k)))

/-- A word turned to the right. -/
def turned (w : UInt32) (n : Nat) : UInt32 := ⟨w.toBitVec.rotateRight n⟩

/-- The word of a round: the first sixteen are those of the block. -/
def scheduleWord (block : Nat → UInt32) (t : Nat) : UInt32 :=
  if t < 16 then block t
  else
    let w2 := scheduleWord block (t - 2)
    let w15 := scheduleWord block (t - 15)
    (turned w2 17 ^^^ turned w2 19 ^^^ w2 >>> 10) + scheduleWord block (t - 7) +
      (turned w15 7 ^^^ turned w15 18 ^^^ w15 >>> 3) + scheduleWord block (t - 16)

/-- One round, with its constant and its word. -/
def standardRound (s : State) (k w : UInt32) : State :=
  let t1 := s.h + (turned s.e 6 ^^^ turned s.e 11 ^^^ turned s.e 25) +
    ((s.e &&& s.f) ^^^ (~~~s.e &&& s.g)) + k + w
  let t2 := (turned s.a 2 ^^^ turned s.a 13 ^^^ turned s.a 22) +
    ((s.a &&& s.b) ^^^ (s.a &&& s.c) ^^^ (s.b &&& s.c))
  ⟨t1 + t2, s.a, s.b, s.c, s.d + t1, s.e, s.f, s.g⟩

/-- Two states added word by word. -/
def State.sum (s t : State) : State :=
  ⟨s.a + t.a, s.b + t.b, s.c + t.c, s.d + t.d, s.e + t.e, s.f + t.f, s.g + t.g, s.h + t.h⟩

/-- The state after some rounds. -/
noncomputable def afterRounds (s : State) (block : Nat → UInt32) : Nat → State
  | 0 => s
  | t + 1 => standardRound (afterRounds s block t) (primeRootBits 3 t) (scheduleWord block t)

/-- The state after some blocks of a padded message. -/
noncomputable def afterBlocks (padded : List UInt8) : Nat → State
  | 0 => ⟨primeRootBits 2 0, primeRootBits 2 1, primeRootBits 2 2, primeRootBits 2 3,
      primeRootBits 2 4, primeRootBits 2 5, primeRootBits 2 6, primeRootBits 2 7⟩
  | i + 1 =>
    let s := afterBlocks padded i
    s.sum (afterRounds s (fun j => wordAt padded (16 * i + j)) 64)

/-- The digest of a message: 32 bytes, which are the words of the state after all blocks. -/
structure IsDigest (message bytes : List UInt8) : Prop where
  length : bytes.length = 32
  words : ∃ padded, IsPadded message padded ∧
    (List.range 8).map (wordAt bytes) = (afterBlocks padded (padded.length / 64)).words

/-! ## Bytes as numbers -/

theorem bigEndian_concat (bytes : List UInt8) (b : UInt8) :
    bigEndian (bytes ++ [b]) = 256 * bigEndian bytes + b.toNat := by
  unfold bigEndian
  rw [List.foldl_append]
  rfl

/-- Lists of one length are told apart by their numbers. -/
theorem bigEndian_inj {as bs : List UInt8} (hlength : as.length = bs.length)
    (h : bigEndian as = bigEndian bs) : as = bs := by
  induction as using List.reverseRecOn generalizing bs with
  | nil => exact (List.length_eq_zero_iff.mp hlength.symm).symm
  | append_singleton as a ih =>
    rcases List.eq_nil_or_concat bs with rfl | ⟨bs, b, rfl⟩
    · simp at hlength
    · rw [List.concat_eq_append] at *
      rw [bigEndian_concat, bigEndian_concat] at h
      have ha := a.toNat_lt
      have hb := b.toNat_lt
      rw [List.length_append, List.length_append] at hlength
      have hlast : a = b := UInt8.toNat_inj.mp (by omega)
      rw [ih (Nat.add_right_cancel hlength) (by omega), hlast]

/-- A byte set behind a number, both shifted. -/
theorem shiftLeft_or_shiftLeft (a n : Nat) (b : UInt8) :
    a <<< (n + 8) ||| b.toNat <<< n = (256 * a + b.toNat) <<< n := by
  have hb := b.toNat_lt
  rw [Nat.add_comm n 8, Nat.shiftLeft_add, ← Nat.shiftLeft_or_distrib,
    ← Nat.shiftLeft_add_eq_or_of_lt hb, Nat.shiftLeft_eq a, Nat.mul_comm a]

theorem toNat_shifted (b : UInt8) {n : UInt32} (h : n.toNat ≤ 24) :
    (b.toUInt32 <<< n).toNat = b.toNat <<< n.toNat := by
  have hb := b.toNat_lt
  rw [UInt32.toNat_shiftLeft, UInt8.toNat_toUInt32, Nat.mod_eq_of_lt (by omega : n.toNat < 32),
    Nat.shiftLeft_eq]
  apply Nat.mod_eq_of_lt
  calc b.toNat * 2 ^ n.toNat ≤ b.toNat * 2 ^ 24 :=
        Nat.mul_le_mul_left _ (Nat.pow_le_pow_right (by decide) h)
    _ < 2 ^ 32 := by omega

theorem toNat_wordOfBytes (a b c d : UInt8) :
    (wordOfBytes a b c d).toNat = bigEndian [a, b, c, d] := by
  have hd : d.toNat = d.toNat <<< 0 := rfl
  unfold wordOfBytes
  rw [UInt32.toNat_or, UInt32.toNat_or, UInt32.toNat_or, toNat_shifted a (by decide),
    toNat_shifted b (by decide), toNat_shifted c (by decide), UInt8.toNat_toUInt32, hd]
  show a.toNat <<< (16 + 8) ||| b.toNat <<< (8 + 8) ||| c.toNat <<< (0 + 8) ||| d.toNat <<< 0 = _
  rw [shiftLeft_or_shiftLeft, shiftLeft_or_shiftLeft, shiftLeft_or_shiftLeft]
  simp [bigEndian]

/-- The last bytes of a number, the highest first. -/
def lastBytes (count n : Nat) : List UInt8 :=
  (List.range count).reverse.map fun i => UInt8.ofNat (n >>> (8 * i))

theorem lastBytes_succ (count n : Nat) :
    lastBytes (count + 1) n = lastBytes count (n / 256) ++ [UInt8.ofNat n] := by
  have hshift : ∀ i, n >>> (8 * (i + 1)) = (n / 256) >>> (8 * i) := by
    intro i
    rw [Nat.mul_succ, Nat.add_comm, Nat.shiftRight_add, Nat.shiftRight_eq_div_pow n 8]
  unfold lastBytes
  rw [List.range_succ_eq_map, List.reverse_cons, ← List.map_reverse, List.map_append, List.map_map]
  simp only [Function.comp_def, Nat.succ_eq_add_one, hshift]
  rfl

theorem bigEndian_lastBytes (count n : Nat) : bigEndian (lastBytes count n) = n % 256 ^ count := by
  induction count generalizing n with
  | zero => rw [Nat.pow_zero, Nat.mod_one]; rfl
  | succ count ih =>
    have hpow : 256 ^ (count + 1) = 256 * 256 ^ count := Nat.pow_succ'
    rw [lastBytes_succ, bigEndian_concat, ih, UInt8.toNat_ofNat', hpow, Nat.mod_mul, Nat.add_comm]

theorem bigEndian_bytesOfNat64 (n : Nat) : bigEndian (bytesOfNat64 n) = n % 2 ^ 64 :=
  bigEndian_lastBytes 8 n

theorem bytesOfWord_eq (w : UInt32) : bytesOfWord w = lastBytes 4 w.toNat := by
  have hbyte : ∀ (n : UInt32), n.toNat < 32 →
      (w >>> n).toUInt8 = UInt8.ofNat (w.toNat >>> n.toNat) := by
    intro n hn
    rw [← UInt8.toNat_inj, UInt32.toNat_toUInt8, UInt32.toNat_shiftRight, Nat.mod_eq_of_lt hn,
      UInt8.toNat_ofNat']
  have hlast : w.toUInt8 = UInt8.ofNat w.toNat := by
    rw [← UInt8.toNat_inj, UInt32.toNat_toUInt8, UInt8.toNat_ofNat']
  rw [bytesOfWord, hbyte 24 (by decide), hbyte 16 (by decide), hbyte 8 (by decide), hlast]
  rfl

theorem bigEndian_bytesOfWord (w : UInt32) : bigEndian (bytesOfWord w) = w.toNat := by
  rw [bytesOfWord_eq, bigEndian_lastBytes]
  exact Nat.mod_eq_of_lt w.toNat_lt

theorem bytesOfWord_wordOfBytes (a b c d : UInt8) :
    bytesOfWord (wordOfBytes a b c d) = [a, b, c, d] := by
  refine bigEndian_inj (by rfl) ?_
  rw [bigEndian_bytesOfWord, toNat_wordOfBytes]

theorem wordOfBytes_bytesOfWord (w : UInt32) :
    wordOfBytes (w >>> 24).toUInt8 (w >>> 16).toUInt8 (w >>> 8).toUInt8 w.toUInt8 = w := by
  apply UInt32.toNat_inj.mp
  rw [toNat_wordOfBytes]
  exact bigEndian_bytesOfWord w

/-! ## Words in their places -/

theorem wordAt_zero (a b c d : UInt8) (rest : List UInt8) :
    wordAt (a :: b :: c :: d :: rest) 0 = wordOfBytes a b c d := by
  show UInt32.ofNat (bigEndian [a, b, c, d]) = _
  rw [← toNat_wordOfBytes, UInt32.ofNat_toNat]

theorem length_lt_four {bytes : List UInt8}
    (h : ∀ a b c d rest, bytes = a :: b :: c :: d :: rest → False) : bytes.length < 4 := by
  match bytes, h with
  | [], _ | [_], _ | [_, _], _ | [_, _, _], _ => simp
  | _ :: _ :: _ :: _ :: _, h => exact (h _ _ _ _ _ rfl).elim

theorem wordsOfBytes_eq (bytes : List UInt8) :
    wordsOfBytes bytes = (List.range (bytes.length / 4)).map (wordAt bytes) := by
  fun_induction wordsOfBytes bytes with
  | case1 a b c d rest ih =>
    have hnext : wordAt (a :: b :: c :: d :: rest) ∘ Nat.succ = wordAt rest := rfl
    have hlength : (a :: b :: c :: d :: rest).length / 4 = rest.length / 4 + 1 := by
      simp only [List.length_cons]
      omega
    rw [hlength, List.range_succ_eq_map, List.map_cons, List.map_map, wordAt_zero, hnext, ih]
  | case2 bytes h =>
    rw [Nat.div_eq_of_lt (length_lt_four h)]
    rfl

/-- Bytes that fill words are the bytes of these words. -/
theorem flatMap_wordsOfBytes {bytes : List UInt8} (h : 4 ∣ bytes.length) :
    (wordsOfBytes bytes).flatMap bytesOfWord = bytes := by
  fun_induction wordsOfBytes bytes with
  | case1 a b c d rest ih =>
    have hrest : 4 ∣ rest.length := by
      simp only [List.length_cons] at h
      omega
    rw [List.flatMap_cons, bytesOfWord_wordOfBytes, ih hrest]
    rfl
  | case2 bytes hshort =>
    have hlength : bytes.length = 0 := Nat.eq_zero_of_dvd_of_lt h (length_lt_four hshort)
    rw [List.length_eq_zero_iff.mp hlength]
    rfl

theorem wordsOfBytes_flatMap (words : List UInt32) :
    wordsOfBytes (words.flatMap bytesOfWord) = words := by
  induction words with
  | nil => rfl
  | cons w ws ih =>
    rw [List.flatMap_cons, bytesOfWord]
    show wordOfBytes _ _ _ _ :: wordsOfBytes (ws.flatMap bytesOfWord) = w :: ws
    rw [wordOfBytes_bytesOfWord, ih]

theorem blocks_eq (words : List UInt32) :
    blocks words =
      (List.range (words.length / 16)).map fun i => (words.drop (16 * i)).take 16 := by
  fun_induction blocks words with
  | case1 words h =>
    rw [Nat.div_eq_of_lt h]
    rfl
  | case2 words h ih =>
    have hlength : words.length / 16 = (words.drop 16).length / 16 + 1 := by
      rw [List.length_drop]
      omega
    rw [ih, hlength, List.range_succ_eq_map, List.map_cons, List.map_map]
    congr 1
    apply List.map_congr_left
    intro i _
    simp only [Function.comp, List.drop_drop, Nat.succ_eq_add_one]
    congr 2
    omega

/-- The words of each block of a list of bytes, by their places. -/
theorem blocks_wordsOfBytes (bytes : List UInt8) :
    blocks (wordsOfBytes bytes) = (List.range (bytes.length / 64)).map fun i =>
      (List.range 16).map fun j => wordAt bytes (16 * i + j) := by
  rw [blocks_eq, wordsOfBytes_eq, List.length_map, List.length_range, Nat.div_div_eq_div_mul]
  apply List.map_congr_left
  intro i hi
  rw [List.mem_range] at hi
  apply List.ext_getElem
  · simp only [List.length_take, List.length_drop, List.length_map, List.length_range]
    omega
  · intro j _ _
    simp only [List.getElem_take, List.getElem_drop, List.getElem_map, List.getElem_range]

/-! ## Padding -/

theorem isPadded_iff {message padded : List UInt8} :
    IsPadded message padded ↔ padded = pad message := by
  constructor
  · rintro ⟨⟨zeros, count, hzeros, hlength, hcount, rfl⟩, hwhole⟩
    have hz : zeros = (119 - message.length % 64) % 64 := by
      simp only [List.length_append, List.length_cons, List.length_replicate, hlength] at hwhole
      omega
    have hc : count = bytesOfNat64 (8 * message.length) := by
      apply bigEndian_inj hlength
      rw [hcount, bigEndian_bytesOfNat64]
    rw [hz, hc, pad]
  · rintro rfl
    have hlength : ∀ n, (bytesOfNat64 n).length = 8 := fun _ => rfl
    refine ⟨⟨_, _, Nat.mod_lt _ (by decide), hlength _, bigEndian_bytesOfNat64 _, rfl⟩, ?_⟩
    simp only [pad, List.length_append, List.length_cons, List.length_replicate, hlength]
    omega

/-! ## Constants -/

theorem floorRoot_eq {k x n : Nat} (hk : k ≠ 0) (h : n ^ k ≤ x) (h' : x < (n + 1) ^ k) :
    floorRoot k x = n := by
  unfold floorRoot
  rw [Nat.findGreatest_eq_iff]
  -- The search stops at the given number itself, which is no smaller than its root.
  refine ⟨(Nat.le_self_pow hk n).trans h, fun _ => h, ?_⟩
  intro m hm _ hpow
  exact absurd ((Nat.pow_le_pow_left hm k).trans hpow) (Nat.not_le_of_lt h')

/-- A test for primes below `18 ^ 2`. -/
def isSmallPrime (n : Nat) : Bool :=
  2 ≤ n && (List.range 18).all fun m => m < 2 || n ≤ m || n % m != 0

theorem isSmallPrime_iff {n : Nat} (h : n < 324) : isSmallPrime n ↔ n.Prime := by
  simp only [isSmallPrime, Bool.and_eq_true, decide_eq_true_eq, List.all_eq_true, List.mem_range,
    Bool.or_eq_true, bne_iff_ne, ne_eq, ← Nat.dvd_iff_mod_eq_zero]
  constructor
  · rintro ⟨htwo, htest⟩
    refine Nat.prime_def_le_sqrt.mpr ⟨htwo, fun m hm hroot => ?_⟩
    have hsqrt : n.sqrt < 18 := Nat.sqrt_lt.mpr h
    have hself : n.sqrt < n := Nat.sqrt_lt_self htwo
    rcases htest m (by omega) with (hlow | hhigh) | hdvd
    · omega
    · omega
    · exact hdvd
  · intro hn
    refine ⟨hn.two_le, fun m _ => ?_⟩
    by_cases hdvd : m ∣ n
    · rcases hn.eq_one_or_self_of_dvd m hdvd with rfl | rfl
      · exact .inl (.inl (by decide))
      · exact .inl (.inr le_rfl)
    · exact .inr hdvd

/-- The first 64 primes. -/
def smallPrimes : List Nat := (List.range 312).filter isSmallPrime

theorem smallPrimes_counted : ∀ t < 64, isSmallPrime (smallPrimes.getD t 0) ∧
    smallPrimes.getD t 0 < 324 ∧ (List.range (smallPrimes.getD t 0)).countP isSmallPrime = t := by
  decide +kernel

theorem nth_prime_eq {t : Nat} (h : t < 64) : Nat.nth Nat.Prime t = smallPrimes.getD t 0 := by
  obtain ⟨htest, hsmall, hcount⟩ := smallPrimes_counted t h
  have hprime := (isSmallPrime_iff hsmall).mp htest
  have hbelow : Nat.count Nat.Prime (smallPrimes.getD t 0) = t := by
    refine (List.countP_congr ?_).trans hcount
    intro n hn
    rw [List.mem_range] at hn
    rw [decide_eq_true_eq, isSmallPrime_iff (by omega)]
  have hnth := Nat.nth_count hprime
  rwa [hbelow] at hnth

/-- Some words are the digits of roots of the first primes. With a number before the point they
tell between which powers each prime lies. -/
def AreRootBits (k : Nat) (words : List UInt32) : Prop :=
  ∀ t < words.length, ∃ whole < 7,
    (2 ^ 32 * whole + (words.getD t 0).toNat) ^ k ≤ smallPrimes.getD t 0 * 2 ^ (32 * k) ∧
      smallPrimes.getD t 0 * 2 ^ (32 * k) < (2 ^ 32 * whole + (words.getD t 0).toNat + 1) ^ k

instance (k : Nat) (words : List UInt32) : Decidable (AreRootBits k words) :=
  inferInstanceAs (Decidable (∀ t < words.length, ∃ whole < 7, _))

theorem AreRootBits.eq_map {k : Nat} {words : List UInt32} (h : AreRootBits k words) (hk : k ≠ 0)
    (hlength : words.length ≤ 64) : words = (List.range words.length).map (primeRootBits k) := by
  apply List.ext_getElem (by rw [List.length_map, List.length_range])
  intro t ht _
  obtain ⟨whole, _, hlow, hhigh⟩ := h t ht
  have hroot := floorRoot_eq hk hlow hhigh
  have hw := (words.getD t 0).toNat_lt
  rw [List.getElem_map, List.getElem_range, primeRootBits, nth_prime_eq (by omega), hroot,
    List.getElem_eq_getD 0, ← UInt32.toNat_inj, UInt32.toNat_ofNat', Nat.mul_add_mod,
    Nat.mod_eq_of_lt hw]

theorem roundConstants_eq : roundConstants = (List.range 64).map (primeRootBits 3) :=
  AreRootBits.eq_map (by decide +kernel) (by decide) (by decide)

theorem words_initial : State.initial.words = (List.range 8).map (primeRootBits 2) :=
  AreRootBits.eq_map (by decide +kernel) (by decide) (by decide)

/-! ## Rounds -/

theorem rotateRight_eq {w n : UInt32} (hpos : 0 < n.toNat) (h : n.toNat < 32) :
    rotateRight w n = turned w n.toNat := by
  have hsub : (32 - n).toNat = 32 - n.toNat := UInt32.toNat_sub_of_le _ _ h.le
  apply UInt32.toNat_inj.mp
  show _ = (w.toBitVec.rotateRight n.toNat).toNat
  rw [BitVec.toNat_rotateRight, Nat.mod_eq_of_lt h, rotateRight, UInt32.toNat_or,
    UInt32.toNat_shiftRight, UInt32.toNat_shiftLeft, hsub, Nat.mod_eq_of_lt h,
    Nat.mod_eq_of_lt (by omega : 32 - n.toNat < 32)]
  rfl

theorem getD_reverse_map {α : Type} (f : Nat → α) (d : α) {k i : Nat} (hpos : 0 < i) (h : i ≤ k) :
    ((List.range k).map f).reverse.getD (i - 1) d = f (k - i) := by
  have hlast : i - 1 < ((List.range k).map f).reverse.length := by
    rw [List.length_reverse, List.length_map, List.length_range]
    omega
  have hplace : k - 1 - (i - 1) = k - i := by omega
  rw [← List.getElem_eq_getD d (h := hlast), List.getElem_reverse, List.getElem_map,
    List.getElem_range]
  simp only [List.length_map, List.length_range, hplace]

theorem scheduleWord_later (block : Nat → UInt32) {t : Nat} (h : 16 ≤ t) :
    scheduleWord block t =
      scheduleWord block (t - 16) +
        (rotateRight (scheduleWord block (t - 15)) 7 ^^^
          rotateRight (scheduleWord block (t - 15)) 18 ^^^ scheduleWord block (t - 15) >>> 3) +
        scheduleWord block (t - 7) +
        (rotateRight (scheduleWord block (t - 2)) 17 ^^^
          rotateRight (scheduleWord block (t - 2)) 19 ^^^ scheduleWord block (t - 2) >>> 10) := by
  rw [scheduleWord, if_neg (Nat.not_lt_of_le h)]
  simp (disch := decide) only [rotateRight_eq, UInt32.reduceToNat]
  ac_rfl

/-- Each further word is the one of the standard if all words before it are. -/
theorem extend_eq (block : Nat → UInt32) (n : Nat) {k : Nat} (h : 16 ≤ k) :
    extend n ((List.range k).map (scheduleWord block)).reverse =
      ((List.range (k + n)).map (scheduleWord block)).reverse := by
  induction n generalizing k with
  | zero => rfl
  | succ n ih =>
    have hbefore : ∀ i, 0 < i → i ≤ 16 →
        ((List.range k).map (scheduleWord block)).reverse.getD (i - 1) 0 =
          scheduleWord block (k - i) :=
      fun i hpos hi => getD_reverse_map _ _ hpos (hi.trans h)
    have hword := scheduleWord_later block h
    rw [extend]
    simp only [hbefore 16 (by decide) le_rfl, hbefore 15 (by decide) (by decide),
      hbefore 7 (by decide) (by decide), hbefore 2 (by decide) (by decide)]
    rw [← hword]
    have hnext : scheduleWord block k :: ((List.range k).map (scheduleWord block)).reverse =
        ((List.range (k + 1)).map (scheduleWord block)).reverse := by
      rw [List.range_succ, List.map_append, List.reverse_append]
      rfl
    have hcount : k + 1 + n = k + (n + 1) := by omega
    rw [hnext, ih (Nat.le_succ_of_le h), hcount]

theorem schedule_eq (block : Nat → UInt32) :
    schedule ((List.range 16).map block) = (List.range 64).map (scheduleWord block) := by
  have hfirst : (List.range 16).map block = (List.range 16).map (scheduleWord block) := by
    apply List.map_congr_left
    intro t ht
    rw [List.mem_range] at ht
    rw [scheduleWord, if_pos ht]
  rw [schedule, hfirst, extend_eq block 48 (by decide), List.reverse_reverse]

theorem round_eq (s : State) (k w : UInt32) : s.round (k + w) = standardRound s k w := by
  unfold State.round standardRound
  simp (disch := decide) only [rotateRight_eq, UInt32.reduceToNat, UInt32.add_assoc]

theorem foldl_round (s : State) (block : Nat → UInt32) (n : Nat) :
    ((List.range n).map fun t => primeRootBits 3 t + scheduleWord block t).foldl State.round s =
      afterRounds s block n := by
  induction n with
  | zero => rfl
  | succ n ih =>
    rw [List.range_succ, List.map_append, List.foldl_append, ih, afterRounds, ← round_eq]
    rfl

theorem compress_eq (s : State) (block : Nat → UInt32) :
    s.compress ((List.range 16).map block) = s.sum (afterRounds s block 64) := by
  unfold State.compress
  rw [roundConstants_eq, schedule_eq, List.zip_map', List.map_map]
  exact congrArg s.sum (foldl_round s block 64)

/-! ## The digest -/

theorem State.words_inj {s t : State} (h : s.words = t.words) : s = t := by
  cases s
  cases t
  simpa [State.words] using h

theorem initial_eq (padded : List UInt8) : State.initial = afterBlocks padded 0 :=
  State.words_inj (words_initial.trans rfl)

theorem foldl_compress (padded : List UInt8) (n : Nat) :
    ((List.range n).map fun i => (List.range 16).map fun j => wordAt padded (16 * i + j)).foldl
      State.compress .initial = afterBlocks padded n := by
  induction n with
  | zero => exact initial_eq padded
  | succ n ih =>
    have hlast : List.range (n + 1) = List.range n ++ [n] := List.range_succ
    rw [hlast, List.map_append, List.foldl_append, ih, afterBlocks, ← compress_eq]
    rfl

theorem sha256_eq (message : List UInt8) :
    sha256 message =
      (afterBlocks (pad message) ((pad message).length / 64)).words.flatMap bytesOfWord := by
  rw [sha256, blocks_wordsOfBytes, foldl_compress]

theorem length_sha256 (message : List UInt8) : (sha256 message).length = 32 := rfl

/-- The digest by the standard is what is computed, and nothing else is. -/
theorem isDigest_iff {message bytes : List UInt8} :
    IsDigest message bytes ↔ bytes = sha256 message := by
  have hwords : ∀ {bytes : List UInt8}, bytes.length = 32 →
      (List.range 8).map (wordAt bytes) = wordsOfBytes bytes := by
    intro bytes h
    rw [wordsOfBytes_eq, h]
  constructor
  · rintro ⟨hlength, padded, hpadded, h⟩
    obtain rfl := isPadded_iff.mp hpadded
    rw [hwords hlength] at h
    rw [sha256_eq, ← h, flatMap_wordsOfBytes (hlength ▸ by decide)]
  · rintro rfl
    refine ⟨length_sha256 message, pad message, isPadded_iff.mpr rfl, ?_⟩
    rw [hwords (length_sha256 message), sha256_eq, wordsOfBytes_flatMap]

end ColumnMask.Digest
