-- The digest that stands for the name of a column: the SHA-256 digest of its bytes, as the
-- Secure Hash Standard defines it, in digits of base sixteen. It has no salt, so the same
-- name has the same digest wherever it is computed.

namespace ColumnMask

namespace Digest

/-! ## Bytes and words -/

/-- A word of 32 bits from four bytes, the highest first. -/
def wordOfBytes (a b c d : UInt8) : UInt32 :=
  a.toUInt32 <<< 24 ||| b.toUInt32 <<< 16 ||| c.toUInt32 <<< 8 ||| d.toUInt32

/-- The four bytes of a word, the highest first. -/
def bytesOfWord (w : UInt32) : List UInt8 :=
  [(w >>> 24).toUInt8, (w >>> 16).toUInt8, (w >>> 8).toUInt8, w.toUInt8]

/-- The words of a list of bytes; bytes at the end that fill no word are dropped. -/
def wordsOfBytes : List UInt8 → List UInt32
  | a :: b :: c :: d :: rest => wordOfBytes a b c d :: wordsOfBytes rest
  | _ => []

/-- The eight bytes of a number below `2 ^ 64`, the highest first. -/
def bytesOfNat64 (n : Nat) : List UInt8 :=
  [56, 48, 40, 32, 24, 16, 8, 0].map fun shift => UInt8.ofNat (n >>> shift)

/-- The word with its bits moved to the right, those that fall out coming in on the left. -/
def rotateRight (w : UInt32) (n : UInt32) : UInt32 := w >>> n ||| w <<< (32 - n)

/-! ## Padding -/

/-- The message with a one bit, zero bits and its length in bits behind it, so that it fills
blocks of 64 bytes. -/
def pad (message : List UInt8) : List UInt8 :=
  message ++ 0x80 :: List.replicate ((119 - message.length % 64) % 64) 0 ++
    bytesOfNat64 (8 * message.length)

/-- A list cut into blocks of sixteen words. -/
def blocks (words : List UInt32) : List (List UInt32) :=
  if words.length < 16 then [] else words.take 16 :: blocks (words.drop 16)
termination_by words.length
decreasing_by simp; omega

/-! ## The compression function -/

/-- The constant of each of the 64 rounds. -/
def roundConstants : List UInt32 :=
  [ 0x428a2f98, 0x71374491, 0xb5c0fbcf, 0xe9b5dba5, 0x3956c25b, 0x59f111f1, 0x923f82a4, 0xab1c5ed5,
    0xd807aa98, 0x12835b01, 0x243185be, 0x550c7dc3, 0x72be5d74, 0x80deb1fe, 0x9bdc06a7, 0xc19bf174,
    0xe49b69c1, 0xefbe4786, 0x0fc19dc6, 0x240ca1cc, 0x2de92c6f, 0x4a7484aa, 0x5cb0a9dc, 0x76f988da,
    0x983e5152, 0xa831c66d, 0xb00327c8, 0xbf597fc7, 0xc6e00bf3, 0xd5a79147, 0x06ca6351, 0x14292967,
    0x27b70a85, 0x2e1b2138, 0x4d2c6dfc, 0x53380d13, 0x650a7354, 0x766a0abb, 0x81c2c92e, 0x92722c85,
    0xa2bfe8a1, 0xa81a664b, 0xc24b8b70, 0xc76c51a3, 0xd192e819, 0xd6990624, 0xf40e3585, 0x106aa070,
    0x19a4c116, 0x1e376c08, 0x2748774c, 0x34b0bcb5, 0x391c0cb3, 0x4ed8aa4a, 0x5b9cca4f, 0x682e6ff3,
    0x748f82ee, 0x78a5636f, 0x84c87814, 0x8cc70208, 0x90befffa, 0xa4506ceb, 0xbef9a3f7, 0xc67178f2 ]

/-- The eight words that the blocks of a message change one after the other. -/
structure State where
  a : UInt32
  b : UInt32
  c : UInt32
  d : UInt32
  e : UInt32
  f : UInt32
  g : UInt32
  h : UInt32
  deriving DecidableEq, Repr

def State.initial : State :=
  ⟨0x6a09e667, 0xbb67ae85, 0x3c6ef372, 0xa54ff53a, 0x510e527f, 0x9b05688c, 0x1f83d9ab, 0x5be0cd19⟩

/-- Further words of a message schedule. The words so far stand last first. -/
def extend : Nat → List UInt32 → List UInt32
  | 0, words => words
  | n + 1, words =>
    let at_ (i : Nat) := words.getD (i - 1) 0
    let s0 := rotateRight (at_ 15) 7 ^^^ rotateRight (at_ 15) 18 ^^^ at_ 15 >>> 3
    let s1 := rotateRight (at_ 2) 17 ^^^ rotateRight (at_ 2) 19 ^^^ at_ 2 >>> 10
    extend n ((at_ 16 + s0 + at_ 7 + s1) :: words)

/-- The 64 words that the rounds take from a block. -/
def schedule (block : List UInt32) : List UInt32 := (extend 48 block.reverse).reverse

/-- One round, with the sum of its constant and its word. -/
def State.round (s : State) (k : UInt32) : State :=
  let s1 := rotateRight s.e 6 ^^^ rotateRight s.e 11 ^^^ rotateRight s.e 25
  let choice := (s.e &&& s.f) ^^^ (~~~s.e &&& s.g)
  let t1 := s.h + s1 + choice + k
  let s0 := rotateRight s.a 2 ^^^ rotateRight s.a 13 ^^^ rotateRight s.a 22
  let majority := (s.a &&& s.b) ^^^ (s.a &&& s.c) ^^^ (s.b &&& s.c)
  ⟨t1 + s0 + majority, s.a, s.b, s.c, s.d + t1, s.e, s.f, s.g⟩

/-- What a block makes of the state. -/
def State.compress (s : State) (block : List UInt32) : State :=
  let t := ((roundConstants.zip (schedule block)).map fun (k, w) => k + w).foldl State.round s
  ⟨s.a + t.a, s.b + t.b, s.c + t.c, s.d + t.d, s.e + t.e, s.f + t.f, s.g + t.g, s.h + t.h⟩

def State.words (s : State) : List UInt32 := [s.a, s.b, s.c, s.d, s.e, s.f, s.g, s.h]

/-! ## The SHA-256 digest -/

/-- The 32 bytes of the SHA-256 digest of a message. -/
def sha256 (message : List UInt8) : List UInt8 :=
  ((blocks (wordsOfBytes (pad message))).foldl State.compress .initial).words.flatMap bytesOfWord

/-! ## Digits in base sixteen -/

/-- The digit of a number below sixteen, in lower case. -/
def hexDigit (n : Nat) : Char := Nat.digitChar n

/-- The number that a digit in lower case stands for. -/
def hexValue? (c : Char) : Option Nat :=
  if '0' ≤ c ∧ c ≤ '9' then some (c.toNat - '0'.toNat)
  else if 'a' ≤ c ∧ c ≤ 'f' then some (c.toNat - 'a'.toNat + 10)
  else none

/-! ## Bytes as digits -/

/-- The two digits of a byte, a leading zero kept. -/
def hexOfByte (b : UInt8) : List Char := [hexDigit (b.toNat / 16), hexDigit (b.toNat % 16)]

/-- The digits of a list of bytes. -/
def hexChars (bytes : List UInt8) : List Char := bytes.flatMap hexOfByte

/-- The bytes that pairs of digits stand for, if there are only pairs of digits. -/
def bytesOfHex? : List Char → Option (List UInt8)
  | [] => some []
  | [_] => none
  | c :: d :: rest => do
    let high ← hexValue? c
    let low ← hexValue? d
    let bytes ← bytesOfHex? rest
    return UInt8.ofNat (16 * high + low) :: bytes

end Digest

/-! ## The digest of a column -/

/-- The bytes of a text in UTF-8. -/
def utf8 (text : String) : List UInt8 := text.toUTF8.data.toList

/-- How many characters the digest of a column has. -/
def columnDigestLength : Nat := 64

/-- The digest of a column: the SHA-256 digest of its name's bytes, as text. -/
def columnDigest (name : String) : String :=
  String.ofList (Digest.hexChars (Digest.sha256 (utf8 name)))

end ColumnMask
