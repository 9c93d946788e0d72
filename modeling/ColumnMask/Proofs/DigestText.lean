-- The text of a digest. It has 64 digits in lower case, which in pairs are the bytes of the SHA-256
-- digest of a name, so names share a text exactly if they share a digest. There is no quote in it,
-- and so it stands between quotes as it is.
import ColumnMask.Digest
import ColumnMask.Rewrite
import ColumnMask.Sql.Lexer
import ColumnMask.Proofs.InnerTargets
import ColumnMask.Proofs.SecureHash

namespace ColumnMask

namespace Digest

/-! ## Digits -/

/-- The digits in base sixteen, in lower case. -/
def IsHexDigit (c : Char) : Prop := '0' ≤ c ∧ c ≤ '9' ∨ 'a' ≤ c ∧ c ≤ 'f'

instance (c : Char) : Decidable (IsHexDigit c) := inferInstanceAs (Decidable (_ ∨ _))

theorem isHexDigit_hexDigit : ∀ n < 16, IsHexDigit (hexDigit n) := by decide

theorem hexValue?_hexDigit : ∀ n < 16, hexValue? (hexDigit n) = some n := by decide

theorem toNat_lt_of_hexValue? {c : Char} {n : Nat} (h : hexValue? c = some n) : c.toNat < 103 := by
  unfold hexValue? at h
  split at h
  · rename_i hc
    have hlast : c.toNat ≤ 57 := hc.2
    omega
  · split at h
    · rename_i hc
      have hlast : c.toNat ≤ 102 := hc.2
      omega
    · cases h

theorem hexDigit_of_code : ∀ code < 103, ∀ n ∈ hexValue? (Char.ofNat code),
    n < 16 ∧ Char.ofNat code = hexDigit n := by
  decide

/-- Each digit has one value, and each value below sixteen has one digit. -/
theorem hexValue?_eq_some_iff {c : Char} {n : Nat} :
    hexValue? c = some n ↔ n < 16 ∧ c = hexDigit n := by
  constructor
  · intro h
    have hcode := hexDigit_of_code c.toNat (toNat_lt_of_hexValue? h) n
    rw [Char.ofNat_toNat] at hcode
    exact hcode h
  · rintro ⟨hn, rfl⟩
    exact hexValue?_hexDigit n hn

/-! ## Bytes -/

theorem hexChars_cons (b : UInt8) (bytes : List UInt8) :
    hexChars (b :: bytes) = hexDigit (b.toNat / 16) :: hexDigit (b.toNat % 16) :: hexChars bytes :=
  rfl

theorem bytesOfHex?_hexChars (bytes : List UInt8) : bytesOfHex? (hexChars bytes) = some bytes := by
  induction bytes with
  | nil => rfl
  | cons b bytes ih =>
    have hb := b.toNat_lt
    have hvalue : 16 * (b.toNat / 16) + b.toNat % 16 = b.toNat := Nat.div_add_mod _ _
    rw [hexChars_cons, bytesOfHex?, hexValue?_hexDigit _ (by omega),
      hexValue?_hexDigit _ (by omega), ih]
    show some (UInt8.ofNat (16 * (b.toNat / 16) + b.toNat % 16) :: bytes) = some (b :: bytes)
    rw [hvalue, UInt8.ofNat_toNat]

/-- Only the digits of some bytes are read as these bytes. -/
theorem bytesOfHex?_eq_some_iff {cs : List Char} {bytes : List UInt8} :
    bytesOfHex? cs = some bytes ↔ cs = hexChars bytes := by
  constructor
  · intro h
    induction cs using bytesOfHex?.induct generalizing bytes with
    | case1 =>
      rw [bytesOfHex?] at h
      rw [← Option.some.inj h]
      rfl
    | case2 c => cases h
    | case3 c d rest ih =>
      rw [bytesOfHex?] at h
      simp only [Option.bind_eq_bind, Option.bind_eq_some_iff, hexValue?_eq_some_iff] at h
      obtain ⟨high, ⟨hhigh, rfl⟩, low, ⟨hlow, rfl⟩, more, hmore, hbytes⟩ := h
      obtain rfl := Option.some.inj hbytes
      have hbyte : (UInt8.ofNat (16 * high + low)).toNat = 16 * high + low := by
        rw [UInt8.toNat_ofNat']
        omega
      have hdiv : (16 * high + low) / 16 = high := by omega
      have hmod : (16 * high + low) % 16 = low := by omega
      rw [hexChars_cons, hbyte, hdiv, hmod, ← ih hmore]
  · rintro rfl
    exact bytesOfHex?_hexChars bytes

theorem hexChars_inj {as bs : List UInt8} : hexChars as = hexChars bs ↔ as = bs := by
  rw [← bytesOfHex?_eq_some_iff, bytesOfHex?_hexChars, Option.some.injEq]

theorem length_hexChars (bytes : List UInt8) : (hexChars bytes).length = 2 * bytes.length := by
  induction bytes with
  | nil => rfl
  | cons b bytes ih =>
    rw [hexChars_cons, List.length_cons, List.length_cons, List.length_cons, ih]
    omega

theorem isHexDigit_of_mem {bytes : List UInt8} : ∀ c ∈ hexChars bytes, IsHexDigit c := by
  intro c hc
  obtain ⟨b, _, hb⟩ := List.mem_flatMap.mp hc
  have hlt := b.toNat_lt
  rcases List.mem_pair.mp hb with rfl | rfl
  · exact isHexDigit_hexDigit _ (by omega)
  · exact isHexDigit_hexDigit _ (by omega)

end Digest

/-! ## Texts without a quote -/

namespace Sql

/-- Where there is no quote, nothing is escaped. -/
theorem escapeQuotes_eq_self {quote : Char} (before : Char) {cs : List Char} (h : quote ∉ cs) :
    escapeQuotes quote before cs = cs := by
  induction cs generalizing before with
  | nil => rfl
  | cons c cs ih =>
    have hc := List.ne_of_not_mem_cons h
    have hcs := List.not_mem_of_not_mem_cons h
    cases cs with
    | nil => rw [escapeQuotes, if_neg fun hq => hc hq.1.symm]
    | cons d ds => rw [escapeQuotes, if_pos (Ne.symm hc), ih c hcs]

theorem quoted_eq {text : String} (h : '"' ∉ text.toList) :
    quoted '"' text = "\"" ++ text ++ "\"" := by
  rw [quoted, escapeQuotes_eq_self _ h, String.ofList_toList, String.append_assoc]
  rfl

theorem scanQuoted_cons {quote c : Char} (hc : c ≠ quote) {more : List Char} (hmore : more ≠ []) :
    scanQuoted quote (c :: more) = (scanQuoted quote more).map fun (s, r) => (c :: s, r) := by
  obtain ⟨d, rest, rfl⟩ := List.exists_cons_of_ne_nil hmore
  rw [scanQuoted, if_neg hc]

/-- Up to the closing quote all is read, unless the quote is doubled. -/
theorem scanQuoted_append {quote : Char} {cs rest : List Char} (h : quote ∉ cs)
    (hrest : rest.head? ≠ some quote) :
    scanQuoted quote (cs ++ quote :: rest) = some (cs, rest) := by
  induction cs with
  | nil =>
    rw [List.nil_append]
    cases rest with
    | nil => rw [scanQuoted, if_pos rfl]
    | cons d rest =>
      have hd : d ≠ quote := fun heq => hrest (congrArg some heq)
      rw [scanQuoted, if_pos rfl, if_neg hd]
  | cons c cs ih =>
    have hc := List.ne_of_not_mem_cons h
    have hcs := List.not_mem_of_not_mem_cons h
    rw [List.cons_append, scanQuoted_cons (Ne.symm hc) (by simp), ih hcs]
    rfl

theorem scanToken_quote (afterWord : Bool) {cs text rest : List Char}
    (h : scanQuoted '"' cs = some (text, rest)) :
    scanToken afterWord ('"' :: cs) = .ok (.ofWord (String.ofList text) (some '"'), rest) := by
  -- The cases of the lexer overlap, so it has no equation of its own to rewrite with.
  delta scanToken
  dsimp only
  simp [h]

/-- A text without a quote is one token between quotes. -/
theorem scanToken_quoted (afterWord : Bool) {text : String} {rest : List Char}
    (h : '"' ∉ text.toList) (hrest : rest.head? ≠ some '"') :
    scanToken afterWord (("\"" ++ text ++ "\"").toList ++ rest) =
      .ok (.ofWord text (some '"'), rest) := by
  have hchars : ("\"" ++ text ++ "\"").toList ++ rest = '"' :: (text.toList ++ '"' :: rest) := by
    simp
  rw [hchars, scanToken_quote afterWord (scanQuoted_append h hrest), String.ofList_toList]

end Sql

/-! ## The digest of a name -/

theorem toList_columnDigest (name : String) :
    (columnDigest name).toList = Digest.hexChars (Digest.sha256 (utf8 name)) :=
  String.toList_ofList

theorem columnDigest_eq_iff {a b : String} :
    columnDigest a = columnDigest b ↔ Digest.sha256 (utf8 a) = Digest.sha256 (utf8 b) := by
  rw [← String.toList_inj, toList_columnDigest, toList_columnDigest, Digest.hexChars_inj]

theorem isHexDigit_columnDigest {name : String} :
    ∀ c ∈ (columnDigest name).toList, Digest.IsHexDigit c := by
  rw [toList_columnDigest]
  exact Digest.isHexDigit_of_mem

theorem not_mem_columnDigest {name : String} {c : Char} (h : ¬ Digest.IsHexDigit c) :
    c ∉ (columnDigest name).toList :=
  fun hc => h (isHexDigit_columnDigest c hc)

theorem length_columnDigest (name : String) : (columnDigest name).length = columnDigestLength := by
  rw [← String.length_toList, toList_columnDigest, Digest.length_hexChars, Digest.length_sha256]
  rfl

open Sql

/-- What the text of the digest of a name tells, and how it stands in SQL. -/
structure IsTextOfDigest (name text : String) : Prop where
  length : text.length = columnDigestLength ∧ columnDigestLength = 64
  /-- All its characters are digits in base sixteen, in lower case. -/
  digits : ∀ c ∈ text.toList, '0' ≤ c ∧ c ≤ '9' ∨ 'a' ≤ c ∧ c ≤ 'f'
  /-- In pairs, the higher digit first, they are the 32 bytes of the digest of the name. -/
  bytes : Digest.bytesOfHex? text.toList = some (Digest.sha256 (utf8 name)) ∧
    (Digest.sha256 (utf8 name)).length = 32
  /-- These bytes are what the Secure Hash Standard makes of the bytes of the name. -/
  standard : ∀ {bytes : List UInt8},
    Digest.IsDigest (utf8 name) bytes ↔ bytes = Digest.sha256 (utf8 name)
  /-- No other text is read as these bytes. -/
  only : ∀ {other : String},
    Digest.bytesOfHex? other.toList = some (Digest.sha256 (utf8 name)) → other = text
  /-- Another name has the same text exactly if it has the same digest. -/
  same_iff : ∀ {other : String},
    columnDigest other = text ↔ Digest.sha256 (utf8 other) = Digest.sha256 (utf8 name)
  /-- Whatever stands before it, nothing of it is escaped. -/
  unescaped : ∀ before, escapeQuotes '"' before text.toList = text.toList
  /-- A column of this name that is renamed is written as the text between quotes. -/
  written : ∀ {columns : ColumnSet} {i : Ident}, name ∈ columns → i.value = name →
    ∃ j, renameColumn (Mapping.build columnDigest columns) i = .ok j ∧ j.value = text ∧
      j.show = "\"" ++ text ++ "\""
  /-- What is written so is one word between quotes, unless a further quote follows. -/
  scanned : ∀ (afterWord : Bool) {rest : List Char}, rest.head? ≠ some '"' →
    scanToken afterWord (("\"" ++ text ++ "\"").toList ++ rest) =
      .ok (.ofWord text (some '"'), rest)

theorem digests_are_kept_in_their_texts (name : String) :
    IsTextOfDigest name (columnDigest name) := by
  have hquote : '"' ∉ (columnDigest name).toList := not_mem_columnDigest (by decide)
  constructor
  case length => exact ⟨length_columnDigest name, rfl⟩
  case digits => exact isHexDigit_columnDigest
  case bytes =>
    rw [toList_columnDigest]
    exact ⟨Digest.bytesOfHex?_hexChars _, Digest.length_sha256 _⟩
  case standard => exact Digest.isDigest_iff
  case only =>
    intro other h
    rw [Digest.bytesOfHex?_eq_some_iff, ← toList_columnDigest] at h
    exact String.toList_inj.mp h
  case same_iff => exact columnDigest_eq_iff
  case unescaped => exact fun before => escapeQuotes_eq_self before hquote
  case written =>
    rintro columns i hname rfl
    refine ⟨masked columnDigest i, ?_, rfl, quoted_eq hquote⟩
    rw [renameColumn, Mapping.get?_build hname]
    rfl
  case scanned => exact fun afterWord _ hrest => scanToken_quoted afterWord hquote hrest

example : columnDigest "a" =
    "ca978112ca1bbdcafac231b39a23dc4da786eff8147c4e72b9807785afee48bb" := by
  decide +kernel

end ColumnMask
