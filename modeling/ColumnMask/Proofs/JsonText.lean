-- JSON text that is printed reads back. Strings read back as they are, whole numbers with
-- their digits, and a value over several lines as that value and nothing else.
import ColumnMask.Json.Reader
import Mathlib.Data.List.TakeDrop
import Mathlib.Data.List.TakeWhile

namespace ColumnMask.Json

/-! ## Strings -/

/-- What is read of a string with one more character in front. -/
abbrev withChar (c : Char) (found : List (Option Char) × List Char) :
    List (Option Char) × List Char :=
  (some c :: found.1, found.2)

theorem readString_escaped {letter c : Char} (h : escaped? letter = some c) (rest : List Char) :
    readString ('\\' :: letter :: rest) = (readString rest).map (withChar c) := by
  have hu : letter ≠ 'u' := by
    rintro rfl
    cases h
  rw [readString, h]
  · rcases readString rest with _ | found <;> rfl
  · exact fun _ _ _ _ _ h => absurd h hu

theorem hexValue?_digitChar : ∀ d < 16, hexValue? (Nat.digitChar d) = some d := by decide

theorem unit?_controlDigits {c : Char} (h : c.toNat < 0x20) :
    unit? '0' '0' (Nat.digitChar (c.toNat / 16)) (Nat.digitChar (c.toNat % 16)) =
      some c.toNat := by
  have hzero : hexValue? '0' = some 0 := rfl
  unfold unit?
  rw [hzero, hexValue?_digitChar _ (by omega), hexValue?_digitChar _ (by omega)]
  show some (4096 * 0 + 256 * 0 + 16 * (c.toNat / 16) + c.toNat % 16) = _
  congr 1
  omega

theorem readString_control {c : Char} (h : c.toNat < 0x20) (rest : List Char) :
    readString (['\\', 'u', '0', '0'] ++ controlDigits c ++ rest) =
      (readString rest).map (withChar c) := by
  have hlow : ¬ (0xD800 ≤ c.toNat ∧ c.toNat < 0xDC00) := by omega
  have hhigh : ¬ (0xDC00 ≤ c.toNat ∧ c.toNat < 0xE000) := by omega
  unfold controlDigits
  simp only [List.cons_append, List.nil_append]
  rw [readString, unit?_controlDigits h]
  simp only [bind, Option.bind, if_neg hlow, if_neg hhigh, Char.ofNat_toNat]
  rcases readString rest with _ | found <;> rfl

theorem readString_plain {c : Char} (hquote : c ≠ '"') (hslash : c ≠ '\\') (h : ¬ c.toNat < 0x20)
    (rest : List Char) : readString (c :: rest) = (readString rest).map (withChar c) := by
  rw [readString]
  · simp only [decide_eq_false h, decide_eq_false hslash, Bool.or_self, Bool.false_eq_true,
      if_false]
    rcases readString rest with _ | found <;> rfl
  all_goals simp_all

/-- A character is read back from what is written for it. -/
theorem readString_escapeChar (c : Char) (rest : List Char) :
    readString (escapeChar c ++ rest) = (readString rest).map (withChar c) := by
  unfold escapeChar
  split_ifs with hquote hslash _ _ _ _ _ hcontrol
  -- Seven characters have a letter of their own.
  iterate 7 (subst_vars; exact readString_escaped rfl rest)
  · exact readString_control hcontrol rest
  · exact readString_plain hquote hslash hcontrol rest

theorem readString_escaped_text (cs rest : List Char) :
    readString (cs.flatMap escapeChar ++ '"' :: rest) = some (cs.map some, rest) := by
  induction cs with
  | nil => rfl
  | cons c cs ih =>
    rw [List.flatMap_cons, List.append_assoc, readString_escapeChar, ih]
    rfl

/-- A string is read back up to its closing quote. -/
theorem ofChars_toList (s : String) : ofChars (s.toList.map some) = .text s := by
  unfold ofChars
  simp

/-! ## Whole numbers -/

/-- What may follow a value in the text over several lines: nothing, a comma or a line end. -/
def Follows (rest : List Char) : Prop := ∀ c ∈ rest.head?, c = ',' ∨ c = '\n'

theorem follows_comma (rest : List Char) : Follows (',' :: rest) := by simp [Follows]

theorem follows_newline (level : Nat) (rest : List Char) : Follows (newline level ++ rest) := by
  simp [Follows, newline]

theorem not_isDigit_of_follows {c : Char} (h : c = ',' ∨ c = '\n') : ¬ c.isDigit := by
  rcases h with rfl | rfl <;> decide

theorem readDigits?_append {digits rest : List Char} (hne : digits ≠ [])
    (hdigits : ∀ c ∈ digits, c.isDigit) (h : Follows rest) :
    readDigits? (digits ++ rest) = some (digits, rest) := by
  have hspan : (digits ++ rest).span Char.isDigit = (digits, rest) := by
    rw [List.span_eq_takeWhile_dropWhile, List.takeWhile_append_of_pos hdigits,
      List.dropWhile_append_of_pos hdigits]
    cases rest with
    | nil => simp
    | cons c rest =>
      have hc := not_isDigit_of_follows (h c rfl)
      simp [hc]
  unfold readDigits?
  rw [hspan]
  cases digits with
  | nil => exact absurd rfl hne
  | cons d digits => rfl

theorem readFraction?_of_follows {rest : List Char} (h : Follows rest) :
    readFraction? rest = some ([], rest) := by
  cases rest with
  | nil => rfl
  | cons c rest => rcases h c rfl with rfl | rfl <;> rfl

theorem readExponent?_of_follows {rest : List Char} (h : Follows rest) :
    readExponent? rest = some ([], rest) := by
  cases rest with
  | nil => rfl
  | cons c rest => rcases h c rfl with rfl | rfl <;> rfl

theorem head?_append_of_ne_nil {cs rest : List Char} (h : cs ≠ []) :
    (cs ++ rest).head? = cs.head? := by
  cases cs with
  | nil => exact absurd rfl h
  | cons c cs => rfl

theorem digitChar_ne_zero : ∀ n < 10, 0 < n → Nat.digitChar n ≠ '0' := by decide

/-- The digits of a number other than zero do not start with a zero. -/
theorem head?_toDigits {n : Nat} (h : 0 < n) : (Nat.toDigits 10 n).head? ≠ some '0' := by
  induction n using Nat.strongRecOn with
  | _ n ih =>
    by_cases hn : n < 10
    · rw [Nat.toDigits_of_lt_base hn]
      exact fun hhead => digitChar_ne_zero n hn h (Option.some.inj hhead)
    · rw [Nat.toDigits_of_base_le (by decide) (by omega),
        head?_append_of_ne_nil Nat.toDigits_ne_nil]
      exact ih (n / 10) (by omega) (by omega)

/-- The digits of a whole number. -/
structure Digits (digits : List Char) : Prop where
  ne_nil : digits ≠ []
  isDigit : ∀ c ∈ digits, c.isDigit
  /-- No needless zero comes first. -/
  lone_zero : digits = ['0'] ∨ digits.head? ≠ some '0'

theorem digits_toDigits (n : Nat) : Digits (Nat.toDigits 10 n) where
  ne_nil := Nat.toDigits_ne_nil
  isDigit _ := Nat.isDigit_of_mem_toDigits (by decide) (by decide)
  lone_zero := by
    rcases Nat.eq_zero_or_pos n with rfl | h
    · exact .inl rfl
    · exact .inr (head?_toDigits h)

/-- The part of a number in front of a point. -/
def readWhole? (cs : List Char) : Option (List Char × List Char) :=
  match cs with
  | '0' :: rest => match rest with
    | d :: _ => if d.isDigit then none else some (['0'], rest)
    | [] => some (['0'], [])
  | cs => readDigits? cs

/-- A number after its sign. -/
def readUnsigned? (sign cs : List Char) : Option (Json × List Char) := do
  let (whole, rest) ← readWhole? cs
  let (fraction, rest) ← readFraction? rest
  let (exponent, rest) ← readExponent? rest
  return (.number (String.ofList (sign ++ whole ++ fraction ++ exponent)), rest)

theorem readNumber?_negative (cs : List Char) :
    readNumber? ('-' :: cs) = readUnsigned? ['-'] cs := by
  unfold readUnsigned? readWhole?
  split
  · split
    · rename_i d rest
      by_cases hd : d.isDigit
      · simp [readNumber?, hd]
      · simp [readNumber?, hd]
    · rfl
  · rename_i hzero
    unfold readNumber?
    simp only

theorem readNumber?_positive {cs : List Char} (h : cs.head? ≠ some '-') :
    readNumber? cs = readUnsigned? [] cs := by
  have hsign : ∀ rest, cs ≠ '-' :: rest := by
    rintro rest rfl
    exact h rfl
  unfold readUnsigned? readWhole?
  split
  · split
    · rename_i d rest
      by_cases hd : d.isDigit
      · simp [readNumber?, hd]
      · simp [readNumber?, hd]
    · rfl
  · rename_i hzero
    unfold readNumber?
    simp only

theorem Digits.readUnsigned?_eq {digits rest : List Char} (hd : Digits digits) (h : Follows rest)
    (sign : List Char) : readUnsigned? sign (digits ++ rest) =
      some (.number (String.ofList (sign ++ digits)), rest) := by
  have hwhole : readWhole? (digits ++ rest) = some (digits, rest) := by
    rcases hd.lone_zero with rfl | hhead
    · cases rest with
      | nil => rfl
      | cons c rest => exact if_neg (not_isDigit_of_follows (h c rfl))
    · have hread := readDigits?_append hd.ne_nil hd.isDigit h
      unfold readWhole?
      split
      · rename_i tail heq
        have hzero := congrArg List.head? heq
        rw [head?_append_of_ne_nil hd.ne_nil] at hzero
        exact absurd hzero hhead
      · exact hread
  unfold readUnsigned?
  rw [hwhole]
  show ((readFraction? rest).bind _) = _
  rw [readFraction?_of_follows h]
  show ((readExponent? rest).bind _) = _
  rw [readExponent?_of_follows h]
  show some (number (String.ofList (sign ++ digits ++ [] ++ [])), rest) = _
  rw [List.append_nil, List.append_nil]

theorem toList_toString_nat (n : Nat) : (toString n).toList = Nat.toDigits 10 n := by simp

theorem toList_toString_ofNat (n : Nat) : (toString (Int.ofNat n)).toList = Nat.toDigits 10 n :=
  toList_toString_nat n

theorem toList_toString_negSucc (n : Nat) :
    (toString (Int.negSucc n)).toList = '-' :: Nat.toDigits 10 (n + 1) := by
  have happend : toString (Int.negSucc n) = "-" ++ toString (n + 1) := rfl
  rw [happend, String.toList_append, toList_toString_nat]
  rfl

/-- A whole number is read back from its digits and its sign. -/
theorem readNumber?_toString (n : Int) {rest : List Char} (h : Follows rest) :
    readNumber? ((toString n).toList ++ rest) = some (.number (toString n), rest) := by
  cases n with
  | ofNat n =>
    have hd := digits_toDigits n
    have htext := toList_toString_ofNat n
    have hsign : (Nat.toDigits 10 n ++ rest).head? ≠ some '-' := by
      rw [head?_append_of_ne_nil hd.ne_nil]
      exact fun hminus => absurd (hd.isDigit _ (List.mem_of_head? hminus)) (by decide)
    rw [htext, readNumber?_positive hsign, hd.readUnsigned?_eq h, List.nil_append, ← htext,
      String.ofList_toList]
  | negSucc n =>
    have hd := digits_toDigits (n + 1)
    have htext := toList_toString_negSucc n
    rw [htext, List.cons_append, readNumber?_negative, hd.readUnsigned?_eq h, List.singleton_append,
      ← htext, String.ofList_toList]

/-! ## Values over several lines -/

mutual

/-- All numbers in a value are whole. -/
def Whole : Json → Prop
  | .number digits => ∃ n : Int, digits = toString n
  | .array items => WholeItems items
  | .object fields => WholeFields fields
  | .null | .bool _ | .text _ | .halfText => True

def WholeItems : List Json → Prop
  | [] => True
  | item :: items => item.Whole ∧ WholeItems items

def WholeFields : List (String × Json) → Prop
  | [] => True
  | (_, value) :: fields => value.Whole ∧ WholeFields fields

end

/-! ### Blanks -/

theorem isBlank_of_mem_newline {level : Nat} {c : Char} (h : c ∈ newline level) : isBlank c := by
  unfold newline at h
  rcases List.mem_cons.mp h with rfl | h
  · rfl
  · rw [List.eq_of_mem_replicate h]
    rfl

theorem skipBlanks_append {blanks : List Char} (h : ∀ c ∈ blanks, isBlank c) (cs : List Char) :
    skipBlanks (blanks ++ cs) = skipBlanks cs :=
  List.dropWhile_append_of_pos h

theorem skipBlanks_newline (level : Nat) (cs : List Char) :
    skipBlanks (newline level ++ cs) = skipBlanks cs :=
  skipBlanks_append (fun _ => isBlank_of_mem_newline) cs

theorem skipBlanks_cons {c : Char} (h : ¬ isBlank c) (cs : List Char) :
    skipBlanks (c :: cs) = c :: cs :=
  List.dropWhile_cons_of_neg h

theorem readValue_skip (fuel : Nat) {cs cs' : List Char} (h : skipBlanks cs = skipBlanks cs') :
    readValue fuel cs = readValue fuel cs' := by
  cases fuel with
  | zero => rfl
  | succ fuel => rw [readValue, readValue, h]

/-! ### The first character -/

/-- A character that a number can start with. -/
def StartsNumber (c : Char) : Prop := c.isDigit ∨ c = '-'

theorem startsNumber_toString (n : Int) :
    ∃ c cs, (toString n).toList = c :: cs ∧ StartsNumber c := by
  cases n with
  | ofNat n =>
    have hd := digits_toDigits n
    obtain ⟨c, cs, hcs⟩ := List.exists_cons_of_ne_nil hd.ne_nil
    have hc := hd.isDigit c (hcs ▸ List.mem_cons_self)
    exact ⟨c, cs, (toList_toString_ofNat n).trans hcs, .inl hc⟩
  | negSucc n => exact ⟨'-', _, toList_toString_negSucc n, .inr rfl⟩

/-- No other value starts like a number. -/
theorem StartsNumber.ne {c : Char} (h : StartsNumber c) : ¬ isBlank c ∧ c ≠ '"' ∧ c ≠ '[' ∧
    c ≠ ']' ∧ c ≠ '\x7b' ∧ c ≠ 'n' ∧ c ≠ 't' ∧ c ≠ 'f' := by
  rcases h with h | rfl
  · refine ⟨?_, ?_, ?_, ?_, ?_, ?_, ?_, ?_⟩
    · intro hb
      simp only [isBlank, Bool.or_eq_true, decide_eq_true_eq] at hb
      rcases hb with ((rfl | rfl) | rfl) | rfl <;> exact absurd h (by decide)
    all_goals
      rintro rfl
      exact absurd h (by decide)
  · decide

theorem readValue_number {fuel : Nat} {c : Char} (h : StartsNumber c) (cs : List Char) :
    readValue (fuel + 1) (c :: cs) = readNumber? (c :: cs) := by
  obtain ⟨hb, hquote, hlist, -, hobject, hn, ht, hf⟩ := h.ne
  rw [readValue, skipBlanks_cons hb]
  split <;> simp_all

/-- A value starts with no blank, and not with the end of a list. -/
theorem exists_head (j : Json) (h : j.Whole) (level : Nat) :
    ∃ c cs, j.prettyChars level = c :: cs ∧ ¬ isBlank c ∧ c ≠ ']' := by
  cases j with
  | number digits =>
    obtain ⟨n, rfl⟩ := h
    obtain ⟨c, cs, hcs, hc⟩ := startsNumber_toString n
    exact ⟨c, cs, hcs, hc.ne.1, hc.ne.2.2.2.1⟩
  | bool b => cases b <;> exact ⟨_, _, rfl, by decide, by decide⟩
  | array items => cases items <;> exact ⟨_, _, rfl, by decide, by decide⟩
  | object fields => cases fields <;> exact ⟨_, _, rfl, by decide, by decide⟩
  | _ => exact ⟨_, _, rfl, by decide, by decide⟩

/-! ### Reading back -/

theorem readString_text (s : String) (rest : List Char) :
    readString (s.toList.flatMap escapeChar ++ ['"'] ++ rest) = some (s.toList.map some, rest) := by
  rw [List.append_assoc]
  exact readString_escaped_text s.toList rest

/-- A field is read back if its value is. -/
theorem readField_of_readValue {fuel : Nat} {name : String} {value : Json} {cs rest : List Char}
    (h : readValue fuel cs = some (value, rest)) :
    readField (fuel + 1) (stringChars name ++ ':' :: ' ' :: cs) = some ((name, value), rest) := by
  have hread := readString_text name (':' :: ' ' :: cs)
  have hskip : skipBlanks (' ' :: cs) = skipBlanks cs := rfl
  have hvalue : readValue fuel (' ' :: cs) = some (value, rest) :=
    (readValue_skip fuel hskip).trans h
  have hquote : skipBlanks (stringChars name ++ ':' :: ' ' :: cs) =
      '"' :: (name.toList.flatMap escapeChar ++ ['"'] ++ ':' :: ' ' :: cs) :=
    skipBlanks_cons (by decide) _
  have hcolon : skipBlanks (':' :: ' ' :: cs) = ':' :: ' ' :: cs := skipBlanks_cons (by decide) _
  rw [readField, hquote]
  simp only [hread, ofChars_toList, hcolon, hvalue, bind, Option.bind, pure]

section

variable {fuel level : Nat} {cs more rest : List Char} {found : Json × List Char}

theorem readValue_newline (h : readValue fuel cs = some found) :
    readValue fuel (newline level ++ cs) = some found :=
  (readValue_skip fuel (skipBlanks_newline level cs)).trans h

theorem readItems_end (fuel level : Nat) (rest : List Char) :
    readItems (fuel + 1) (newline level ++ ']' :: rest) = some ([], rest) := by
  rw [readItems, skipBlanks_newline]
  rfl

theorem readItems_cons {item : Json} {items : List Json}
    (hitem : readValue fuel cs = some (item, more))
    (hitems : readItems fuel more = some (items, rest)) :
    readItems (fuel + 1) (',' :: (newline level ++ cs)) = some (item :: items, rest) := by
  rw [readItems, skipBlanks_cons (by decide)]
  simp only [readValue_newline hitem, hitems, bind, Option.bind, pure]

theorem readFields_end (fuel level : Nat) (rest : List Char) :
    readFields (fuel + 1) (newline level ++ '\x7d' :: rest) = some ([], rest) := by
  rw [readFields, skipBlanks_newline]
  rfl

theorem readField_newline {found : (String × Json) × List Char}
    (h : readField fuel cs = some found) : readField fuel (newline level ++ cs) = some found := by
  cases fuel with
  | zero => cases h
  | succ fuel =>
    rw [readField] at h ⊢
    rwa [skipBlanks_newline]

theorem readFields_cons {field : String × Json} {fields : List (String × Json)}
    (hfield : readField fuel cs = some (field, more))
    (hfields : readFields fuel more = some (fields, rest)) :
    readFields (fuel + 1) (',' :: (newline level ++ cs)) = some (field :: fields, rest) := by
  rw [readFields, skipBlanks_cons (by decide)]
  simp only [readField_newline hfield, hfields, bind, Option.bind, pure]

theorem readValue_array {c : Char} {item : Json} {items : List Json} (hb : ¬ isBlank c)
    (hc : c ≠ ']') (hitem : readValue fuel (c :: cs) = some (item, more))
    (hitems : readItems fuel more = some (items, rest)) :
    readValue (fuel + 1) ('[' :: (newline level ++ c :: cs)) =
      some (.array (item :: items), rest) := by
  rw [readValue, skipBlanks_cons (by decide)]
  simp only [skipBlanks_newline, skipBlanks_cons hb]
  split
  · exact absurd (List.cons.inj ‹_›).1 hc
  · simp only [hitem, hitems, bind, Option.bind, pure]

theorem readValue_object {field : String × Json} {fields : List (String × Json)}
    (hfield : readField fuel ('"' :: cs) = some (field, more))
    (hfields : readFields fuel more = some (fields, rest)) :
    readValue (fuel + 1) ('\x7b' :: (newline level ++ '"' :: cs)) =
      some (.object (field :: fields), rest) := by
  have hquote : skipBlanks ('"' :: cs) = '"' :: cs := skipBlanks_cons (by decide) cs
  rw [readValue, skipBlanks_cons (by decide)]
  simp only [skipBlanks_newline, hquote]
  split
  · rename_i heq
    cases heq
  · simp only [hfield, hfields, bind, Option.bind, pure]

end

theorem follows_items (items : List Json) (level outer : Nat) (rest : List Char) :
    Follows (prettyRest level items ++ (newline outer ++ rest)) := by
  cases items with
  | nil => exact follows_newline outer rest
  | cons item items => exact follows_comma _

theorem follows_fields (fields : List (String × Json)) (level outer : Nat) (rest : List Char) :
    Follows (prettyFields level fields ++ (newline outer ++ rest)) := by
  cases fields with
  | nil => exact follows_newline outer rest
  | cons field fields => exact follows_comma _

mutual

/-- A value is read back from its text, up to what follows it. -/
theorem readValue_pretty : ∀ (j : Json) (level fuel : Nat) (rest : List Char), j.Whole →
    Follows rest → (j.prettyChars level).length ≤ fuel →
      readValue fuel (j.prettyChars level ++ rest) = some (j, rest)
  | j, level, 0, _, hw, _, hf => by
    obtain ⟨c, cs, hcs, _, _⟩ := exists_head j hw level
    rw [hcs] at hf
    cases hf
  | .null, _, fuel + 1, rest, _, _, _ => rfl
  | .bool true, _, fuel + 1, rest, _, _, _ => rfl
  | .bool false, _, fuel + 1, rest, _, _, _ => rfl
  | .number _, _, fuel + 1, rest, ⟨n, hn⟩, hrest, _ => by
    subst hn
    obtain ⟨c, cs, hcs, hc⟩ := startsNumber_toString n
    have hread := readNumber?_toString n hrest
    show readValue (fuel + 1) ((toString n).toList ++ rest) = _
    rw [hcs, List.cons_append] at hread ⊢
    rw [readValue_number hc, hread]
  | .text s, _, fuel + 1, rest, _, _, _ => by
    show ((readString (s.toList.flatMap escapeChar ++ ['"'] ++ rest)).map fun (found, rest) =>
      (ofChars found, rest)) = _
    rw [readString_text]
    exact congrArg (fun j => some (j, rest)) (ofChars_toList s)
  | .halfText, _, fuel + 1, rest, _, _, _ => rfl
  | .array [], _, fuel + 1, rest, _, _, _ => rfl
  | .array (item :: items), level, fuel + 1, rest, ⟨hw, hws⟩, _, hf => by
    have htext : (Json.array (item :: items)).prettyChars level ++ rest =
        '[' :: (newline (level + 1) ++ (item.prettyChars (level + 1) ++
          (prettyRest (level + 1) items ++ (newline level ++ ']' :: rest)))) := by
      simp [prettyChars]
    simp only [prettyChars, List.length_cons, List.length_append] at hf
    have hitem := readValue_pretty item (level + 1) fuel
      (prettyRest (level + 1) items ++ (newline level ++ ']' :: rest)) hw
      (follows_items items _ _ _) (by omega)
    have hitems := readItems_pretty items (level + 1) level fuel rest hws (by omega)
    obtain ⟨c, cs, hcs, hb, hc⟩ := exists_head item hw (level + 1)
    rw [hcs, List.cons_append] at htext hitem
    rw [htext]
    exact readValue_array hb hc hitem hitems
  | .object [], _, fuel + 1, rest, _, _, _ => rfl
  | .object ((name, value) :: fields), level, fuel + 1, rest, ⟨hw, hws⟩, _, hf => by
    have htext : (Json.object ((name, value) :: fields)).prettyChars level ++ rest =
        '\x7b' :: (newline (level + 1) ++ (stringChars name ++ ':' :: ' ' ::
          (value.prettyChars (level + 1) ++
            (prettyFields (level + 1) fields ++ (newline level ++ '\x7d' :: rest))))) := by
      simp [prettyChars]
    simp only [prettyChars, List.length_cons, List.length_append] at hf
    obtain ⟨fuel, rfl⟩ : ∃ less, fuel = less + 1 := Nat.exists_eq_add_one.mpr (by omega)
    have hvalue := readValue_pretty value (level + 1) fuel
      (prettyFields (level + 1) fields ++ (newline level ++ '\x7d' :: rest)) hw
      (follows_fields fields _ _ _) (by omega)
    have hfields := readFields_pretty fields (level + 1) level (fuel + 1) rest hws (by omega)
    rw [htext]
    exact readValue_object (readField_of_readValue hvalue) hfields

theorem readItems_pretty : ∀ (items : List Json) (level outer fuel : Nat) (rest : List Char),
    WholeItems items → (prettyRest level items).length < fuel →
      readItems fuel (prettyRest level items ++ (newline outer ++ ']' :: rest)) = some (items, rest)
  | _, _, _, 0, _, _, hf => absurd hf (Nat.not_lt_zero _)
  | [], _, outer, fuel + 1, rest, _, _ => readItems_end fuel outer rest
  | item :: items, level, outer, fuel + 1, rest, ⟨hw, hws⟩, hf => by
    have htext : prettyRest level (item :: items) ++ (newline outer ++ ']' :: rest) =
        ',' :: (newline level ++ (item.prettyChars level ++
          (prettyRest level items ++ (newline outer ++ ']' :: rest)))) := by
      simp [prettyRest]
    simp only [prettyRest, List.length_cons, List.length_append] at hf
    have hitem := readValue_pretty item level fuel
      (prettyRest level items ++ (newline outer ++ ']' :: rest)) hw
      (follows_items items _ _ _) (by omega)
    have hitems := readItems_pretty items level outer fuel rest hws (by omega)
    rw [htext]
    exact readItems_cons hitem hitems

theorem readFields_pretty : ∀ (fields : List (String × Json)) (level outer fuel : Nat)
    (rest : List Char), WholeFields fields → (prettyFields level fields).length < fuel →
      readFields fuel (prettyFields level fields ++ (newline outer ++ '\x7d' :: rest)) =
        some (fields, rest)
  | _, _, _, 0, _, _, hf => absurd hf (Nat.not_lt_zero _)
  | [], _, outer, fuel + 1, rest, _, _ => readFields_end fuel outer rest
  | (name, value) :: fields, level, outer, fuel + 1, rest, ⟨hw, hws⟩, hf => by
    have htext : prettyFields level ((name, value) :: fields) ++ (newline outer ++ '\x7d' :: rest) =
        ',' :: (newline level ++ (stringChars name ++ ':' :: ' ' :: (value.prettyChars level ++
          (prettyFields level fields ++ (newline outer ++ '\x7d' :: rest))))) := by
      simp [prettyFields]
    simp only [prettyFields, List.length_cons, List.length_append] at hf
    obtain ⟨fuel, rfl⟩ : ∃ less, fuel = less + 1 := Nat.exists_eq_add_one.mpr (by omega)
    have hvalue := readValue_pretty value level fuel
      (prettyFields level fields ++ (newline outer ++ '\x7d' :: rest)) hw
      (follows_fields fields _ _ _) (by omega)
    have hfields := readFields_pretty fields level outer (fuel + 1) rest hws (by omega)
    rw [htext]
    exact readFields_cons (readField_of_readValue hvalue) hfields

end

/-- JSON as it is printed is the text of one value, which is the one that was printed. -/
theorem read?_pretty (j : Json) (h : j.Whole) : read? (j.pretty ++ "\n") = some j := by
  have htext : (j.pretty ++ "\n").toList = j.prettyChars 0 ++ ['\n'] := by simp [pretty]
  have hfuel : (j.prettyChars 0).length ≤ 2 * (j.prettyChars 0 ++ ['\n']).length + 2 := by
    rw [List.length_append]
    omega
  have hread := readValue_pretty j 0 _ ['\n'] h (follows_newline 0 []) hfuel
  unfold read?
  rw [htext]
  simp only [hread]
  rfl

end ColumnMask.Json
