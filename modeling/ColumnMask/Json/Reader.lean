-- Reading JSON text. Control characters may not stand in strings, numbers have no
-- needless zeros, and nothing may follow the value but blanks.
import ColumnMask.Json.Value

namespace ColumnMask.Json

/-! ## Blanks and words -/

/-- Whether a character is a blank between the parts of a JSON text. -/
def isBlank (c : Char) : Bool := c = ' ' || c = '\n' || c = '\t' || c = '\r'

def skipBlanks (cs : List Char) : List Char := cs.dropWhile isBlank

/-- What follows a word if the text starts with it. -/
def skipWord? : List Char → List Char → Option (List Char)
  | [], cs => some cs
  | w :: ws, c :: cs => if w = c then skipWord? ws cs else none
  | _ :: _, [] => none

/-! ## Strings -/

/-- The value of a digit in base sixteen, in either case. -/
def hexValue? (c : Char) : Option Nat :=
  if '0' ≤ c ∧ c ≤ '9' then some (c.toNat - '0'.toNat)
  else if 'a' ≤ c ∧ c ≤ 'f' then some (c.toNat - 'a'.toNat + 10)
  else if 'A' ≤ c ∧ c ≤ 'F' then some (c.toNat - 'A'.toNat + 10)
  else none

/-- The unit that four digits stand for. -/
def unit? (a b c d : Char) : Option Nat := do
  return 4096 * (← hexValue? a) + 256 * (← hexValue? b) + 16 * (← hexValue? c) + (← hexValue? d)

/-- The character that an escape of one letter stands for. -/
def escaped? : Char → Option Char
  | '"' => some '"'
  | '\\' => some '\\'
  | '/' => some '/'
  | 'b' => some '\x08'
  | 'f' => some '\x0c'
  | 'n' => some '\n'
  | 'r' => some '\r'
  | 't' => some '\t'
  | _ => none

/-- The characters up to the closing quote, and what follows it. Half of a surrogate pair has no
character; it is kept as nothing. -/
def readString : List Char → Option (List (Option Char) × List Char)
  | [] => none
  | '"' :: rest => some ([], rest)
  | '\\' :: 'u' :: a :: b :: c :: d :: rest => do
    let high ← unit? a b c d
    if 0xD800 ≤ high ∧ high < 0xDC00 then
      match rest with
      | '\\' :: 'u' :: a :: b :: c :: d :: more =>
        let low ← unit? a b c d
        if 0xDC00 ≤ low ∧ low < 0xE000 then
          let (cs, rest) ← readString more
          return (some (Char.ofNat (0x10000 + (high - 0xD800) * 1024 + (low - 0xDC00))) :: cs, rest)
        else
          let (cs, rest) ← readString more
          return (none :: none :: cs, rest)
      | rest =>
        let (cs, rest) ← readString rest
        return (none :: cs, rest)
    else if 0xDC00 ≤ high ∧ high < 0xE000 then
      let (cs, rest) ← readString rest
      return (none :: cs, rest)
    else
      let (cs, rest) ← readString rest
      return (some (Char.ofNat high) :: cs, rest)
  | '\\' :: c :: rest => do
    let c ← escaped? c
    let (cs, rest) ← readString rest
    return (some c :: cs, rest)
  | c :: rest => do
    if c.toNat < 0x20 || c = '\\' then none
    else
      let (cs, rest) ← readString rest
      return (some c :: cs, rest)

/-- A string, or half of one. -/
def ofChars (cs : List (Option Char)) : Json :=
  if cs.all Option.isSome then .text (String.ofList (cs.filterMap id)) else .halfText

/-! ## Numbers -/

/-- One or more digits. -/
def readDigits? (cs : List Char) : Option (List Char × List Char) :=
  match cs.span Char.isDigit with
  | ([], _) => none
  | found => some found

/-- The part of a number after a point. -/
def readFraction? : List Char → Option (List Char × List Char)
  | '.' :: rest => do
    let (digits, rest) ← readDigits? rest
    return ('.' :: digits, rest)
  | cs => some ([], cs)

/-- The part of a number after the letter of an exponent. -/
def readExponent? : List Char → Option (List Char × List Char)
  | c :: rest =>
    if c = 'e' ∨ c = 'E' then
      let (sign, rest) := match rest with
        | '+' :: rest => (['+'], rest)
        | '-' :: rest => (['-'], rest)
        | rest => ([], rest)
      do
        let (digits, rest) ← readDigits? rest
        return (c :: sign ++ digits, rest)
    else some ([], c :: rest)
  | [] => some ([], [])

/-- A number. -/
def readNumber? (cs : List Char) : Option (Json × List Char) := do
  let (sign, cs) := match cs with
    | '-' :: rest => (['-'], rest)
    | cs => ([], cs)
  let (whole, rest) ← match cs with
    | '0' :: rest => match rest with
      | d :: _ => if d.isDigit then none else some (['0'], rest)
      | [] => some (['0'], [])
    | cs => readDigits? cs
  let (fraction, rest) ← readFraction? rest
  let (exponent, rest) ← readExponent? rest
  return (.number (String.ofList (sign ++ whole ++ fraction ++ exponent)), rest)

/-! ## Values -/

mutual

/-- A value and what follows it; `fuel` bounds the steps. -/
def readValue : Nat → List Char → Option (Json × List Char)
  | 0, _ => none
  | fuel + 1, cs =>
    match skipBlanks cs with
    | [] => none
    | '"' :: rest => (readString rest).map fun (found, rest) => (ofChars found, rest)
    | '[' :: rest =>
      match skipBlanks rest with
      | ']' :: rest => some (.array [], rest)
      | rest => do
        let (first, rest) ← readValue fuel rest
        let (items, rest) ← readItems fuel rest
        return (.array (first :: items), rest)
    | '\x7b' :: rest =>
      match skipBlanks rest with
      | '\x7d' :: rest => some (.object [], rest)
      | rest => do
        let (first, rest) ← readField fuel rest
        let (fields, rest) ← readFields fuel rest
        return (.object (first :: fields), rest)
    | 'n' :: rest => (skipWord? ['u', 'l', 'l'] rest).map fun rest => (.null, rest)
    | 't' :: rest => (skipWord? ['r', 'u', 'e'] rest).map fun rest => (.bool true, rest)
    | 'f' :: rest => (skipWord? ['a', 'l', 's', 'e'] rest).map fun rest => (.bool false, rest)
    | c :: rest => readNumber? (c :: rest)

/-- Further items of a list up to its end. -/
def readItems : Nat → List Char → Option (List Json × List Char)
  | 0, _ => none
  | fuel + 1, cs =>
    match skipBlanks cs with
    | ']' :: rest => some ([], rest)
    | ',' :: rest => do
      let (item, rest) ← readValue fuel rest
      let (items, rest) ← readItems fuel rest
      return (item :: items, rest)
    | _ => none

/-- A field of an object. Its name has to be a string. -/
def readField : Nat → List Char → Option ((String × Json) × List Char)
  | 0, _ => none
  | fuel + 1, cs =>
    match skipBlanks cs with
    | '"' :: rest => do
      let (name, rest) ← readString rest
      match ofChars name, skipBlanks rest with
      | .text name, ':' :: rest => do
        let (value, rest) ← readValue fuel rest
        return ((name, value), rest)
      | _, _ => none
    | _ => none

/-- Further fields of an object up to its end. -/
def readFields : Nat → List Char → Option (List (String × Json) × List Char)
  | 0, _ => none
  | fuel + 1, cs =>
    match skipBlanks cs with
    | '\x7d' :: rest => some ([], rest)
    | ',' :: rest => do
      let (field, rest) ← readField fuel rest
      let (fields, rest) ← readFields fuel rest
      return (field :: fields, rest)
    | _ => none

end

/-- The value of a JSON text, if it is one. -/
def read? (text : String) : Option Json :=
  let cs := text.toList
  match readValue (2 * cs.length + 2) cs with
  | some (value, rest) => if (skipBlanks rest).isEmpty then some value else none
  | none => none

/-! ## Parts of values -/

/-- The first field of an object with the name. -/
def field? (j : Json) (name : String) : Option Json :=
  match j with
  | .object fields => (fields.find? fun f => f.1 == name).map Prod.snd
  | _ => none

def text? : Json → Option String
  | .text s => some s
  | _ => none

def bool? : Json → Option Bool
  | .bool b => some b
  | _ => none

def array? : Json → Option (List Json)
  | .array items => some items
  | _ => none

def nat? : Json → Option Nat
  | .number s => s.toNat?
  | _ => none

end ColumnMask.Json
