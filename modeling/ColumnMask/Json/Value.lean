-- JSON values, their text on one line or with two blanks for each level, and the records and
-- closed choices among them.

namespace ColumnMask

/-! ## Values -/

/-- A JSON value. Objects keep their fields in order, repeated ones too. -/
inductive Json where
  | null
  | bool (b : Bool)
  /-- A number as it is written. -/
  | number (text : String)
  | text (s : String)
  /-- Text with half of a surrogate pair: well-formed, but no string. -/
  | halfText
  | array (items : List Json)
  | object (fields : List (String × Json))

namespace Json

instance : Inhabited Json := ⟨.null⟩

def ofNat (n : Nat) : Json := .number (toString n)

def ofInt (n : Int) : Json := .number (toString n)

/-- Nothing is written as null. -/
def ofOption {α : Type} (f : α → Json) : Option α → Json
  | some a => f a
  | none => .null

/-! ## Depth -/

mutual

/-- How many lists and objects stand within each other at most. -/
def depth : Json → Nat
  | .array items => depthOfItems items + 1
  | .object fields => depthOfFields fields + 1
  | _ => 1

def depthOfItems : List Json → Nat
  | [] => 0
  | item :: items => max item.depth (depthOfItems items)

def depthOfFields : List (String × Json) → Nat
  | [] => 0
  | (_, value) :: fields => max value.depth (depthOfFields fields)

end

/-! ## Text -/

/-- The two digits in lower case of a control character. -/
def controlDigits (c : Char) : List Char :=
  [Nat.digitChar (c.toNat / 16), Nat.digitChar (c.toNat % 16)]

/-- A character between the quotes of a string. -/
def escapeChar (c : Char) : List Char :=
  if c = '"' then ['\\', '"']
  else if c = '\\' then ['\\', '\\']
  else if c = '\n' then ['\\', 'n']
  else if c = '\r' then ['\\', 'r']
  else if c = '\t' then ['\\', 't']
  else if c = '\x08' then ['\\', 'b']
  else if c = '\x0c' then ['\\', 'f']
  else if c.toNat < 0x20 then ['\\', 'u', '0', '0'] ++ controlDigits c
  else [c]

/-- A string with its quotes. -/
def stringChars (s : String) : List Char :=
  '"' :: (s.toList.flatMap escapeChar ++ ['"'])

/-- A line end and the blanks in front of what stands at a level. -/
def newline (level : Nat) : List Char := '\n' :: List.replicate (2 * level) ' '

mutual

/-- A value on one line. -/
def compactChars : Json → List Char
  | .null => ['n', 'u', 'l', 'l']
  | .bool true => ['t', 'r', 'u', 'e']
  | .bool false => ['f', 'a', 'l', 's', 'e']
  | .number digits => digits.toList
  | .text s => stringChars s
  | .halfText => ['"', '\\', 'u', 'd', '8', '0', '0', '"']
  | .array [] => ['[', ']']
  | .array (item :: items) => '[' :: (item.compactChars ++ (compactRest items ++ [']']))
  | .object [] => ['\x7b', '\x7d']
  | .object ((name, value) :: fields) =>
    '\x7b' :: (stringChars name ++ ':' :: (value.compactChars ++ (compactFields fields ++ ['\x7d'])))

/-- Further items of a list on one line. -/
def compactRest : List Json → List Char
  | [] => []
  | item :: items => ',' :: (item.compactChars ++ compactRest items)

/-- Further fields of an object on one line. -/
def compactFields : List (String × Json) → List Char
  | [] => []
  | (name, value) :: fields =>
    ',' :: (stringChars name ++ ':' :: (value.compactChars ++ compactFields fields))

end

mutual

/-- A value over several lines. Lists and objects that hold nothing stay on one. -/
def prettyChars (level : Nat) : Json → List Char
  | .null => ['n', 'u', 'l', 'l']
  | .bool true => ['t', 'r', 'u', 'e']
  | .bool false => ['f', 'a', 'l', 's', 'e']
  | .number digits => digits.toList
  | .text s => stringChars s
  | .halfText => ['"', '\\', 'u', 'd', '8', '0', '0', '"']
  | .array [] => ['[', ']']
  | .array (item :: items) =>
    '[' :: (newline (level + 1) ++ (item.prettyChars (level + 1) ++
      (prettyRest (level + 1) items ++ (newline level ++ [']']))))
  | .object [] => ['\x7b', '\x7d']
  | .object ((name, value) :: fields) =>
    '\x7b' :: (newline (level + 1) ++ (stringChars name ++ ':' :: ' ' ::
      (value.prettyChars (level + 1) ++
        (prettyFields (level + 1) fields ++ (newline level ++ ['\x7d'])))))

/-- Further items of a list, each on lines of its own. -/
def prettyRest (level : Nat) : List Json → List Char
  | [] => []
  | item :: items => ',' :: (newline level ++ (item.prettyChars level ++ prettyRest level items))

/-- Further fields of an object, each on lines of its own. -/
def prettyFields (level : Nat) : List (String × Json) → List Char
  | [] => []
  | (name, value) :: fields =>
    ',' :: (newline level ++ (stringChars name ++ ':' :: ' ' ::
      (value.prettyChars level ++ prettyFields level fields)))

end

def compact (j : Json) : String := String.ofList j.compactChars

def pretty (j : Json) : String := String.ofList (j.prettyChars 0)

/-! ## Records and choices -/

/-- The value of the only field of an object with the name: nothing if there is no such field, and
no answer if there are several. -/
def onlyField? (fields : List (String × Json)) (name : String) : Option (Option Json) :=
  match fields.filter fun f => f.1 == name with
  | [] => some none
  | [(_, value)] => some (some value)
  | _ => none

/-- The values of the fields of a record that has the given fields. -/
def record? (names : List String) : Json → Option (List (Option Json))
  | .object fields => names.mapM (onlyField? fields)
  | .array items =>
    if items.length ≤ names.length then
      some (items.map some ++ List.replicate (names.length - items.length) none)
    else none
  | _ => none

/-- The name of a choice without a value of its own. -/
def choice? : Json → Option String
  | .text name => some name
  | .object [(name, .null)] => some name
  | _ => none

end Json

end ColumnMask
