-- The productions of the grammar that hold no column site of their own. A form says
-- what such a node is called in the tree notation and how its parts are written as
-- text; the parts stand in the order of the tree notation, which is the visit order.
import ColumnMask.Sql.Token

namespace ColumnMask.Sql

/-! ## Literal values -/

/-- A literal value. -/
inductive Value where
  | number (digits : String) (long : Bool)
  | text (kind : Literal) (text : String)
  | dollar (tag : Option String) (text : String)
  | delimited (national : Bool) (opening closing : Char) (text : String)
  | boolean (b : Bool)
  | null
  | placeholder (text : String)
  deriving DecidableEq, Repr

/-- A character of an escaped literal as it is written. -/
def escapedChar : Char → List Char
  | '\'' => ['\\', '\'']
  | '\\' => ['\\', '\\']
  | '\n' => ['\\', 'n']
  | '\t' => ['\\', 't']
  | '\r' => ['\\', 'r']
  | c => [c]

/-- At least `width` digits in base sixteen, in upper case. -/
def hexDigits (width n : Nat) : List Char :=
  let digits := (Nat.toDigits 16 n).map Char.toUpper
  List.replicate (width - digits.length) '0' ++ digits

/-- A character of a Unicode literal as it is written: outside ASCII by its code point. -/
def unicodeChar (c : Char) : List Char :=
  if c = '\'' then ['\'', '\'']
  else if c = '\\' then ['\\', '\\']
  else if c.toNat < 0x80 then [c]
  else if c.toNat ≤ 0xFFFF then '\\' :: hexDigits 4 c.toNat
  else '\\' :: '+' :: hexDigits 6 c.toNat

/-- A value as it is written. -/
def Value.show : Value → String
  | .number digits long => if long then digits ++ "L" else digits
  | .text .plain s => quoted '\'' s
  | .text .wide s => quoted '"' s
  | .text .escaped s => "E'" ++ String.ofList (s.toList.flatMap escapedChar) ++ "'"
  | .text .unicode s => "U&'" ++ String.ofList (s.toList.flatMap unicodeChar) ++ "'"
  | .text kind s => kind.lead ++ kind.quote ++ s ++ kind.quote
  | .dollar none s => "$$" ++ s ++ "$$"
  | .dollar (some tag) s => "$" ++ tag ++ "$" ++ s ++ "$" ++ tag ++ "$"
  | .delimited national opening closing s =>
    (if national then "NQ'" else "Q'") ++ String.singleton opening ++ s ++
      String.singleton closing ++ "'"
  | .boolean b => if b then "true" else "false"
  | .null => "NULL"
  | .placeholder s => s

/-! ## How a node is called -/

/-- The shape of a node in the tree notation. -/
inductive Encoding where
  /-- An object with these fields. -/
  | record (fields : List String)
  /-- The bare name. -/
  | unit (name : String)
  /-- An object with one field, the name, that holds the only part. -/
  | newtype (name : String)
  /-- An object with one field, the name, that holds the list of the parts. -/
  | tuple (name : String)
  /-- An object with one field, the name, that holds an object with these fields. -/
  | variant (name : String) (fields : List String)
  /-- The list of the parts. -/
  | array
  /-- The only part itself. -/
  | bare
  deriving DecidableEq, Repr

/-! ## How a node is written -/

/-- What a part contributes to the text of its node. -/
inductive Shown where
  | absent
  | flag (b : Bool)
  | text (s : String)
  | list (items : List String)
  deriving DecidableEq, Repr

/-- A piece of a layout. Parts are counted from zero. -/
inductive Piece where
  /-- Fixed text. -/
  | word (text : String)
  /-- The text of a part. -/
  | part (i : Nat)
  /-- A part that may be absent, with text before and after it. -/
  | opt (i : Nat) (before after : String)
  /-- Text that depends on a flag. -/
  | flag (i : Nat) (yes no : String)
  /-- The items of a list, with a separator. -/
  | list (i : Nat) (separator : String)
  /-- The same with text around it, and nothing for an empty list. -/
  | someList (i : Nat) (before separator after : String)
  /-- All parts that have a text, with a separator. -/
  | all (separator : String)
  /-- Pieces that have a text, with a separator. -/
  | joined (separator : String) (pieces : List Piece)
  deriving Repr

/-- The text a part stands for on its own. -/
def Shown.plain : Shown → String
  | .absent => ""
  | .flag _ => ""
  | .text s => s
  | .list items => ", ".intercalate items

/-- The items of a list part. -/
def Shown.items : Shown → List String
  | .list items => items
  | _ => []

/-- The texts that are not empty, with a separator between them. -/
def joinTexts (separator : String) (texts : List String) : String :=
  separator.intercalate (texts.filter (· ≠ ""))

mutual

/-- The text of a piece, given what the parts of the node contribute. -/
def Piece.write (parts : List Shown) : Piece → String
  | .word text => text
  | .part i => (parts.getD i .absent).plain
  | .opt i before after =>
    match parts.getD i .absent with
    | .absent => ""
    | shown => before ++ shown.plain ++ after
  | .flag i yes no =>
    match parts.getD i .absent with
    | .flag true => yes
    | _ => no
  | .list i separator => separator.intercalate (parts.getD i .absent).items
  | .someList i before separator after =>
    match parts.getD i .absent with
    | .list (s :: ss) => before ++ separator.intercalate (s :: ss) ++ after
    | _ => ""
  | .all separator => joinTexts separator (parts.map Shown.plain)
  | .joined separator pieces => joinTexts separator (Piece.writeEach parts pieces)

def Piece.writeEach (parts : List Shown) : List Piece → List String
  | [] => []
  | p :: ps => p.write parts :: Piece.writeEach parts ps

end

/-- A production: how its nodes are called, and the pieces of their text in order. -/
structure Form where
  encoding : Encoding
  layout : List Piece
  deriving Repr

/-- The text of a node of the form. -/
def Form.write (f : Form) (parts : List Shown) : String :=
  String.join (Piece.writeEach parts f.layout)

/-! ## Forms for text without a tree notation of its own -/

/-- Parts one after the other, with a blank between them. -/
def Form.phrase : Form := ⟨.array, [.all " "]⟩

/-- Parts with commas between them. -/
def Form.commas : Form := ⟨.array, [.all ", "]⟩

/-- Parts with commas between them, in parentheses. -/
def Form.parens : Form := ⟨.array, [.word "(", .all ", ", .word ")"]⟩

/-- Parts with nothing between them. -/
def Form.glued : Form := ⟨.array, [.all ""]⟩

end ColumnMask.Sql
