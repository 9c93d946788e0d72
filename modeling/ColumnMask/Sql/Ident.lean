-- Where a piece of SQL text stands, and the identifiers found there. An
-- identifier keeps the quotes it was written with, so printing it gives back
-- the spelling it was read from.

namespace ColumnMask.Sql

/-! ## Positions -/

/-- A place in the text: the line and the column of a character, both counted from one.
Line zero stands for "nowhere". -/
structure Position where
  line : Nat
  column : Nat
  deriving DecidableEq, Repr

/-- The stretch of text from `start` up to, not including, `stop`. -/
structure Span where
  start : Position
  stop : Position
  deriving DecidableEq, Repr

def Position.nowhere : Position := ⟨0, 0⟩

def Span.nowhere : Span := ⟨.nowhere, .nowhere⟩

/-- How a position closes an error message; nothing is said of nowhere. -/
def Position.suffix (p : Position) : String :=
  if p.line = 0 then "" else " at Line: " ++ toString p.line ++ ", Column: " ++ toString p.column

/-! ## Quoted text -/

/-- Doubles the quotes of a text that is to stand between quotes. A quote that is already doubled
or that follows a backslash counts as escaped and stays as it is. -/
def escapeQuotes (quote : Char) : Char → List Char → List Char
  | _, [] => []
  | before, [c] => if c = quote ∧ before ≠ '\\' then [c, c] else [c]
  | before, c :: d :: rest =>
    if c ≠ quote then c :: escapeQuotes quote c (d :: rest)
    else if before = '\\' then c :: escapeQuotes quote before (d :: rest)
    else if d = quote then c :: d :: escapeQuotes quote c rest
    else c :: c :: escapeQuotes quote c (d :: rest)

/-- The text between two quotes of the given kind. -/
def quoted (quote : Char) (text : String) : String :=
  (String.singleton quote).append
    ((String.ofList (escapeQuotes quote '\x00' text.toList)).push quote)

/-! ## Identifiers -/

/-- An identifier: its value, the quote it was written with, and its place. -/
structure Ident where
  value : String
  quote : Option Char := none
  span : Span := .nowhere
  deriving DecidableEq, Repr

/-- An identifier as it is written. -/
def Ident.show (i : Ident) : String :=
  match i.quote with
  | none => i.value
  | some '[' => "[" ++ i.value ++ "]"
  | some q => quoted q i.value

/-- The word `DEFAULT` without quotes stands for the default value, in any letter case. -/
def Ident.isDefault (i : Ident) : Bool :=
  i.quote.isNone && i.value.map Char.toUpper == "DEFAULT"

end ColumnMask.Sql
