-- The tokens of SQL text. A token keeps its spelling apart from the quotes around
-- it, so that an error message can show it as it was written.
import ColumnMask.Sql.Ident
import ColumnMask.Text.Alphabet

namespace ColumnMask.Sql

/-! ## Tokens -/

/-- The kinds of text literals between single or double quotes, or three of them, by the letter in
front. -/
inductive Literal where
  | plain | wide | national | escaped | unicode | hex | bytes | raw | wideBytes | wideRaw
  | tripleRaw | tripleWideRaw
  deriving DecidableEq, Repr

/-- A token. A word carries its upper case as key unless it is quoted, when the key is empty;
keywords are recognised by the key. -/
inductive Token where
  | word (value : String) (quote : Option Char) (key : String)
  | number (digits : String) (long : Bool)
  | literal (kind : Literal) (text : String)
  | dollar (tag : Option String) (text : String)
  | delimited (national : Bool) (opening closing : Char) (text : String)
  | placeholder (text : String)
  | symbol (text : String)
  | blank (text : String)
  | other (c : Char)
  | finish
  deriving DecidableEq, Repr

/-- A token and the place it was read from. -/
structure Located where
  token : Token
  span : Span
  deriving Repr

/-- The end of the input, which is nowhere. -/
def Located.finish : Located := ⟨.finish, .nowhere⟩

/-- A word token, with its key. -/
def Token.ofWord (value : String) (quote : Option Char := none) : Token :=
  .word value quote (if quote.isNone then Text.upper value else "")

/-! ## How tokens are shown -/

/-- What stands in front of a text literal of the kind. -/
def Literal.lead : Literal → String
  | .plain | .wide => ""
  | .national => "N"
  | .escaped => "E"
  | .unicode => "U&"
  | .hex => "X"
  | .bytes | .wideBytes => "B"
  | .raw | .wideRaw | .tripleRaw | .tripleWideRaw => "R"

/-- The quote around a text literal of the kind. -/
def Literal.quote : Literal → String
  | .wide | .wideBytes | .wideRaw => "\""
  | .tripleRaw => "'''"
  | .tripleWideRaw => "\"\"\""
  | _ => "'"

/-- The closing quote that belongs to an opening one. -/
def closingQuote (c : Char) : Char := if c = '[' then ']' else c

/-- A token as error messages show it. -/
def Token.show : Token → String
  | .word value none _ => value
  | .word value (some q) _ => (String.singleton q ++ value).push (closingQuote q)
  | .number digits long => if long then digits ++ "L" else digits
  | .literal kind text => kind.lead ++ kind.quote ++ text ++ kind.quote
  | .dollar none text => "$$" ++ text ++ "$$"
  | .dollar (some tag) text => "$" ++ tag ++ "$" ++ text ++ "$" ++ tag ++ "$"
  | .delimited national opening closing text =>
    (if national then "NQ'" else "Q'") ++ String.singleton opening ++ text ++
      String.singleton closing ++ "'"
  | .placeholder text => text
  | .symbol text => text
  | .blank text => text
  | .other c => String.singleton c
  | .finish => "EOF"

/-! ## Tests on tokens -/

/-- The key of a word, and nothing for any other token. -/
def Token.key : Token → String
  | .word _ _ key => key
  | _ => ""

def Token.isSymbol (t : Token) (text : String) : Bool :=
  match t with
  | .symbol s => s == text
  | _ => false

def Token.isBlank : Token → Bool
  | .blank _ => true
  | _ => false

def Token.isWord : Token → Bool
  | .word .. => true
  | _ => false

end ColumnMask.Sql
