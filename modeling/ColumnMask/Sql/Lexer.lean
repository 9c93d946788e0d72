-- Reading SQL text as tokens. Every step takes at least one character, so the
-- lexer ends; a text that cannot be read is refused with the place of the fault.
import ColumnMask.Sql.Token

namespace ColumnMask.Sql

/-! ## Errors and positions -/

/-- Why a text has no tokens, and where. -/
structure LexError where
  message : String
  position : Position
  deriving DecidableEq, Repr

def LexError.show (e : LexError) : String := e.message ++ e.position.suffix

/-- The position after a character. -/
def Position.after (p : Position) (c : Char) : Position :=
  if c = '\n' then ⟨p.line + 1, 1⟩ else ⟨p.line, p.column + 1⟩

/-- A fault, with the characters that were left when it was met. -/
structure Fault where
  message : String
  rest : List Char

/-- What one step of the lexer gives: a token and the characters after it. -/
abbrev Scan := Except Fault (Token × List Char)

/-! ## Words -/

def startsWord (c : Char) : Bool :=
  Text.isAlphabetic c || c == '_' || c == '#' || c == '@'

def continuesWord (c : Char) : Bool :=
  Text.isAlphabetic c || c.isDigit || c == '@' || c == '$' || c == '#' || c == '_'

/-- A word that starts with the given characters. -/
def scanWord (start : List Char) (rest : List Char) : Scan :=
  let (more, rest) := rest.span continuesWord
  .ok (.ofWord (String.ofList (start ++ more)), rest)

/-- The text up to a closing quote; two quotes in a row stand for one. -/
def scanQuoted (quote : Char) : List Char → Option (List Char × List Char)
  | [] => none
  | [c] => if c = quote then some ([], []) else none
  | c :: d :: rest =>
    if c = quote then
      if d = quote then (scanQuoted quote rest).map fun (s, r) => (c :: s, r)
      else some ([], d :: rest)
    else (scanQuoted quote (d :: rest)).map fun (s, r) => (c :: s, r)

/-- A text literal after its opening quote, which stands first in `opening`. -/
def scanLiteral (kind : Literal) (quote : Char) (opening rest : List Char) : Scan :=
  match scanQuoted quote rest with
  | some (text, rest) => .ok (.literal kind (String.ofList text), rest)
  | none => .error ⟨"Unterminated string literal", opening⟩

/-- The text up to three closing quotes in a row; fewer belong to the text. -/
def scanTripleQuoted (quote : Char) : List Char → Option (List Char × List Char)
  | [] => none
  | c :: rest =>
    if [quote, quote, quote].isPrefixOf (c :: rest) then some ([], (c :: rest).drop 3)
    else (scanTripleQuoted quote rest).map fun (s, r) => (c :: s, r)

/-- A raw literal from its first quote on: between quotes, between three of them, or empty. -/
def scanRaw (single triple : Literal) (quote : Char) (opening : List Char) : Scan :=
  if [quote, quote, quote].isPrefixOf opening then
    match scanTripleQuoted quote (opening.drop 3) with
    | some (text, rest) => .ok (.literal triple (String.ofList text), rest)
    | none => .error ⟨"Unterminated string literal", opening.drop 3⟩
  else if [quote, quote].isPrefixOf opening then .ok (.literal single "", opening.drop 2)
  else
    match scanQuoted quote (opening.drop 1) with
    | some (text, rest) => .ok (.literal single (String.ofList text), rest)
    | none => .error ⟨"Unterminated string literal", opening.drop 1⟩

/-- The character that a backslash in a hexadecimal literal makes of the one after it. -/
def backslashed : Char → Char
  | '0' => '\x00'
  | 'a' => '\x07'
  | 'b' => '\x08'
  | 'f' => '\x0c'
  | 'n' => '\n'
  | 'r' => '\r'
  | 't' => '\t'
  | 'Z' => '\x1a'
  | c => c

/-- The text of a hexadecimal literal up to its closing quote; two quotes in a row stand for one. -/
def scanBackslashed : List Char → Option (List Char × List Char)
  | [] => none
  | '\\' :: c :: rest => (scanBackslashed rest).map fun (s, r) => (backslashed c :: s, r)
  | '\'' :: '\'' :: rest => (scanBackslashed rest).map fun (s, r) => ('\'' :: s, r)
  | c :: rest =>
    if c = '\'' then some ([], rest)
    else (scanBackslashed rest).map fun (s, r) => (c :: s, r)

/-! ## Escapes -/

def hexDigit? (c : Char) : Option Nat :=
  if c.isDigit then some (c.toNat - '0'.toNat)
  else if 'a' ≤ c ∧ c ≤ 'f' then some (c.toNat - 'a'.toNat + 10)
  else if 'A' ≤ c ∧ c ≤ 'F' then some (c.toNat - 'A'.toNat + 10)
  else none

/-- The number written by digits of a base. -/
def digitsValue? (base : Nat) (cs : List Char) : Option Nat :=
  cs.foldl (fun acc c => acc.bind fun n => (hexDigit? c).bind fun d =>
    if d < base then some (n * base + d) else none) (some 0)

/-- The character with a code point, if there is one. -/
def charOf? (n : Nat) : Option Char := if n.isValidChar then some (Char.ofNat n) else none

/-- The ASCII character that the low byte of a number stands for. -/
def byteChar? (n : Nat) : Option Char :=
  if n % 256 ≤ 127 then some (Char.ofNat (n % 256)) else none

/-- Up to `limit` characters that satisfy `p`. -/
def takeUpTo (p : Char → Bool) : Nat → List Char → List Char × List Char
  | 0, cs => ([], cs)
  | _, [] => ([], [])
  | n + 1, c :: cs => if p c then let (s, r) := takeUpTo p n cs; (c :: s, r) else ([], c :: cs)

/-- The code point in exactly `count` characters; one leading plus sign is allowed. -/
def codePoint? (count : Nat) (cs : List Char) : Option (Char × List Char) :=
  let digits := cs.take count
  if digits.length < count then none
  else
    let digits := match digits with
      | '+' :: more => more
      | more => more
    if digits.isEmpty then none
    else (digitsValue? 16 digits).bind fun n => (charOf? n).map fun c => (c, cs.drop count)

/-- The character that a backslash and what follows it stand for; never NUL. -/
def unescape? : List Char → Option (Char × List Char)
  | [] => none
  | c :: rest =>
    let found := match c with
      | 'b' => some ('\x08', rest)
      | 'f' => some ('\x0c', rest)
      | 'n' => some ('\n', rest)
      | 'r' => some ('\r', rest)
      | 't' => some ('\t', rest)
      | 'u' => codePoint? 4 rest
      | 'U' => codePoint? 8 rest
      | 'x' =>
        let (digits, rest) := takeUpTo (fun c => (hexDigit? c).isSome) 2 rest
        if digits.isEmpty then some ('x', rest)
        else ((digitsValue? 16 digits).bind byteChar?).map fun c => (c, rest)
      | c =>
        if '0' ≤ c ∧ c ≤ '7' then
          let (digits, rest) := takeUpTo (fun c => '0' ≤ c && c ≤ '7') 2 rest
          ((digitsValue? 8 (c :: digits)).bind byteChar?).map fun c => (c, rest)
        else some (c, rest)
    found.bind fun (c, rest) => if c = '\x00' then none else some (c, rest)

/-- The text of an escaped literal after its opening quote. -/
def scanEscaped : Nat → List Char → Option (List Char × List Char)
  | 0, _ => none
  | _, [] => none
  | fuel + 1, c :: rest =>
    if c = '\'' then
      match rest with
      | '\'' :: rest => (scanEscaped fuel rest).map fun (s, r) => ('\'' :: s, r)
      | rest => some ([], rest)
    else if c = '\\' then
      (unescape? rest).bind fun (d, rest) => (scanEscaped fuel rest).map fun (s, r) => (d :: s, r)
    else (scanEscaped fuel rest).map fun (s, r) => (c :: s, r)

/-- The character given by `count` hexadecimal digits. -/
def scanHexChar (count : Nat) (cs : List Char) : Except Fault (Char × List Char) :=
  let rec go : Nat → Nat → List Char → Except Fault (Nat × List Char)
    | 0, n, cs => .ok (n, cs)
    | _ + 1, _, [] =>
      .error ⟨"Unexpected EOF while parsing hex digit in escaped unicode string.", []⟩
    | k + 1, n, c :: cs =>
      match hexDigit? c with
      | some d => go k (n * 16 + d) cs
      | none =>
        .error ⟨"Invalid hex digit in escaped unicode string: " ++ String.singleton c, cs⟩
  do
    let (n, rest) ← go count 0 cs
    match charOf? n with
    | some c => .ok (c, rest)
    | none =>
      .error ⟨"Invalid unicode character: " ++ String.ofList (Nat.toDigits 16 n), rest⟩

/-- The text of a Unicode literal after its opening quote. -/
def scanUnicode : Nat → List Char → Except Fault (List Char × List Char)
  | 0, cs => .error ⟨"Unterminated unicode encoded string literal", cs⟩
  | _, [] => .error ⟨"Unterminated unicode encoded string literal", []⟩
  | fuel + 1, '\'' :: rest =>
    match rest with
    | '\'' :: rest => do
      let (s, r) ← scanUnicode fuel rest
      return ('\'' :: s, r)
    | rest => .ok ([], rest)
  | fuel + 1, '\\' :: rest => do
    let (c, rest) ← match rest with
      | '\\' :: rest => .ok ('\\', rest)
      | '+' :: rest => scanHexChar 6 rest
      | rest => scanHexChar 4 rest
    let (s, r) ← scanUnicode fuel rest
    return (c :: s, r)
  | fuel + 1, c :: rest => do
    let (s, r) ← scanUnicode fuel rest
    return (c :: s, r)

/-! ## Literals with delimiters of their own -/

def closingDelimiter : Char → Char
  | '[' => ']'
  | '\x7b' => '\x7d'
  | '<' => '>'
  | '(' => ')'
  | c => c

/-- The text up to the closing delimiter that a quote follows. -/
def scanDelimited (closing : Char) : List Char → Option (List Char × List Char)
  | [] => none
  | [_] => none
  | c :: d :: rest =>
    if c = closing ∧ d = '\'' then some ([], rest)
    else (scanDelimited closing (d :: rest)).map fun (s, r) => (c :: s, r)

/-- A literal such as `q'[...]'`, from its first quote on. -/
def scanDelimitedLiteral (national : Bool) (lead : String) (opening : List Char) : Scan :=
  match opening.drop 1 with
  | c :: rest =>
    if c = ' ' ∨ c = '\t' ∨ c = '\r' ∨ c = '\n' then
      .error ⟨"Invalid space, tab, newline, or EOF after '" ++ lead ++ "''", c :: rest⟩
    else match scanDelimited (closingDelimiter c) rest with
      | some (text, rest) =>
        .ok (.delimited national c (closingDelimiter c) (String.ofList text), rest)
      | none => .error ⟨"Unterminated string literal", opening⟩
  | [] => .error ⟨"Invalid space, tab, newline, or EOF after '" ++ lead ++ "''", []⟩

/-! ## Dollar quotes and placeholders -/

/-- The text up to two dollar signs in a row. A lone dollar sign goes with the character after
it; at the end of the text it is no close. -/
def scanDollars : List Char → Option (List Char × List Char)
  | [] => none
  | [_] => none
  | c :: d :: rest =>
    if c = '$' then
      if d = '$' then some ([], rest)
      else match scanDollars rest with
        | some (s, r) => some (c :: d :: s, r)
        | none => none
    else (scanDollars (d :: rest)).map fun (s, r) => (c :: s, r)

/-- The text up to the given closing characters. -/
def scanUntil (closing : List Char) : List Char → Option (List Char × List Char)
  | [] => if closing.isEmpty then some ([], []) else none
  | c :: rest =>
    if closing.isPrefixOf (c :: rest) then some ([], (c :: rest).drop closing.length)
    else (scanUntil closing rest).map fun (s, r) => (c :: s, r)

/-- What a dollar sign starts: a literal between two equal tags, or a placeholder. -/
def scanDollar (rest : List Char) : Scan :=
  match rest with
  | '$' :: rest =>
    match scanDollars rest with
    | some (text, rest) => .ok (.dollar none (String.ofList text), rest)
    | none => .error ⟨"Unterminated dollar-quoted string", []⟩
  | rest =>
    let (tag, rest) := rest.span fun c => Text.isAlphanumeric c || c == '_'
    match rest with
    | '$' :: rest =>
      match scanUntil ('$' :: tag ++ ['$']) rest with
      | some (text, rest) => .ok (.dollar (some (String.ofList tag)) (String.ofList text), rest)
      | none => .error ⟨"Unterminated dollar-quoted, expected $", []⟩
    | rest => .ok (.placeholder ("$" ++ String.ofList tag), rest)

/-! ## Comments -/

/-- The text of a block comment after its opening; block comments nest. -/
def scanBlockComment : Nat → List Char → Option (List Char × List Char)
  | _, [] => none
  | _, [_] => none
  | depth, c :: d :: rest =>
    if c = '/' ∧ d = '*' then (scanBlockComment (depth + 1) rest).map fun (s, r) => (c :: d :: s, r)
    else if c = '*' ∧ d = '/' then
      match depth with
      | 0 => some ([], rest)
      | depth + 1 => (scanBlockComment depth rest).map fun (s, r) => (c :: d :: s, r)
    else (scanBlockComment depth (d :: rest)).map fun (s, r) => (c :: s, r)

/-! ## Numbers -/

def isDigit (c : Char) : Bool := c.isDigit

/-- The exponent of a number; an `e` that no digit follows belongs to the next word. -/
def scanExponent (rest : List Char) : List Char × List Char :=
  match rest with
  | e :: more =>
    if e = 'e' ∨ e = 'E' then
      let (sign, more) := match more with
        | s :: more => if s = '+' ∨ s = '-' then ([s], more) else ([], s :: more)
        | [] => ([], [])
      let (digits, after) := more.span isDigit
      if digits.isEmpty then ([], rest) else (e :: sign ++ digits, after)
    else ([], rest)
  | [] => ([], [])

/-- A number, a hexadecimal literal or a lone period. -/
def scanNumber (cs : List Char) : Scan :=
  let (whole, rest) := cs.span isDigit
  match whole, rest with
  | ['0'], 'x' :: rest =>
    let (digits, rest) := rest.span fun c => (hexDigit? c).isSome
    .ok (.literal .hex (String.ofList digits), rest)
  | _, _ =>
    let (point, rest) := match rest with
      | '.' :: rest => (['.'], rest)
      | rest => ([], rest)
    let (fraction, rest) := rest.span isDigit
    let digits := whole ++ point ++ fraction
    if digits = ['.'] then .ok (.symbol ".", rest)
    else
      let (exponent, rest) := scanExponent rest
      let (long, rest) := match rest with
        | 'L' :: rest => (true, rest)
        | rest => (false, rest)
      .ok (.number (String.ofList (digits ++ exponent)) long, rest)

/-! ## Operators -/

/-- The operators and marks, the longer before the shorter ones they start with. -/
def operators : List String :=
  [ "!~~*", "!~~", "!~*", "->>", "||/", "<=>", "!~", "!!", "!=", "->", "//", "|/", "||", "|>",
    "=>", "==", "<=", "<>", "<<", "<@", ">=", ">>", "::", ":=", "&&", "^@", "~~*", "~~", "~*",
    "#>>", "#>", "#-", "@>", "@?", "(", ")", ",", "-", "/", "+", "*", "%", "|", "=", "!", "<",
    ">", ":", ";", "\\", "[", "]", "&", "^", "\x7b", "\x7d", "~" ]

/-- The first operator of the list that the characters start with. `!=` is one with `<>`. -/
def scanOperator (cs : List Char) : Option (Token × List Char) :=
  (operators.find? fun o => o.toList.isPrefixOf cs).map fun o =>
    (.symbol (if o = "!=" then "<>" else o), cs.drop o.length)

/-! ## One token -/

/-- The token that the characters start with. `afterWord` says whether the token before is a
word: a period and an underscore may follow each other only there. -/
def scanToken (afterWord : Bool) (cs : List Char) : Scan :=
  match cs with
  | [] => .ok (.finish, [])
  | '\r' :: '\n' :: rest => .ok (.blank "\n", rest)
  | '\r' :: rest => .ok (.blank "\n", rest)
  | '-' :: '-' :: rest =>
    let (text, rest) := rest.span (· ≠ '\n')
    .ok (.blank ("--" ++ String.ofList (text ++ rest.take 1)), rest.drop 1)
  | '/' :: '*' :: rest =>
    match scanBlockComment 0 rest with
    | some (text, rest) => .ok (.blank ("/*" ++ String.ofList text ++ "*/"), rest)
    | none => .error ⟨"Unexpected EOF while in a multi-line comment", []⟩
  | '\'' :: rest => scanLiteral .plain '\'' cs rest
  | c :: rest =>
    if c = ' ' ∨ c = '\t' ∨ c = '\n' then .ok (.blank (String.singleton c), rest)
    else if c = 'b' ∨ c = 'B' then
      match rest with
      | '\'' :: more => scanLiteral .bytes '\'' rest more
      | '"' :: more => scanLiteral .wideBytes '"' rest more
      | rest => scanWord [c] rest
    else if c = 'r' ∨ c = 'R' then
      match rest with
      | '\'' :: _ => scanRaw .raw .tripleRaw '\'' rest
      | '"' :: _ => scanRaw .wideRaw .tripleWideRaw '"' rest
      | rest => scanWord [c] rest
    else if c = 'n' ∨ c = 'N' then
      match rest with
      | '\'' :: more => scanLiteral .national '\'' rest more
      | q :: '\'' :: more =>
        if q = 'q' ∨ q = 'Q' then
          scanDelimitedLiteral true (String.ofList [c, q]) ('\'' :: more)
        else scanWord [c] rest
      | rest => scanWord [c] rest
    else if c = 'q' ∨ c = 'Q' then
      match rest with
      | '\'' :: _ => scanDelimitedLiteral false (String.singleton c) rest
      | rest => scanWord [c] rest
    else if c = 'e' ∨ c = 'E' then
      match rest with
      | '\'' :: more =>
        match scanEscaped more.length more with
        | some (text, rest) => .ok (.literal .escaped (String.ofList text), rest)
        | none => .error ⟨"Unterminated encoded string literal", cs⟩
      | rest => scanWord [c] rest
    else if c = 'u' ∨ c = 'U' then
      match rest with
      | '&' :: '\'' :: more => do
        let (text, rest) ← scanUnicode more.length more
        return (.literal .unicode (String.ofList text), rest)
      | rest => scanWord [c] rest
    else if c = 'x' ∨ c = 'X' then
      match rest with
      | '\'' :: more =>
        match scanBackslashed more with
        | some (text, rest) => .ok (.literal .hex (String.ofList text), rest)
        | none => .error ⟨"Unterminated string literal", rest⟩
      | rest => scanWord [c] rest
    else if c = '"' ∨ c = '\x60' then
      match scanQuoted c rest with
      | some (text, rest) => .ok (.ofWord (String.ofList text) (some c), rest)
      | none =>
        .error ⟨"Expected close delimiter '" ++ String.singleton c ++ "' before EOF.", cs⟩
    else if c = '.' ∧ rest.head? = some '_' then
      if afterWord then .ok (.symbol ".", rest)
      else .error ⟨"Unexpected character '_'", cs⟩
    else if c.isDigit ∨ c = '.' then scanNumber cs
    else if c = '#' then
      match scanOperator cs, rest with
      | some found, _ => .ok found
      | none, ' ' :: _ => .ok (.symbol "#", rest)
      | none, d :: rest => scanWord [c, d] rest
      | none, [] => .ok (.symbol "#", rest)
    else if c = '@' then
      match scanOperator cs, rest with
      | some found, _ => .ok found
      | none, '@' :: ' ' :: _ => .ok (.symbol "@@", rest.drop 1)
      | none, '@' :: d :: rest => scanWord [c, '@', d] rest
      | none, ['@'] => .ok (.symbol "@@", [])
      | none, d :: more =>
        if d = ' ' ∨ d = '\'' ∨ d = '"' ∨ d = '\x60' then .ok (.symbol "@", rest)
        else scanWord [c, d] more
      | none, [] => .ok (.symbol "@", rest)
    else if c = '?' then
      let (digits, rest) := rest.span Text.isNumeric
      .ok (.placeholder ("?" ++ String.ofList digits), rest)
    else match scanOperator cs with
      | some found => .ok found
      | none =>
        if startsWord c then scanWord [c] rest
        else if c = '$' then scanDollar rest
        else if Text.isBlank c then .ok (.blank " ", rest)
        else .ok (.other c, rest)

/-! ## All tokens -/

/-- The tokens of a text from a position on; `fuel` bounds their number. -/
def tokensFrom : Nat → Bool → Position → List Char → Except LexError (List Located)
  | 0, _, _, _ => .ok []
  | _, _, _, [] => .ok []
  | fuel + 1, afterWord, start, cs =>
    match scanToken afterWord cs with
    | .error fault =>
      .error ⟨fault.message, (cs.take (cs.length - fault.rest.length)).foldl Position.after start⟩
    | .ok (token, rest) => do
      let stop := (cs.take (cs.length - rest.length)).foldl Position.after start
      let more ← tokensFrom fuel token.isWord stop rest
      return ⟨token, ⟨start, stop⟩⟩ :: more

/-- The tokens of a text, blanks and comments included. -/
def tokenize (text : String) : Except LexError (List Located) :=
  tokensFrom text.length false ⟨1, 1⟩ text.toList

end ColumnMask.Sql
