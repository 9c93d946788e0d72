-- Names and literals: identifiers, dotted names, aliases, and the values written in
-- the text.
import ColumnMask.Sql.Grammar.Basic
import ColumnMask.Sql.Keyword
import ColumnMask.Sql.Printer

namespace ColumnMask.Sql

/-! ## Identifiers -/

/-- The identifier that a token is, if it is one. Text between single quotes counts, too. -/
def Located.ident? (t : Located) : Option Ident :=
  match t.token with
  | .word value quote _ => some ⟨value, quote, t.span⟩
  | .literal .plain text => some ⟨text, some '\'', .nowhere⟩
  | _ => none

def identifier : Rule Ident := do
  let t ← next
  match t.ident? with
  | some i => return i
  | none => unexpected "identifier" t

/-- A dotted name. -/
def objectName : Rule ObjectName := do
  let found ← iterate ([] : ObjectName) fun found => do
    let i ← identifier
    return (.ident i :: found, ← symbol ".")
  return found.reverse

/-- Identifiers in parentheses. -/
def identifierList : Rule (List Ident) := do
  if ← symbol "(" then
    let found ← commaList identifier
    let _ ← expectSymbol ")"
    return found
  else unexpected "a list of columns in parentheses" (← peek)

/-- Identifiers in parentheses, or nothing. -/
def optionalIdentifierList : Rule (List Ident) := do
  if ← peekSymbol "(" then identifierList else return []

/-- Dotted names in parentheses. -/
def nameList : Rule (List ObjectName) := do
  if ← symbol "(" then
    let found ← commaList objectName
    let _ ← expectSymbol ")"
    return found
  else unexpected "a list of columns in parentheses" (← peek)

/-- All identifiers up to the end of the statement or an equals sign, whatever stands between
them. -/
def identifiersToEnd : Rule (List Ident) := do
  let found ← iterate ([] : List Ident) fun found => do
    let t ← peek
    if t.token matches .finish || ["=", ";"].any t.token.isSymbol then return (found, false)
    let _ ← next
    match t.token with
    | .word value quote _ => return (⟨value, quote, t.span⟩ :: found, true)
    | _ => return (found, true)
  return found.reverse

/-! ## Aliases -/

/-- A data type whose brackets are all closed. -/
def dataType : Rule Part := do
  let type ← readType
  if type.isClosed then
    refuse ("unmatched > after parsing data type " ++ type.tree.shown.plain ++ (← peek).token.show)
  return type.tree

/-- An alias. A word without AS is one if `allowed` says so; text between single quotes always
is. -/
def aliasWhere (allowed : String → Bool) : Rule (Option Ident) := do
  let explicit ← keyword "AS"
  let t ← peek
  match t.token with
  | .word _ _ key =>
    if explicit || allowed key then
      let _ ← next
      return t.ident?
  | .literal .plain _ =>
    let _ ← next
    return t.ident?
  | _ => pure ()
  if explicit then
    let t ← next
    unexpected "an identifier after AS" t
  return none

/-- The alias of an item of a projection. -/
def columnAlias : Rule (Option Ident) := aliasWhere fun key => !noColumnAlias.contains key

/-- A column that a table alias names, with its type. -/
def Form.aliasColumn : Form := ⟨.record ["name", "data_type"], [.part 0, .opt 1 " " ""]⟩

/-- The columns that a table alias names, with their types. -/
def aliasColumn : Rule Part := do
  let name ← identifier
  let type ← attempt dataType
  return .node .aliasColumn [.ident name, optional id type]

def aliasColumns : Rule (List Part) := do
  if ← symbol "(" then
    let columns ← commaList aliasColumn
    let _ ← expectSymbol ")"
    return columns
  return []

/-- The alias of a table. -/
def tableAlias : Rule Alias := do
  let explicit ← peekKeyword "AS"
  match ← aliasWhere fun key => !noTableAlias.contains key with
  | some name => return .named explicit name (← aliasColumns)
  | none => return .absent

/-! ## Numbers -/

/-- The value of a run of decimal digits. -/
def decimalValue? (text : String) : Option Nat :=
  let digits := match text.toList with
    | '+' :: ds => ds
    | ds => ds
  if digits.isEmpty || !digits.all Char.isDigit then none
  else some (digits.foldl (fun n c => n * 10 + (c.toNat - '0'.toNat)) 0)

/-- A number of so many bits, which is called by the name of its type. -/
def boundedNumber (bits : Nat) (type text : String) (at_ : Position) : Rule Nat :=
  let fault (reason : String) : Rule Nat :=
    refuse ("Could not parse '" ++ text ++ "' as " ++ type ++ ": " ++ reason) at_
  match decimalValue? text with
  | some n => if n < 1 <<< bits then return n else fault "number too large to fit in target type"
  | none => fault "invalid digit found in string"

/-- A number that fits into 64 bits. -/
def natural64 : String → Position → Rule Nat := boundedNumber 64 "u64"

/-- A whole number. -/
def wholeNumber : Rule Nat := do
  let t ← next
  match t.token with
  | .number digits _ => natural64 digits t.span.start
  | _ => unexpected "literal int" t

/-- A whole number in parentheses, or nothing. -/
def optionalPrecision : Rule (Option Nat) := do
  if ← symbol "(" then
    let n ← wholeNumber
    let _ ← expectSymbol ")"
    return some n
  return none

/-! ## Literals -/

/-- An expression that is a literal value. -/
def Form.value : Form := ⟨.variant "Value" ["value", "span"], [.part 0]⟩

def Expr.ofValue (v : Value) (s : Span) : Expr := .form .value [.value v, .span s]

/-- The value that a token is by itself. -/
def Token.value? : Token → Option Value
  | .number digits long => some (.number digits long)
  | .literal kind text => some (.text kind text)
  | .dollar tag text => some (.dollar tag text)
  | .delimited national opening closing text => some (.delimited national opening closing text)
  | .placeholder text => some (.placeholder text)
  | _ => none

/-- A literal value and its place. -/
def literalValue : Rule (Value × Span) := do
  let t ← next
  match t.token with
  | .word value quote key =>
    if key == "TRUE" then return (.boolean true, t.span)
    else if key == "FALSE" then return (.boolean false, t.span)
    else if key == "NULL" then return (.null, t.span)
    else if quote = some '"' then return (.text .wide value, t.span)
    else if quote.isSome then unexpected "A value?" t
    else unexpected "a concrete value" t
  | .symbol mark =>
    if mark == ":" || mark == "@" then
      let name ← nextRaw
      match name.token with
      | .word value _ _ =>
        return (.placeholder (mark ++ value), ⟨t.span.start, name.span.stop⟩)
      | .number digits false =>
        return (.placeholder (mark ++ digits), ⟨t.span.start, name.span.stop⟩)
      | _ => unexpected "placeholder" name
    else unexpected "a value" t
  | token =>
    match token.value? with
    | some v => return (v, t.span)
    | none => unexpected "a value" t

/-- An expression that is a literal value. -/
def valueExpr : Rule Expr := do
  let (v, s) ← literalValue
  return .ofValue v s

/-- A literal value as a part of a node. -/
def valuePart : Rule Part := do
  let (v, _) ← literalValue
  return .value v

/-- A literal value and its place, as a part of a node. -/
def spannedValue : Rule Part := do
  let (v, s) ← literalValue
  return .node ⟨.record ["value", "span"], [.part 0]⟩ [.value v, .span s]

/-- A number or a placeholder, and its place. -/
def numberAt : Rule (Value × Span) := do
  let t ← peek
  let (v, s) ← literalValue
  match v with
  | .number .. | .placeholder _ => return (v, s)
  | _ => unexpected "literal number" t

def numberValue : Rule Value := return (← numberAt).1

/-- A text between quotes that has no kind in the tree notation. -/
def quotedPart (text : String) : Part := .choice text (quoted '\'' text)

/-- A text literal, or a word that is no keyword. -/
def literalString : Rule String := do
  let t ← next
  match t.token with
  | .word value _ _ => if t.token.isPlainWord then return value else unexpected "literal string" t
  | .literal .plain text | .literal .escaped text | .literal .unicode text => return text
  | _ => unexpected "literal string" t

end ColumnMask.Sql
