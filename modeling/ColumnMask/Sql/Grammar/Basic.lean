-- The ground of the parser: a cursor over the tokens, the errors, and the rules. A rule
-- reads from the cursor; where it meets an expression, a query or a statement again it
-- asks the grammar it is run in, which is built level by level and so always ends.
import ColumnMask.Sql.Lexer
import ColumnMask.Sql.Tree

namespace ColumnMask.Sql

/-! ## Errors -/

/-- Why a text is no SQL. -/
inductive SyntaxError where
  | lexical (error : LexError)
  /-- Something else was wanted in the place of a token. -/
  | unexpected (wanted : String) (found : Located)
  | refused (message : String)
  /-- The text is nested more deeply than is allowed. -/
  | tooDeep
  deriving Repr

def SyntaxError.show : SyntaxError → String
  | .lexical e => "sql parser error: " ++ e.show
  | .unexpected wanted found =>
    "sql parser error: Expected: " ++ wanted ++ ", found: " ++ found.token.show ++
      found.span.start.suffix
  | .refused message => "sql parser error: " ++ message
  | .tooDeep => "sql parser error: recursion limit exceeded"

/-! ## Cursors -/

/-- What the words of an expression may mean at the cursor. -/
inductive Mode where
  | normal | connectBy | columnDefinition
  deriving DecidableEq

/-- The tokens still to be read, the last one read, how much deeper the text may be nested, and
the mode. `budget` is the number of tokens of the whole text; it bounds every loop. -/
structure Cursor where
  tokens : List Located
  last : Located
  depth : Nat
  mode : Mode
  budget : Nat

abbrev Parser (α : Type) := Cursor → Except SyntaxError (α × Cursor)

/-- A data type that was read: its tree, what it may stand for in an expression, and whether its
closing angle bracket was read too. -/
structure ReadType where
  tree : Part
  isCustom : Bool := false
  isInterval : Bool := false
  isClosed : Bool := false

/-- The rules that other rules come back to. -/
structure Grammar where
  statement : Parser Statement
  query : Parser Query
  body : Nat → Parser Body
  subexpr : Nat → Parser Expr
  primary : Parser Expr
  dataType : Parser ReadType
  tables : Parser TableWithJoins
  factor : Parser TableFactor

/-- A rule is read in a grammar. -/
abbrev Rule (α : Type) := ReaderT Grammar (StateT Cursor (Except SyntaxError)) α

/-- A rule that the grammar has. -/
def Rule.of {α : Type} (p : Grammar → Parser α) : Rule α := fun g c => p g c

def statement : Rule Statement := .of (·.statement)

def query : Rule Query := .of (·.query)

def body (precedence : Nat) : Rule Body := .of (·.body precedence)

/-- An expression whose operators bind more strongly than the given precedence. -/
def subexpr (precedence : Nat) : Rule Expr := .of (·.subexpr precedence)

def expr : Rule Expr := subexpr 0

/-- An expression without operators. -/
def primary : Rule Expr := .of (·.primary)

def readType : Rule ReadType := .of (·.dataType)

def tables : Rule TableWithJoins := .of (·.tables)

def factor : Rule TableFactor := .of (·.factor)

/-! ## Errors and trials -/

def unexpected {α : Type} (wanted : String) (found : Located) : Rule α :=
  throw (.unexpected wanted found)

/-- An error with a message of its own, at a place. -/
def refuse {α : Type} (message : String) (place : Position := .nowhere) : Rule α :=
  throw (.refused (message ++ place.suffix))

/-- Tries a rule; if it fails nothing has been read. Only too deep nesting is not forgiven. -/
def attempt {α : Type} (r : Rule α) : Rule (Option α) := fun g c =>
  match r g c with
  | .ok (a, c) => .ok (some a, c)
  | .error .tooDeep => .error .tooDeep
  | .error _ => .ok (none, c)

/-- Tries a rule; if it fails in whatever way nothing has been read. -/
def trial {α : Type} (r : Rule α) : Rule (Except SyntaxError α) := fun g c =>
  match r g c with
  | .ok (a, c) => .ok (.ok a, c)
  | .error e => .ok (.error e, c)

/-- Reads what a rule would read without reading it. -/
def lookahead {α : Type} (r : Rule α) : Rule α := fun g c =>
  match r g c with
  | .ok (a, _) => .ok (a, c)
  | .error e => .error e

/-- One level of nesting deeper, as long as that is allowed. -/
def nested {α : Type} (r : Rule α) : Rule α := fun g c =>
  match c.depth with
  | 0 => .error .tooDeep
  | depth + 1 =>
    match r g { c with depth } with
    | .ok (a, after) => .ok (a, { after with depth := c.depth })
    | .error e => .error e

/-- Reads in a mode and goes back to the one before. -/
def inMode {α : Type} (mode : Mode) (r : Rule α) : Rule α := do
  let before := (← get).mode
  modify ({ · with mode })
  let a ← r
  modify ({ · with mode := before })
  return a

def currentMode : Rule Mode := return (← get).mode

/-! ## Tokens -/

def dropBlanks (tokens : List Located) : List Located :=
  tokens.dropWhile fun t => t.token.isBlank

/-- The next token, blanks left out. -/
def peek : Rule Located := return (dropBlanks (← get).tokens).headD .finish

/-- The token after `n` others. -/
def peekAfter (n : Nat) : Rule Located :=
  return (((← get).tokens.filter fun t => !t.token.isBlank).drop n).headD .finish

/-- Reads the next token. At the end of the text there is always one more end. -/
def next : Rule Located := do
  match dropBlanks (← get).tokens with
  | [] =>
    modify ({ · with tokens := [], last := .finish })
    return .finish
  | t :: rest =>
    modify ({ · with tokens := rest, last := t })
    return t

/-- Reads the next token even if it is a blank. -/
def nextRaw : Rule Located := do
  match (← get).tokens with
  | [] =>
    modify ({ · with last := .finish })
    return .finish
  | t :: rest =>
    modify ({ · with tokens := rest, last := t })
    return t

/-- The token read last. -/
def lastRead : Rule Located := return (← get).last

/-- The place of the next token. -/
def place : Rule Position := return (← peek).span.start

def peekSymbol (text : String) : Rule Bool := return (← peek).token.isSymbol text

/-- Reads a symbol if it comes next. -/
def symbol (text : String) : Rule Bool := do
  if (← peek).token.isSymbol text then
    let _ ← next
    return true
  return false

/-- Reads several symbols if they come next, or none. -/
def symbols (texts : List String) : Rule Bool := do
  let found ← (List.range texts.length).mapM peekAfter
  if (found.zip texts).all fun (t, text) => t.token.isSymbol text then
    texts.forM fun _ => do let _ ← next
    return true
  return false

/-- Reads a symbol that has to come next. -/
def expectSymbol (text : String) : Rule Located := do
  if (← peek).token.isSymbol text then next
  else unexpected text (← peek)

/-! ## Keywords -/

def peekKeyword (word : String) : Rule Bool := return (← peek).token.key == word

def peekOneOf (words : List String) : Rule Bool := return words.contains (← peek).token.key

/-- Reads a keyword if it comes next. -/
def keyword (word : String) : Rule Bool := do
  if (← peek).token.key == word then
    let _ ← next
    return true
  return false

/-- Reads several keywords if they come next, or none. -/
def keywords (words : List String) : Rule Bool := do
  let found ← (List.range words.length).mapM peekAfter
  if (found.zip words).all fun (t, word) => t.token.key == word then
    words.forM fun _ => do let _ ← next
    return true
  return false

/-- Reads one of several keywords if one comes next. -/
def oneOf (words : List String) : Rule (Option String) := do
  let key := (← peek).token.key
  if words.contains key then
    let _ ← next
    return some key
  return none

/-- Reads a keyword that has to come next. -/
def expectKeyword (word : String) : Rule Located := do
  if (← peek).token.key == word then next
  else unexpected word (← peek)

def expectKeywords (words : List String) : Rule Unit :=
  words.forM fun w => do let _ ← expectKeyword w

/-- Reads one of several keywords, one of which has to come next. -/
def expectOneOf (words : List String) : Rule String := do
  match ← oneOf words with
  | some w => return w
  | none => unexpected ("one of " ++ " or ".intercalate words) (← peek)

/-! ## Repetition -/

/-- Repeats a rule that says when it is done; `fuel` bounds the turns. -/
def repeatFor {σ : Type} (step : σ → Rule (σ × Bool)) : Nat → σ → Rule σ
  | 0, s => return s
  | fuel + 1, s => do
    let (s, more) ← step s
    if more then repeatFor step fuel s else return s

/-- Repeats a rule until it is done. Each turn reads a token, so the tokens of the text bound the
number of turns. -/
def iterate {σ : Type} (start : σ) (step : σ → Rule (σ × Bool)) : Rule σ := do
  repeatFor step ((← get).budget + 1) start

/-- What a rule gives as long as it gives something. -/
def many {α : Type} (r : Rule (Option α)) : Rule (List α) := do
  let found ← iterate ([] : List α) fun found => do
    match ← r with
    | some a => return (a :: found, true)
    | none => return (found, false)
  return found.reverse

/-- One or more, with commas between them. -/
def commaList {α : Type} (r : Rule α) : Rule (List α) := do
  let found ← iterate ([] : List α) fun found => do
    let a ← r
    return (a :: found, ← symbol ",")
  return found.reverse

/-- The same, but none at all if the closing symbol comes next. -/
def commaList0 {α : Type} (r : Rule α) (closing : String) : Rule (List α) := do
  if ← peekSymbol closing then return [] else commaList r

/-- Something in parentheses. -/
def parenthesized {α : Type} (r : Rule α) : Rule α := do
  let _ ← expectSymbol "("
  let a ← r
  let _ ← expectSymbol ")"
  return a

/-- Something that is there exactly if a keyword is. -/
def after {α : Type} (word : String) (r : Rule α) : Rule (Option α) := do
  if ← keyword word then return some (← r) else return none

/-! ## Parts -/

/-- An optional part. -/
def optional {α : Type} (f : α → Part) : Option α → Part
  | some a => f a
  | none => .absent

/-- A list of parts. -/
def listOf {α : Type} (f : α → Part) (as : List α) : Part := .list (as.map f)

/-- A token of a tree with its place. -/
def Form.attached : Form := ⟨.record ["token", "span"], []⟩

def attached (t : Located) : Part := .node .attached [.token t.token, .span t.span]

end ColumnMask.Sql
