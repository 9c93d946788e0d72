-- Statements that are phrases: words and parts one after the other. What they are
-- built from is shared here.
import ColumnMask.Sql.Grammar.Queries

namespace ColumnMask.Sql

/-! ## Phrases -/

/-- A statement that is a phrase. -/
def phrase (parts : List Part) : Statement := .other .phrase parts

/-- A word if a condition holds. -/
def wordIf (b : Bool) (word : String) : Part := if b then .text word else .absent

/-- A word and the part after it, if there is one. -/
def led (word : String) : Part → Part
  | .absent => .absent
  | p => .node .phrase [.text word, p]

/-- Parts in parentheses. -/
def inParens (parts : List Part) : Part := .node .parens parts

/-- Parts in parentheses, or nothing if there are none. -/
def someParens (parts : List Part) : Part := if parts.isEmpty then .absent else inParens parts

def withCommas (parts : List Part) : Part := .node .commas parts

/-- Text between single quotes. -/
def quotedText (s : String) : Part := .value (.text .plain s)

/-- Reads words if they come next and gives them back as a part. -/
def optionalWords (words : List String) : Rule Part := do
  return wordIf (← keywords words) (" ".intercalate words)

/-- Reads one of several words if it comes next and gives it back as a part. -/
def optionalWord (words : List String) : Rule Part :=
  return optional Part.text (← oneOf words)

/-- The words, if they come next, and what a rule reads after them. -/
def clause (words : List String) (r : Rule Part) : Rule Part := do
  if ← keywords words then return led (" ".intercalate words) (← r) else return .absent

/-- One of several sequences of words if it comes next, as a part. -/
def optionalChoice (choices : List (List String)) : Rule Part := do
  return optional (fun words => Part.text (" ".intercalate words)) (← choices.findM? keywords)

/-! ## Recurring clauses -/

def ifExists : Rule Part := optionalWords ["IF", "EXISTS"]

def ifNotExists : Rule Part := optionalWords ["IF", "NOT", "EXISTS"]

def relationPart : Rule Part := return .relation (← objectName)

def namePart : Rule Part := return .name (← objectName)

def names : Rule Part := return withCommas ((← commaList objectName).map .name)

/-- Options in parentheses after a word. -/
def optionsAfter (word : String) : Rule Part := do
  if ← keyword word then
    let options ← sqlOptions
    if options.isEmpty then return .absent
    return .node .glued [.text word, .text (if word == "WITH" then " " else ""), inParens options]
  return .absent

def onCluster : Rule Part := do
  if ← keywords ["ON", "CLUSTER"] then
    return led "ON CLUSTER" (.ident (← identifier))
  return .absent

/-- Identifiers with commas between them. -/
def identifiers : Rule Part := return withCommas ((← commaList identifier).map .ident)

/-- An expression in parentheses. -/
def conditionPart : Rule Part := return inParens [.expr (← parenthesized expr)]

/-- Expressions in parentheses. -/
def conditionsPart : Rule Part := return inParens ((← parenthesized (commaList expr)).map .expr)

/-- Who owns a thing. -/
def owner : Rule Part := do
  match ← oneOf ["CURRENT_USER", "CURRENT_ROLE", "SESSION_USER"] with
  | some word => return .text word
  | none =>
    match ← trial identifier with
    | .ok i => return .ident i
    | .error e =>
      refuse ("Expected: CURRENT_USER, CURRENT_ROLE, SESSION_USER or identifier after OWNER TO. " ++
        e.show)

/-- Owners with commas between them. -/
def owners : Rule Part := return withCommas (← commaList owner)

/-- A user, at a host if one is given. -/
def granteeName : Rule Part := do
  let name ← objectName
  if name.length == 1 && (← peekSymbol "@") then
    let _ ← next
    return .node .glued [.name name, .text "@", .ident (← identifier)]
  return .name name

/-- Names with values after equals signs, in parentheses or up to one of the words. The end of the
statement is read with them. -/
def keyValues (closed : Bool) (stops : List String) : Nat → Rule (List Part × Bool)
  | 0 => throw .tooDeep
  | fuel + 1 => do
    let pair (name : String) (value : Part) : Part := .node .glued [.text (name ++ "="), value]
    let valued (name : String) : Rule Part := do
      let _ ← expectSymbol "="
      let t ← peek
      match t.token with
      | .literal .plain _ | .number .. => return pair name (← valuePart)
      | .word value _ key =>
        if key == "TRUE" || key == "FALSE" then return pair name (← valuePart)
        let _ ← next
        return pair name (.text value)
      | .symbol "(" =>
        match ← attempt (parenthesized (commaList0 valuePart ")")) with
        | some values => return pair name (inParens values)
        | none =>
          let (inner, withComma) ← keyValues true [] fuel
          return pair name (.node ⟨.array, [.word "(", .all (if withComma then ", " else " "),
            .word ")"]⟩ inner)
      | _ => unexpected "expected option value" t
    if closed then
      let _ ← expectSymbol "("
    let (found, withComma) ← iterate (([] : List Part), false) fun (found, withComma) => do
      let start ← get
      let t ← next
      match t.token with
      | .symbol ")" =>
        if closed then return ((found, withComma), false)
        unexpected " another option or EOF" (← peek)
      | .finish | .symbol ";" => return ((found, withComma), false)
      | .symbol "," => return ((found, true), true)
      | .word value _ key =>
        if stops.contains key then
          set start
          return ((found, withComma), false)
        return (((← valued value) :: found, withComma), true)
      | _ => unexpected "another option, EOF, SemiColon, Comma or ')'" (← peek)
    return (found.reverse, withComma)

/-- Names with values, as they are shown. -/
def keyValuePart (closed : Bool) (stops : List String) : Rule Part := do
  match ← keyValues closed stops ((← get).budget + 1) with
  | ([], _) => return .absent
  | (found, withComma) => return .node ⟨.array, [.all (if withComma then ", " else " ")]⟩ found

def dropBehavior : Rule Part := optionalWord ["CASCADE", "RESTRICT"]

/-- The query after AS, or nothing. -/
def asQuery : Rule Part := return led "AS" (optional .query (← after "AS" query))

/-! ## Transactions -/

def transactionMode : Rule (Option Part) := do
  let found ← [["ISOLATION", "LEVEL"], ["READ", "ONLY"], ["READ", "WRITE"]].findM? keywords
  match found with
  | some ["ISOLATION", "LEVEL"] =>
    let levels := [["READ", "UNCOMMITTED"], ["READ", "COMMITTED"], ["REPEATABLE", "READ"],
      ["SERIALIZABLE"], ["SNAPSHOT"]]
    match ← levels.findM? keywords with
    | some level => return some (.text ("ISOLATION LEVEL " ++ " ".intercalate level))
    | none => unexpected "isolation level" (← peek)
  | some words => return some (.text (" ".intercalate words))
  | none => return none

/-- Transaction modes; the commas between them may be left out. -/
def transactionModes : Rule Part := do
  let (found, _) ← iterate (([] : List Part), false) fun (found, required) => do
    match ← transactionMode with
    | some mode => return ((mode :: found, ← symbol ","), true)
    | none =>
      if required then unexpected "transaction mode" (← peek)
      return ((found, required), false)
  return withCommas found.reverse

/-- Whether a transaction is followed by another one. -/
def chainPart : Rule Part := do
  let _ ← oneOf ["TRANSACTION", "WORK", "TRAN"]
  if ← keyword "AND" then
    let chain := !(← keyword "NO")
    let _ ← expectKeyword "CHAIN"
    return wordIf chain "AND CHAIN"
  return .absent

/-! ## Statements in statements -/

/-- Statements with a semicolon after each, up to one of the words. -/
def statementsUntil (words : List String) : Rule Part := do
  let found ← iterate ([] : List Part) fun found => do
    let t ← peek
    if t.token matches .finish || words.contains t.token.key then return (found, false)
    let s ← statement
    let _ ← expectSymbol ";"
    return (.node .glued [.statement s, .text ";"] :: found, true)
  return .node .phrase found.reverse

/-- Statements between BEGIN and END, or as many as there are up to one of the words. -/
def statementBlock (words : List String) : Rule Part := do
  if ← keyword "BEGIN" then
    let inner ← statementsUntil words
    let _ ← expectKeyword "END"
    return .node .phrase [.text "BEGIN", inner, .text "END"]
  statementsUntil words

end ColumnMask.Sql
