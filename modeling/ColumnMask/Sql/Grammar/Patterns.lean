-- Row patterns of MATCH_RECOGNIZE: symbols, repetitions, sequences and alternatives.
import ColumnMask.Sql.Grammar.Calls

namespace ColumnMask.Sql

/-! ## Repetitions -/

/-- A number in the bounds of a repetition. -/
def boundNumber : String → Position → Rule Nat := boundedNumber 32 "u32"

/-- How often a pattern is repeated, if it is. -/
def quantifier : Rule (Option Part) := do
  let start ← get
  let t ← next
  let exactly (name opening closing : String) (n : Nat) : Part :=
    .node ⟨.newtype name, [.word ("\x7b" ++ opening), .part 0, .word (closing ++ "\x7d")]⟩ [.number n]
  match t.token with
  | .symbol "*" => return some (.choice "ZeroOrMore" "*")
  | .symbol "+" => return some (.choice "OneOrMore" "+")
  | .placeholder "?" => return some (.choice "AtMostOne" "?")
  | .symbol "\x7b" =>
    let bound ← next
    match bound.token with
    | .symbol "," =>
      let upper ← next
      match upper.token with
      | .number digits _ =>
        let _ ← expectSymbol "\x7d"
        return some (exactly "AtMost" "," "" (← boundNumber digits bound.span.start))
      | _ => unexpected "literal number" upper
    | .number digits _ =>
      if ← symbol "," then
        let upper ← next
        match upper.token with
        | .number more _ =>
          let _ ← expectSymbol "\x7d"
          let n ← boundNumber digits bound.span.start
          let m ← boundNumber more bound.span.start
          return some (.node ⟨.tuple "Range", [.word "\x7b", .part 0, .word ",", .part 1, .word "\x7d"]⟩
            [.number n, .number m])
        | .symbol "\x7d" =>
          return some (exactly "AtLeast" "" "," (← boundNumber digits bound.span.start))
        | _ => unexpected "\x7d or upper bound" upper
      let _ ← expectSymbol "\x7d"
      return some (exactly "Exactly" "" "" (← boundNumber digits bound.span.start))
    | _ => unexpected "quantifier range" bound
  | _ =>
    set start
    return none

/-! ## Patterns -/

def namedSymbol (i : Ident) : Part := .node ⟨.newtype "Named", [.part 0]⟩ [.ident i]

def symbolPattern (p : Part) : Part := .node ⟨.newtype "Symbol", [.part 0]⟩ [p]

/-- A pattern without repetition; `inner` reads the pattern in a group. -/
def basePattern (inner : Rule Part) : Rule Part := do
  let start ← get
  let t ← next
  match t.token with
  | .symbol "^" => return symbolPattern (.choice "Start" "^")
  | .placeholder "$" => return symbolPattern (.choice "End" "$")
  | .symbol "\x7b" =>
    let _ ← expectSymbol "-"
    let name ← identifier
    let _ ← expectSymbol "-"
    let _ ← expectSymbol "\x7d"
    return .node ⟨.newtype "Exclude", [.word "\x7b- ", .part 0, .word " -\x7d"]⟩ [namedSymbol name]
  | .word "PERMUTE" none _ =>
    let names ← parenthesized (commaList identifier)
    return .node ⟨.newtype "Permute", [.word "PERMUTE(", .list 0 ", ", .word ")"]⟩
      [listOf namedSymbol names]
  | .symbol "(" =>
    let p ← inner
    let _ ← expectSymbol ")"
    return .node ⟨.newtype "Group", [.word "( ", .part 0, .word " )"]⟩ [p]
  | _ =>
    set start
    return symbolPattern (namedSymbol (← identifier))

/-- A pattern with all its repetitions. -/
def repeatedPattern (inner : Rule Part) : Rule Part := do
  let base ← basePattern inner
  iterate base fun p => do
    match ← quantifier with
    | some q => return (.node ⟨.tuple "Repetition", [.part 0, .part 1]⟩ [p, q], true)
    | none => return (p, false)

/-- Patterns one after the other. -/
def patternSequence (inner : Rule Part) : Rule Part := do
  let found ← iterate ([] : List Part) fun found => do
    let p ← repeatedPattern inner
    return (p :: found, !((← peekSymbol ")") || (← peekSymbol "|")))
  match found with
  | [p] => return p
  | ps => return .node ⟨.newtype "Concat", [.list 0 " "]⟩ [.list ps.reverse]

/-- A pattern; `fuel` bounds the depth of its groups. -/
def rowPattern : Nat → Rule Part
  | 0 => refuse "row pattern"
  | fuel + 1 => do
    let found ← iterate ([] : List Part) fun found => do
      let p ← patternSequence (rowPattern fuel)
      return (p :: found, ← symbol "|")
    match found with
    | [p] => return p
    | ps => return .node ⟨.newtype "Alternation", [.list 0 " | "]⟩ [.list ps.reverse]

end ColumnMask.Sql
