-- Parsing SQL text. The rules of the grammar refer to each other; here they are tied
-- together level by level. A rule of one level asks the level below, and no text needs
-- more levels than it has tokens, up to a factor.
import ColumnMask.Sql.Grammar.Expressions
import ColumnMask.Sql.Grammar.Patterns
import ColumnMask.Sql.Grammar.Statements

namespace ColumnMask.Sql

/-! ## The grammar -/

/-- The grammar in which rules may come back to rules up to `n` times below each other. -/
def Grammar.level : Nat → Grammar
  | 0 =>
    { statement := fun _ => .error .tooDeep
      query := fun _ => .error .tooDeep
      body := fun _ _ => .error .tooDeep
      subexpr := fun _ _ => .error .tooDeep
      primary := fun _ => .error .tooDeep
      dataType := fun _ => .error .tooDeep
      tables := fun _ => .error .tooDeep
      factor := fun _ => .error .tooDeep }
  | n + 1 =>
    { statement := fun c => statementRule (Grammar.level n) c
      query := fun c => queryRule (Grammar.level n) c
      body := fun p c => bodyRule p (Grammar.level n) c
      subexpr := fun p c => subexprRule p (Grammar.level n) c
      primary := fun c => primaryRule (Grammar.level n) c
      dataType := fun c => dataTypeRule (Grammar.level n) c
      tables := fun c => tablesRule (Grammar.level n) c
      factor := fun c => factorRule (Grammar.level n) c }

/-- How many levels of nesting a text may have. -/
def nestingLimit : Nat := 50

/-! ## Statements -/

/-- Reads statements with semicolons between them. A word END where a semicolon should be ends
the text. -/
def statements : Rule (List Statement) := do
  let (found, _) ← iterate (([] : List Statement), false) fun (found, wantsEnd) => do
    if ← symbol ";" then return ((found, false), true)
    let t ← peek
    if t.token matches .finish then return ((found, false), false)
    if wantsEnd then
      if t.token.key == "END" then return ((found, false), false)
      unexpected "end of statement" t
    let s ← statement
    return ((s :: found, true), true)
  return found.reverse

/-- The statements of a text. -/
def parse (text : String) : Except SyntaxError (List Statement) := do
  let tokens ← (tokenize text).mapError .lexical
  let budget := tokens.length
  let start : Cursor :=
    { tokens, last := .finish, depth := nestingLimit, mode := .normal, budget }
  let (found, _) ← statements (Grammar.level (20 * budget + 100)) start
  return found

end ColumnMask.Sql
