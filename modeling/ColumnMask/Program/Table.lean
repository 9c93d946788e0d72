-- Tables for a terminal: a frame around the table, a line below the header, and blanks
-- between the columns.
import ColumnMask.Mapping
import ColumnMask.Text.Width

namespace ColumnMask.Program

/-- The lines of a text. -/
def textLines (text : String) : List String := text.splitOn "\n"

/-- A text with blanks behind it up to a width. -/
def padTo (width : Nat) (text : String) : String :=
  text ++ String.ofList (List.replicate (width - Text.width text) ' ')

/-- The width of the widest line of a column. -/
def columnWidth (cells : List String) : Nat :=
  ((cells.flatMap textLines).map Text.width).foldl max 0

/-- The lines of a row of two cells, each at least as wide as its column. -/
def rowLines (left right : Nat) (row : String × String) : List String :=
  let first := textLines row.1
  let second := textLines row.2
  (List.range (max first.length second.length)).map fun i =>
    "│ " ++ padTo left (first.getD i "") ++ "   " ++ padTo right (second.getD i "") ++ " │"

/-- A table of two columns with a header. -/
def table (header : String × String) (rows : List (String × String)) : String :=
  let all := header :: rows
  let left := columnWidth (all.map Prod.fst)
  let right := columnWidth (all.map Prod.snd)
  let rule (start middle stop : Char) : String :=
    String.ofList (start :: List.replicate (left + right + 5) middle ++ [stop])
  "\n".intercalate ([rule '┌' '─' '┐'] ++ rowLines left right header ++ [rule '╞' '═' '╡'] ++
    rows.flatMap (rowLines left right) ++ [rule '└' '─' '┘'])

/-- The table of pairs. -/
def pairTable (pairs : List Pair) : String :=
  table ("column_name", "column_hash") (pairs.map fun p => (p.name, p.digest))

end ColumnMask.Program
