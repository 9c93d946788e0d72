-- The fields of dates and times, and intervals, whose value a field may follow.
import ColumnMask.Sql.Grammar.Operators

namespace ColumnMask.Sql

/-! ## Fields -/

/-- The fields that follow the value of an interval: their words and names. -/
def intervalUnits : List (String × String) :=
  [ ("YEAR", "Year"), ("YEARS", "Years"), ("MONTH", "Month"), ("MONTHS", "Months"), ("WEEK", "Week"),
    ("WEEKS", "Weeks"), ("DAY", "Day"), ("DAYS", "Days"), ("HOUR", "Hour"), ("HOURS", "Hours"),
    ("MINUTE", "Minute"), ("MINUTES", "Minutes"), ("SECOND", "Second"), ("SECONDS", "Seconds"),
    ("CENTURY", "Century"), ("DECADE", "Decade"), ("DOW", "Dow"), ("DOY", "Doy"), ("EPOCH", "Epoch"),
    ("ISODOW", "Isodow"), ("ISOYEAR", "Isoyear"), ("JULIAN", "Julian"),
    ("MICROSECOND", "Microsecond"), ("MICROSECONDS", "Microseconds"), ("MILLENIUM", "Millenium"),
    ("MILLENNIUM", "Millennium"), ("MILLISECOND", "Millisecond"), ("MILLISECONDS", "Milliseconds"),
    ("NANOSECOND", "Nanosecond"), ("NANOSECONDS", "Nanoseconds"), ("QUARTER", "Quarter"),
    ("TIMEZONE", "Timezone"), ("TIMEZONE_HOUR", "TimezoneHour"),
    ("TIMEZONE_MINUTE", "TimezoneMinute") ]

/-- All fields of dates and times. -/
def timeFields : List (String × String) :=
  intervalUnits ++
    [ ("DAYOFWEEK", "DayOfWeek"), ("DAYOFYEAR", "DayOfYear"), ("DATE", "Date"),
      ("DATETIME", "Datetime"), ("ISOWEEK", "IsoWeek"), ("TIME", "Time"),
      ("TIMEZONE_ABBR", "TimezoneAbbr"), ("TIMEZONE_REGION", "TimezoneRegion") ]

/-- A field of a date or a time. Any other word or quoted text is a field of the user. -/
def timeField : Rule Part := do
  let t ← peek
  match t.token with
  | .word _ _ "WEEK" =>
    let _ ← next
    let day ← if ← symbol "(" then do
        let day ← identifier
        let _ ← expectSymbol ")"
        pure (Part.ident day)
      else pure .absent
    return .node ⟨.newtype "Week", [.word "WEEK", .opt 0 "(" ")"]⟩ [day]
  | .word .. | .literal .plain _ =>
    if let some (word, name) := timeFields.find? (·.1 == t.token.key) then
      let _ ← next
      return .choice name word
    return .node ⟨.newtype "Custom", [.part 0]⟩ [.ident (← identifier)]
  | _ =>
    let _ ← next
    unexpected "date/time field" t

/-! ## Intervals -/

def Part.isSecond : Part → Bool
  | .choice "Second" _ => true
  | _ => false

def Form.interval (bothPrecisions : Bool) : Form where
  encoding := .variant "Interval" ["value", "leading_field", "leading_precision", "last_field",
    "fractional_seconds_precision"]
  layout := if bothPrecisions then
      [.word "INTERVAL ", .part 0, .word " SECOND (", .part 2, .word ", ", .part 4, .word ")"]
    else [.word "INTERVAL ", .part 0, .opt 1 " " "", .opt 2 " (" ")", .opt 3 " TO " "",
      .opt 4 " (" ")"]

def numberPart (n : Nat) : Part := .number n

/-- An interval after its word. -/
def interval : Rule Expr := do
  let value ← primary
  let unit ← peek
  let leading ← if intervalUnits.any (·.1 == unit.token.key) then timeField else pure .absent
  if leading.isSecond then
    if ← symbol "(" then
      let precision ← wholeNumber
      let fraction ← if ← symbol "," then do pure (some (← wholeNumber)) else pure none
      let _ ← expectSymbol ")"
      return .form (.interval fraction.isSome)
        [.expr value, leading, .number precision, .absent, optional numberPart fraction]
    return .form (.interval false) [.expr value, leading, .absent, .absent, .absent]
  let precision ← optionalPrecision
  if ← keyword "TO" then
    let last ← timeField
    let fraction ← if last.isSecond then optionalPrecision else pure none
    return .form (.interval false)
      [.expr value, leading, optional numberPart precision, last, optional numberPart fraction]
  return .form (.interval false)
    [.expr value, leading, optional numberPart precision, .absent, .absent]

end ColumnMask.Sql
