import CodeSurvey.AssociationList
import CodeSurvey.Number.Binary64
import CodeSurvey.Text.Quoted

/-!
# Settings as values

The values of the TOML format, and the two texts a value has: `Value.text`, in which a string
stands for itself, and `Value.inner`, the text inside an array or table, where strings are quoted
and dates and times are written as the calls that make them.
-/

namespace CodeSurvey

namespace Toml

/-- A day of the calendar. -/
structure Date where
  year : Nat
  month : Nat
  day : Nat
deriving DecidableEq, Repr, Inhabited

/-- A time of day, to the microsecond. -/
structure Time where
  hour : Nat
  minute : Nat
  second : Nat := 0
  microsecond : Nat := 0
deriving DecidableEq, Repr, Inhabited

/-- A value.  The entries of a table are in the order in which they were written. -/
inductive Value where
  | string (value : String)
  | integer (value : Int)
  | float (value : Binary64)
  | boolean (value : Bool)
  | date (date : Date)
  | time (time : Time)
  /-- A point in time, with the minutes by which its place is ahead of universal time if that is
  known. -/
  | dateTime (date : Date) (time : Time) (offset : Option Int)
  | array (items : List Value)
  | table (entries : List (String × Value))
deriving Repr, Inhabited

/-- The entries of a table. -/
abbrev Table := List (String × Value)

/-! ### Dates -/

/-- A year with a leap day. -/
def isLeapYear (year : Nat) : Bool := year % 4 = 0 && (year % 100 ≠ 0 || year % 400 = 0)

/-- The number of days in a month. -/
def daysInMonth (year month : Nat) : Nat :=
  if month = 2 then (if isLeapYear year then 29 else 28)
  else if month ∈ [4, 6, 9, 11] then 30
  else 31

/-- The day exists; the calendar begins with the year one. -/
def Date.isValid (d : Date) : Bool :=
  1 ≤ d.year && 1 ≤ d.month && d.month ≤ 12 && 1 ≤ d.day && d.day ≤ daysInMonth d.year d.month

/-! ### Text -/

/-- A number with at least `width` digits. -/
def padded (width n : Nat) : String :=
  let digits := Nat.toDigits 10 n
  String.ofList (List.replicate (width - digits.length) '0' ++ digits)

/-- The text of a date. -/
def Date.text (d : Date) : String :=
  padded 4 d.year ++ "-" ++ padded 2 d.month ++ "-" ++ padded 2 d.day

/-- The text of a time. -/
def Time.text (t : Time) : String :=
  padded 2 t.hour ++ ":" ++ padded 2 t.minute ++ ":" ++ padded 2 t.second ++
    (if t.microsecond = 0 then "" else "." ++ padded 6 t.microsecond)

/-- The text of an offset from universal time in minutes. -/
def offsetText (minutes : Int) : String :=
  (if minutes < 0 then "-" else "+") ++ padded 2 (minutes.natAbs / 60) ++ ":" ++
    padded 2 (minutes.natAbs % 60)

/-- The arguments that make a date. -/
def Date.arguments (d : Date) : List Nat := [d.year, d.month, d.day]

/-- The arguments that make a time; the ones at the end that are zero are left out, but not the
hour and the minute. -/
def Time.arguments (t : Time) : List Nat :=
  t.hour :: t.minute ::
    (if t.microsecond ≠ 0 then [t.second, t.microsecond]
      else if t.second ≠ 0 then [t.second]
      else [])

/-- Numbers with a comma between two of them. -/
def listed (numbers : List Nat) : String := ", ".intercalate (numbers.map toString)

/-- The call that makes an offset: it has whole days and the seconds of the day that follows. -/
def offsetCall (minutes : Int) : String :=
  if minutes = 0 then "datetime.timezone.utc"
  else
    let seconds := minutes * 60
    let days := seconds.fdiv 86400
    "datetime.timezone(datetime.timedelta(" ++
      (if days = 0 then "" else "days=" ++ toString days ++ ", ") ++
      "seconds=" ++ toString (seconds.fmod 86400) ++ "))"

/-- The text of a truth value. -/
def truthText (b : Bool) : String := if b then "True" else "False"

namespace Value

mutual

/-- The text of a value inside an array or table. -/
def inner : Value → String
  | string value => Text.quoted value
  | integer value => toString value
  | float value => value.text
  | boolean value => truthText value
  | date d => "datetime.date(" ++ listed d.arguments ++ ")"
  | time t => "datetime.time(" ++ listed t.arguments ++ ")"
  | dateTime d t offset =>
    "datetime.datetime(" ++ listed (d.arguments ++ t.arguments) ++
      (match offset with
        | some minutes => ", tzinfo=" ++ offsetCall minutes
        | none => "") ++ ")"
  | array items => "[" ++ ", ".intercalate (innerItems items) ++ "]"
  | table entries => "\x7b" ++ ", ".intercalate (innerEntries entries) ++ "\x7d"

/-- The texts of the items of an array. -/
def innerItems : List Value → List String
  | [] => []
  | item :: items => inner item :: innerItems items

/-- The texts of the entries of a table. -/
def innerEntries : List (String × Value) → List String
  | [] => []
  | (key, value) :: entries => (Text.quoted key ++ ": " ++ inner value) :: innerEntries entries

end

/-- The text of a value. -/
def text : Value → String
  | string value => value
  | date d => d.text
  | time t => t.text
  | dateTime d t offset => d.text ++ " " ++ t.text ++ ((offset.map offsetText).getD "")
  | value => value.inner

/-- A value that stands for nothing: an empty string, array or table, zero, or `false`. -/
def isNothing : Value → Bool
  | string value => value = ""
  | integer value => value = 0
  | float value => value.isZero
  | boolean value => !value
  | array items => items.isEmpty
  | table entries => entries.isEmpty
  | date _ | time _ | dateTime _ _ _ => false

end Value

end Toml

end CodeSurvey
