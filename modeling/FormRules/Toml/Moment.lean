/-
**Dates and times in TOML.**

A moment is a date, a time of day, or both with or without an offset from universal time. Seconds
may be missing, and fractions of a second count to the ninth place.

* `Moment.read?` accepts exactly the moments of the calendar;
* `Moment.text` writes a moment in canonical form.
-/

import FormRules.Decimal.Literal

namespace FormRules.Toml

/-- A day of the calendar. -/
structure Date where
  year : Nat
  month : Nat
  day : Nat

/-- A time of day. The fraction of the second is given by its digits, at most nine of them. -/
structure Time where
  hour : Nat
  minute : Nat
  second : Option Nat
  fraction : Option (List Char)

/-- The distance from universal time. -/
inductive Offset where
  | universal
  /-- So many minutes to the east. -/
  | shifted (minutes : Int)

/-- A date, a time of day or both. -/
inductive Moment where
  | date (date : Date)
  | time (time : Time)
  | both (date : Date) (time : Time) (offset : Option Offset)

namespace Moment

/-! ### Reading -/

/-- A number of exactly so many digits, and what follows it. -/
def readNumber? (count : Nat) (text : List Char) : Option (Nat × List Char) :=
  let digits := text.take count
  if digits.length = count ∧ digits.all Decimal.isDigit then
    some (Decimal.numberOf digits, text.drop count)
  else
    none

/-- What follows a character at the start of a text. -/
def after? (letter : Char) : List Char → Option (List Char)
  | first :: rest => if first = letter then some rest else none
  | [] => none

/-- Whether a year of the Gregorian calendar has a 29th of February. -/
def isLeapYear (year : Nat) : Bool :=
  year % 4 = 0 && (year % 100 != 0 || year % 400 = 0)

/-- The number of days of a month. -/
def daysOf (year month : Nat) : Nat :=
  if month = 2 then (if isLeapYear year then 29 else 28)
  else if month = 4 ∨ month = 6 ∨ month = 9 ∨ month = 11 then 30
  else 31

/-- A date and what follows it. -/
def readDate? (text : List Char) : Option (Date × List Char) := do
  let (year, afterYear) ← readNumber? 4 text
  let (month, afterMonth) ← readNumber? 2 (← after? '-' afterYear)
  let (day, left) ← readNumber? 2 (← after? '-' afterMonth)
  if 1 ≤ month ∧ month ≤ 12 ∧ 1 ≤ day ∧ day ≤ daysOf year month then
    return (⟨year, month, day⟩, left)
  else
    none

/-- The fraction of a second, or nothing, and what follows. -/
def readFraction? : List Char → Option (Option (List Char) × List Char)
  | '.' :: rest =>
    let (digits, left) := Decimal.Literal.readDigits rest
    if digits = [] then none else some (some (digits.take 9), left)
  | text => some (none, text)

/-- The seconds of a time with their fraction, or nothing, and what follows. -/
def readSeconds? : List Char → Option (Option Nat × Option (List Char) × List Char)
  | ':' :: rest => do
    let (second, afterSecond) ← readNumber? 2 rest
    let (fraction, left) ← readFraction? afterSecond
    if second ≤ 60 then return (some second, fraction, left) else none
  | text => some (none, none, text)

/-- A time of day and what follows it. -/
def readTime? (text : List Char) : Option (Time × List Char) := do
  let (hour, afterHour) ← readNumber? 2 text
  let (minute, afterMinute) ← readNumber? 2 (← after? ':' afterHour)
  let (second, fraction, left) ← readSeconds? afterMinute
  if hour ≤ 23 ∧ minute ≤ 59 then
    return (⟨hour, minute, second, fraction⟩, left)
  else
    none

/-- The offset that makes up the rest of a text, or nothing for the empty text. -/
def readOffset? : List Char → Option (Option Offset)
  | [] => some none
  | ['Z'] | ['z'] => some (some .universal)
  | sign :: rest => do
    if sign ≠ '+' ∧ sign ≠ '-' then
      none
    else
      let (hour, afterHour) ← readNumber? 2 rest
      let (minute, left) ← readNumber? 2 (← after? ':' afterHour)
      if hour ≤ 23 ∧ minute ≤ 59 ∧ left = [] then
        let minutes := 60 * hour + minute
        return some (.shifted (if sign = '-' then -minutes else minutes))
      else
        none

/-- The moment that starts with a date and goes on with the given text. -/
def continueDate? (day : Date) : List Char → Option Moment
  | [] => some (.date day)
  | separator :: rest => do
    if separator ≠ 'T' ∧ separator ≠ 't' ∧ separator ≠ ' ' then
      none
    else
      let (clock, left) ← readTime? rest
      return .both day clock (← readOffset? left)

/-- The moment that a text is, `none` if it is none. -/
def read? (text : List Char) : Option Moment :=
  match readDate? text with
  | some (day, left) => continueDate? day left
  | none =>
    match readTime? text with
    | some (clock, []) => some (.time clock)
    | _ => none

/-! ### Writing -/

/-- A number with zeros in front up to a width. -/
def padded (width number : Nat) : String :=
  String.ofList ((Decimal.digitsOf number).leftpad width '0')

/-- The fraction of a second after its point, without trailing zeros; one zero stands for none. -/
def fractionText (digits : List Char) : String :=
  match (digits.reverse.dropWhile (· = '0')).reverse with
  | [] => ".0"
  | significant => "." ++ String.ofList significant

/-- A date with hyphens between year, month and day. -/
def dateText (date : Date) : String :=
  padded 4 date.year ++ "-" ++ padded 2 date.month ++ "-" ++ padded 2 date.day

/-- A time with colons, and with the fraction of a second if it has one. -/
def timeText (time : Time) : String :=
  padded 2 time.hour ++ ":" ++ padded 2 time.minute ++
    (time.second.map fun second => ":" ++ padded 2 second).getD "" ++
    (time.fraction.map fractionText).getD ""

/-- An offset by a letter or by hours and minutes; no minutes at all are written with a plus. -/
def offsetText : Offset → String
  | .universal => "Z"
  | .shifted minutes =>
    (if minutes < 0 then "-" else "+") ++ padded 2 (minutes.natAbs / 60) ++ ":" ++
      padded 2 (minutes.natAbs % 60)

/-- A moment in canonical form. -/
def text : Moment → String
  | .date day => dateText day
  | .time clock => timeText clock
  | .both day clock offset =>
    dateText day ++ "T" ++ timeText clock ++ (offset.map offsetText).getD ""

end Moment

end FormRules.Toml
