import StepRunner.Number.Shortest

/-!
This file writes instants as calendar dates and elapsed times as seconds.
An instant is a number of milliseconds since the start of the year 1970.
-/

namespace StepRunner.Calendar

/-- The years that a date can have. -/
def firstYear : Int := -262143

/-- The last year that a date can have. -/
def lastYear : Int := 262142

/-- A day of the Gregorian calendar, extended to all years. -/
structure Date where
  year : Int
  month : Nat
  day : Nat
  deriving DecidableEq, Repr

/--
The date a number of days after the first day of 1970.
The count runs from the first of March of the year zero in cycles of four hundred years.
-/
def dateOfDays (days : Int) : Date :=
  let shifted := days + 719468
  let cycle := shifted.fdiv 146097
  let dayOfCycle := (shifted.fmod 146097).toNat
  let yearOfCycle :=
    (dayOfCycle - dayOfCycle / 1460 + dayOfCycle / 36524 - dayOfCycle / 146096) / 365
  let dayOfYear := dayOfCycle - (365 * yearOfCycle + yearOfCycle / 4 - yearOfCycle / 100)
  let shiftedMonth := (5 * dayOfYear + 2) / 153
  let month := if shiftedMonth < 10 then shiftedMonth + 3 else shiftedMonth - 9
  let year := (yearOfCycle : Int) + cycle * 400
  ⟨if month ≤ 2 then year + 1 else year, month, dayOfYear - (153 * shiftedMonth + 2) / 5 + 1⟩

/-- Writes a number with at least a count of digits. -/
def padded (count value : Nat) : List Char :=
  let digits := Text.decimalDigits value
  List.replicate (count - digits.length) '0' ++ digits

/-- A year before zero or of more than four digits carries its sign. -/
def yearText (year : Int) : List Char :=
  if year < 0 then '-' :: padded 4 year.natAbs
  else if 9999 < year then '+' :: padded 4 year.natAbs
  else padded 4 year.natAbs

/-- Writes an instant as a date and a time of day, or a dash for a year out of range. -/
def text (milliseconds : Int) : String :=
  let seconds := milliseconds.fdiv 1000
  let date := dateOfDays (seconds.fdiv 86400)
  let time := (seconds.fmod 86400).toNat
  if date.year < firstYear ∨ lastYear < date.year then "-"
  else
    String.ofList <| yearText date.year ++ '-' :: padded 2 date.month ++ '-' :: padded 2 date.day ++
      ' ' :: padded 2 (time / 3600) ++ ':' :: padded 2 (time / 60 % 60) ++
      ':' :: padded 2 (time % 60)

/--
The time from a start to an end in seconds with one decimal place.
The difference is taken in 64 bits, and an end before the start has no elapsed time.
-/
def elapsed (start : Int) (finish : Option Int) : String :=
  match finish with
  | some finish =>
    if start ≤ finish then
      let difference := (finish - start).bmod (Nat.pow 2 64)
      let size := Number.Binary64.divide (.ofNat difference.natAbs) (.ofNat 1000)
      let sign := if difference < 0 then ['-'] else []
      String.ofList (sign ++ size.oneDecimal ++ ['s'])
    else "-"
  | none => "-"

end StepRunner.Calendar
