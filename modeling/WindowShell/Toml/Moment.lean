/-
**Dates and times of TOML.**

A date, a time of day, or both with or without an offset, each within the calendar. They are checked
and kept as they are written.
-/

import WindowShell.Text.Numeral
import WindowShell.Toml.Reader
import WindowShell.Value

namespace WindowShell.Toml

/-- A number of exactly so many decimal digits, between two bounds. -/
def fixedNumber (count low high : Nat) : Reader Nat := do
  let digits ← (Reader.satisfying (Numeral.isDigit 10)).times count
  let value := (Numeral.read? 10 digits).getD 0
  Reader.require (low ≤ value && value ≤ high)
  return value

/-- Whether a year has a 29th of February. -/
def isLeapYear (year : Nat) : Bool := (year % 4 = 0 && year % 100 ≠ 0) || year % 400 = 0

/-- The number of days of a month. -/
def daysIn (year month : Nat) : Nat :=
  if month = 2 then (if isLeapYear year then 29 else 28)
  else if month = 4 || month = 6 || month = 9 || month = 11 then 30
  else 31

/-- A date. -/
def date : Reader Unit := do
  let year ← fixedNumber 4 0 9999
  Reader.literal ['-']
  let month ← fixedNumber 2 1 12
  Reader.literal ['-']
  let _ ← fixedNumber 2 1 (daysIn year month)

/-- Hours and minutes. -/
def hourAndMinute : Reader Unit := do
  let _ ← fixedNumber 2 0 23
  Reader.literal [':']
  let _ ← fixedNumber 2 0 59

/-- A time of day; a leap second is allowed. -/
def timeOfDay : Reader Unit := do
  hourAndMinute
  Reader.literal [':']
  let _ ← fixedNumber 2 0 60
  let _ ← Reader.attempt do
    Reader.literal ['.']
    (Reader.satisfying (Numeral.isDigit 10)).oneOrMore

/-- The offset of a time. -/
def offset : Reader Unit :=
  (do let _ ← Reader.satisfying fun c => c = 'Z' || c = 'z') <|>
    (do
      let _ ← Reader.satisfying fun c => c = '+' || c = '-'
      hourAndMinute)

/-- A date, perhaps with a time, or a time. -/
def moment : Reader Value := do
  let dated : Reader Unit := do
    date
    let _ ← Reader.attempt do
      let _ ← Reader.satisfying fun c => c = 'T' || c = 't' || c = ' '
      timeOfDay
      let _ ← offset.attempt
  return .moment (String.ofList (← (dated <|> timeOfDay).written))

end WindowShell.Toml
