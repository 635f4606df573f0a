/-!
# The calendar

A date is a year, a month and a day of the month.  Days are numbered from the start of 1970
on, so that the times between dates can be told.
-/

namespace CaptureKit
namespace Text

/-- A date as it is written. -/
structure Date where
  year : Int
  month : Nat
  day : Nat
  deriving DecidableEq

/-- The names of the months in their order. -/
def monthNames : List String :=
  ["january", "february", "march", "april", "may", "june", "july", "august", "september",
    "october", "november", "december"]

/-- The names of the days of the week, from Sunday on. -/
def weekdayNames : List String :=
  ["sunday", "monday", "tuesday", "wednesday", "thursday", "friday", "saturday"]

/-- A word is a name or its first three letters. -/
def isShortFor (word name : String) : Bool :=
  word == name || word.toList == name.toList.take 3

/-- The number of the month that a word in small letters names. -/
def month? (word : String) : Option Nat :=
  (monthNames.findIdx? (isShortFor word)).map (· + 1)

/-- The day of the week that a word in small letters names, where Sunday is 0. -/
def weekday? (word : String) : Option Nat :=
  weekdayNames.findIdx? (isShortFor word)

/-- A year with a day more than others. -/
def isLeapYear (year : Int) : Bool :=
  year % 4 == 0 && (year % 100 != 0 || year % 400 == 0)

/-- How many days a month has. -/
def monthDays
    (year : Int)
    (month : Nat) :
    Nat :=
  match month with
  | 2 => if isLeapYear year then 29 else 28
  | 4 | 6 | 9 | 11 => 30
  | _ => 31

namespace Date

/-- The month and the day are on the calendar. -/
def isReal (date : Date) : Bool :=
  1 ≤ date.month && date.month ≤ 12 && 1 ≤ date.day && date.day ≤ monthDays date.year date.month

/-- How many days there are from the start of 1970 to the start of a year. -/
def yearStart (year : Int) : Int :=
  let past := year - 1
  365 * (year - 1970) + (past / 4 - past / 100 + past / 400) - 477

/-- The number of a date.  Days beyond the end of their month go on in the next one. -/
def number (date : Date) : Int :=
  let full := (List.range (date.month - 1)).map fun before => monthDays date.year (before + 1)
  yearStart date.year + (full.foldl (· + ·) 0 : Nat) + date.day - 1

/-- The date of a number.  The calendar repeats after 146097 days; a year is counted from
March on, so that its last day is the one that some years lack. -/
def ofNumber (number : Int) : Date :=
  let days := number + 719468
  let inCycle := days % 146097
  let years := (inCycle - inCycle / 1460 + inCycle / 36524 - inCycle / 146096) / 365
  let inYear := inCycle - (365 * years + years / 4 - years / 100)
  let months := (5 * inYear + 2) / 153
  let month := if months < 10 then months + 3 else months - 9
  let year := 400 * (days / 146097) + years + if month ≤ 2 then 1 else 0
  ⟨year, month.toNat, (inYear - (153 * months + 2) / 5 + 1).toNat⟩

/-- The date some months later, the day of the month as before. -/
def later
    (date : Date)
    (months : Int) :
    Date :=
  let count := 12 * date.year + (date.month - 1) + months
  ⟨count / 12, (count % 12).toNat + 1, date.day⟩

/-- The day of the week of a date, where Sunday is 0. -/
def weekday (date : Date) : Nat :=
  ((date.number + 4) % 7).toNat

end Date

end Text
end CaptureKit
