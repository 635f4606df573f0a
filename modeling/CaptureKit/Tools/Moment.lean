import CaptureKit.Text.Calendar
import CaptureKit.Tools.Numbers
import CaptureKit.Tools.Printing

/-!
# Moments

A moment is written as a date, a time of the day, how far away it is, or some of these in
any order.  What is not written is as it is now, but a day begins at midnight.
-/

namespace CaptureKit
namespace Tools

open Text

/-- The millionths of a second in a second. -/
def perSecond : Int := 1000000

/-- The millionths of a second in a day. -/
def perDay : Int := 86400 * perSecond

/-- The date on which programs start. -/
def startDate : Date := ⟨2025, 6, 15⟩

/-- When programs start, counted from the start of 1970. -/
def startMoment : Int := startDate.number * perDay + 54000 * perSecond

/-- A part of the spelling of a moment. -/
inductive MomentSign
  | number (digits : Octets)
  | word (letters : String)
  | mark (c : Char)
  deriving DecidableEq

/-- The parts of the spelling of a moment; `fuel` bounds their number. -/
def momentSigns : (fuel : Nat) → Octets → List MomentSign
  | 0, _ => []
  | fuel + 1, s =>
      match s.dropWhile isSpace with
      | [] => []
      | c :: rest =>
          if c.isDigit then
            let digits := (c :: rest).takeWhile Char.isDigit
            .number digits :: momentSigns fuel ((c :: rest).drop digits.length)
          else if c.isAlpha then
            let letters := (c :: rest).takeWhile Char.isAlpha
            .word (String.ofList (letters.map Char.toLower)) ::
              momentSigns fuel ((c :: rest).drop letters.length)
          else .mark c :: momentSigns fuel rest

/-- A distance in time: months, days, and millionths of a second. -/
structure Distance where
  months : Int
  days : Int
  rest : Int

/-- So many times a distance. -/
def Distance.times
    (distance : Distance)
    (n : Int) :
    Distance :=
  ⟨n * distance.months, n * distance.days, n * distance.rest⟩

/-- A distance behind another. -/
def Distance.plus (a b : Distance) : Distance :=
  ⟨a.months + b.months, a.days + b.days, a.rest + b.rest⟩

/-- What is known of a moment. -/
structure MomentDraft where
  date : Option Date
  time : Option Int
  /-- By how much the time is ahead of the usual one. -/
  zone : Option Int
  /-- A day of the week, and how many of them ahead. -/
  weekday : Option (Nat × Int)
  /-- How far ahead it is. -/
  ahead : Option Distance
  /-- The last distance of these. -/
  last : Option Distance
  /-- A time was read just before, and its zone may follow. -/
  awaitsZone : Bool

/-- The month of a name, of which one has a second short form. -/
def writtenMonth? (word : String) : Option Nat :=
  if word = "sept" then some 9 else month? word

/-- The distance that a name stands for, which may be that of many. -/
def unitDistance? (word : String) : Option Distance :=
  let one := match word.toList.reverse with
    | 's' :: rest => String.ofList rest.reverse
    | _ => word
  match one with
  | "year" => some ⟨12, 0, 0⟩
  | "month" => some ⟨1, 0, 0⟩
  | "fortnight" => some ⟨0, 14, 0⟩
  | "week" => some ⟨0, 7, 0⟩
  | "day" => some ⟨0, 1, 0⟩
  | "hour" => some ⟨0, 0, 3600 * perSecond⟩
  | "minute" | "min" => some ⟨0, 0, 60 * perSecond⟩
  | "second" | "sec" => some ⟨0, 0, perSecond⟩
  | _ => none

/-- How many distances a word stands for. -/
def ordinal? (word : String) : Option Int :=
  match word with
  | "last" => some (-1)
  | "this" => some 0
  | "next" | "first" => some 1
  | word =>
      (["third", "fourth", "fifth", "sixth", "seventh", "eighth", "ninth", "tenth", "eleventh",
        "twelfth"].idxOf? word).map fun n => (n : Int) + 3

/-- By how much the time of a place is ahead. -/
def zoneOf? (word : String) : Option Int :=
  match word with
  | "z" | "utc" | "gmt" | "ut" | "wet" => some 0
  | "cet" => some 1
  | "eet" => some 2
  | "est" => some (-5)
  | "cst" => some (-6)
  | "mst" => some (-7)
  | "pst" => some (-8)
  | _ => none

/-- The year that digits stand for, of which two are those of a year near 2000. -/
def yearOf (digits : Octets) : Int :=
  let number := decimalValue digits
  if digits.length = 2 then if number < 69 then 2000 + number else 1900 + number else number

namespace MomentDraft

/-- Nothing is known. -/
def empty : MomentDraft := ⟨none, none, none, none, none, none, false⟩

/-- The date is known. -/
def withDate
    (draft : MomentDraft)
    (year : Int)
    (month day : Nat) :
    Option MomentDraft :=
  if draft.date.isNone then
    some { draft with date := some ⟨year, month, day⟩, last := none, awaitsZone := false }
  else none

/-- The time of the day is known. -/
def withTime
    (draft : MomentDraft)
    (hours minutes : Nat)
    (seconds : Int) :
    Option MomentDraft :=
  if draft.time.isNone && hours < 24 && minutes < 60 && seconds < 60 * perSecond then
    some { draft with
      time := some ((3600 * hours + 60 * minutes : Nat) * perSecond + seconds)
      last := none
      awaitsZone := true }
  else none

/-- The time of the day is known, of which the hour is counted twice from 12 on. -/
def withHalf
    (draft : MomentDraft)
    (hours minutes : Nat)
    (word : String) :
    Option MomentDraft :=
  if 1 ≤ hours ∧ hours ≤ 12 ∧ (word = "am" ∨ word = "pm") then
    draft.withTime (hours % 12 + if word = "pm" then 12 else 0) minutes 0
  else none

/-- The zone of the time is known. -/
def withZone
    (draft : MomentDraft)
    (hours minutes : Int) :
    Option MomentDraft :=
  if draft.zone.isNone then
    some { draft with
      zone := some ((3600 * hours + 60 * minutes) * perSecond)
      last := none
      awaitsZone := false }
  else none

/-- The day of the week is known. -/
def withWeekday
    (draft : MomentDraft)
    (day : Nat)
    (count : Int) :
    Option MomentDraft :=
  if draft.weekday.isNone then
    some { draft with weekday := some (day, count), last := none, awaitsZone := false }
  else none

/-- The moment is further ahead. -/
def further
    (draft : MomentDraft)
    (distance : Distance) :
    MomentDraft :=
  { draft with
    ahead := some ((draft.ahead.getD ⟨0, 0, 0⟩).plus distance)
    last := some distance
    awaitsZone := false }

/-- What a number alone says: a year behind a date, a date, or a time. -/
def withNumber
    (draft : MomentDraft)
    (digits : Octets) :
    Option MomentDraft :=
  let n := decimalValue digits
  match draft.date, draft.time with
  | some date, some _ =>
      if date.year = startDate.year ∧ draft.ahead.isNone then
        some { draft with date := some { date with year := yearOf digits } }
      else none
  | date?, _ =>
      match date? with
      | some date =>
          if date.year = startDate.year ∧ 2 < digits.length then
            some { draft with date := some { date with year := yearOf digits } }
          else timeOf n
      | none =>
          if 4 < digits.length then draft.withDate (n / 10000) (n / 100 % 100) (n % 100)
          else timeOf n
where
  /-- A time of the day. -/
  timeOf (n : Nat) : Option MomentDraft := do
    let (hours, minutes) := if digits.length ≤ 2 then (n, 0) else (n / 100, n % 100)
    let next ← draft.withTime hours minutes 0
    return { next with awaitsZone := false }

/-- The moment, as it is told at another one. -/
def moment?
    (draft : MomentDraft)
    (now : Int) :
    Option Int :=
  let date := draft.date.getD (.ofNumber (now / perDay))
  let isNear := draft.ahead.isSome && draft.date.isNone && draft.weekday.isNone
  let time := draft.time.getD (if isNear then now % perDay else 0)
  let ahead := draft.ahead.getD ⟨0, 0, 0⟩
  if date.isReal then
    let days := (date.later ahead.months).number + ahead.days
    let further : Int := match draft.weekday with
      | some (day, count) =>
          if draft.date.isSome then 0
          else
            let wait := ((day : Int) - date.weekday) % 7
            wait + 7 * (count - if 0 < count ∧ wait ≠ 0 then 1 else 0)
      | none => 0
    some ((days + further) * perDay + time + ahead.rest - draft.zone.getD 0)
  else none

end MomentDraft

/-- Millionths of a second behind a decimal point. -/
def fractionOf (digits : Octets) : Int :=
  decimalValue ((digits ++ List.replicate 6 '0').take 6)

/-- Hours and minutes of a zone that are written without a mark between them. -/
def zoneParts (digits : Octets) : Int × Int :=
  let n : Int := decimalValue digits
  if digits.length ≤ 2 then (n, 0) else (n / 100, n % 100)

/-- Reads the spelling of a moment. -/
def readMoment (draft : MomentDraft) : List MomentSign → Option MomentDraft
  | [] => some draft
  | .number y :: .mark '-' :: .number m :: .mark '-' :: .number d :: .word "t" :: rest => do
      readMoment (← draft.withDate (yearOf y) (decimalValue m) (decimalValue d)) rest
  | .number y :: .mark '-' :: .number m :: .mark '-' :: .number d :: rest => do
      readMoment (← draft.withDate (yearOf y) (decimalValue m) (decimalValue d)) rest
  | .number d :: .mark '-' :: .word m :: .mark '-' :: .number y :: rest => do
      readMoment (← draft.withDate (yearOf y) (← writtenMonth? m) (decimalValue d)) rest
  | .number a :: .mark '/' :: .number b :: .mark '/' :: .number c :: rest => do
      let next ← if 4 ≤ a.length then draft.withDate (yearOf a) (decimalValue b) (decimalValue c)
        else draft.withDate (yearOf c) (decimalValue a) (decimalValue b)
      readMoment next rest
  | .number m :: .mark '/' :: .number d :: rest => do
      readMoment (← draft.withDate startDate.year (decimalValue m) (decimalValue d)) rest
  | .number h :: .mark ':' :: .number m :: .mark ':' :: .number s :: .mark '.' :: .number f ::
        rest => do
      let seconds := decimalValue s * perSecond + fractionOf f
      readMoment (← draft.withTime (decimalValue h) (decimalValue m) seconds) rest
  | .number h :: .mark ':' :: .number m :: .mark ':' :: .number s :: rest => do
      let seconds := decimalValue s * perSecond
      readMoment (← draft.withTime (decimalValue h) (decimalValue m) seconds) rest
  | .number h :: .mark ':' :: .number m :: .word "am" :: rest => do
      readMoment (← draft.withHalf (decimalValue h) (decimalValue m) "am") rest
  | .number h :: .mark ':' :: .number m :: .word "pm" :: rest => do
      readMoment (← draft.withHalf (decimalValue h) (decimalValue m) "pm") rest
  | .number h :: .mark ':' :: .number m :: rest => do
      readMoment (← draft.withTime (decimalValue h) (decimalValue m) 0) rest
  | .number n :: .word word :: rest => do
      let next ←
        if word = "am" ∨ word = "pm" then draft.withHalf (decimalValue n) 0 word
        else
          match writtenMonth? word, unitDistance? word with
          | some month, _ => draft.withDate startDate.year month (decimalValue n)
          | none, some distance => some (draft.further (distance.times (decimalValue n)))
          | none, none => none
      readMoment next rest
  | .mark sign :: .number n :: .mark ':' :: .number m :: rest => do
      let (negative, isZone) := (sign == '-', draft.awaitsZone && (sign == '-' || sign == '+'))
      if !isZone then none
      else
        let factor : Int := if negative then -1 else 1
        readMoment (← draft.withZone (factor * decimalValue n) (factor * decimalValue m)) rest
  | .mark sign :: .number n :: rest => do
      let factor : Int := if sign = '-' then -1 else 1
      if sign ≠ '-' ∧ sign ≠ '+' then none
      else if draft.awaitsZone then
        let (hours, minutes) := zoneParts n
        readMoment (← draft.withZone (factor * hours) (factor * minutes)) rest
      else
        match rest with
        | .word word :: rest => do
            readMoment (draft.further ((← unitDistance? word).times (factor * decimalValue n))) rest
        | _ => none
  | .word word :: .number d :: .mark ',' :: .number y :: rest => do
      readMoment (← draft.withDate (yearOf y) (← writtenMonth? word) (decimalValue d)) rest
  | .word "ago" :: rest => do
      let distance ← draft.last
      readMoment { draft.further (distance.times (-2)) with last := none } rest
  | .word word :: .word other :: rest =>
      match ordinal? word, unitDistance? other, weekday? other with
      | some count, some distance, _ => readMoment (draft.further (distance.times count)) rest
      | some count, none, some day => do readMoment (← draft.withWeekday day count) rest
      | _, _, _ => do readMoment (← alone word) (.word other :: rest)
  | .word word :: .mark ',' :: rest => do
      readMoment (← draft.withWeekday (← weekday? word) 0) rest
  | .word word :: .number d :: rest =>
      match writtenMonth? word with
      | some month => do readMoment (← draft.withDate startDate.year month (decimalValue d)) rest
      | none => do readMoment (← alone word) (.number d :: rest)
  | .word word :: rest => do readMoment (← alone word) rest
  | .number n :: rest => do readMoment (← draft.withNumber n) rest
  | .mark _ :: _ => none
where
  /-- What a word alone says. -/
  alone (word : String) : Option MomentDraft :=
    match word with
    | "now" | "today" => some (draft.further ⟨0, 0, 0⟩)
    | "yesterday" => some (draft.further ⟨0, -1, 0⟩)
    | "tomorrow" => some (draft.further ⟨0, 1, 0⟩)
    | word =>
        match unitDistance? word, weekday? word, zoneOf? word with
        | some distance, _, _ => some (draft.further distance)
        | none, some day, _ => draft.withWeekday day 0
        | none, none, some hours => draft.withZone hours 0
        | none, none, none => none

/-- The seconds behind `@`, in millionths. -/
def countedMoment? (text : Octets) : Option Int := do
  let body := ((text.dropWhile isSpace).reverse.dropWhile isSpace).reverse
  let digits := if ['-', '+'].contains (body.headD ' ') then body.tail else body
  if !(digits.headD ' ').isDigit || !(body.getLastD ' ').isDigit then none
  let number ← Decimal.of? body
  return number.units * perSecond / (Nat.pow 10 number.places : Nat)

/-- The moment that a text says at another one; both count from the start of programs on. -/
def moment?
    (now : Int)
    (text : Octets) :
    Option Int :=
  let found := match text.dropWhile isSpace with
    | '@' :: rest => countedMoment? rest
    | text => (readMoment .empty (momentSigns (text.length + 1) text)).bind (·.moment? (startMoment + now))
  found.map (· - startMoment)

/-- The moment that digits say: the month, the day, the hour and the minute, perhaps with a
year in front and seconds behind a point. -/
def stampMoment? (text : Octets) : Option Int := do
  let digits := text.takeWhile Char.isDigit
  let (year, rest) ← match digits.length with
    | 8 => some (startDate.year, digits)
    | 10 => some (yearOf (digits.take 2), digits.drop 2)
    | 12 => some ((decimalValue (digits.take 4) : Int), digits.drop 4)
    | _ => none
  let seconds ← match text.drop digits.length with
    | [] => some 0
    | ['.', a, b] => if a.isDigit && b.isDigit then some (decimalValue [a, b]) else none
    | _ => none
  let pair := fun place => decimalValue ((rest.drop place).take 2)
  let draft ← MomentDraft.empty.withDate year (pair 0) (pair 2)
  let draft ← draft.withTime (pair 4) (pair 6) (seconds * perSecond)
  let moment ← draft.moment? 0
  return moment - startMoment

end Tools
end CaptureKit
