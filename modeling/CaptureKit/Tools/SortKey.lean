import CaptureKit.Text.Calendar
import CaptureKit.Text.Floating
import CaptureKit.Tools.Repeats
import CaptureKit.Tools.VersionOrder

/-!
# Keys to sort by

A key is a part of a line and a way to compare it.  Lines are compared by keys, one after the
other, and by all their octets if no key tells them apart.  Main statement: lines that are the
same are not told apart (`compareLines_self`).
-/

namespace CaptureKit
namespace Tools

open Text

/-- How parts of lines are compared. -/
structure SortStyle where
  /-- The letters of the options that say how. -/
  letters : List Char
  deriving DecidableEq

/-- A place in a line: so many fields, and then so many octets. -/
structure SortPlace where
  field : Nat
  octet : Nat
  skipsBlanks : Bool

/-- A key: where it starts, where it ends if not with the line, and how it is compared. -/
structure SortKey where
  start : SortPlace
  ending : Option SortPlace
  style : SortStyle

/-- A blank between fields. -/
def isFieldBlank (c : Char) : Bool :=
  c == ' ' || c == '\t' || c == '\n'

/-- A line from a field on, and the field before, if fields end at blanks or else at a
separator.  A separator belongs to neither. -/
def afterField
    (separator : Option Char)
    (line : Octets) :
    Octets :=
  match separator with
  | some c => (line.dropWhile (· != c)).drop 1
  | none => (line.dropWhile isFieldBlank).dropWhile (!isFieldBlank ·)

/-- A line from a place on. -/
def fromPlace
    (separator : Option Char)
    (place : SortPlace)
    (line : Octets) :
    Octets :=
  let rest := (min place.field (line.length + 1)).repeat (afterField separator) line
  (if place.skipsBlanks then rest.dropWhile isFieldBlank else rest).drop place.octet

/-- What is behind the end of a key; with no octets given, all of the last field belongs to
it. -/
def behindPlace
    (separator : Option Char)
    (place : SortPlace)
    (line : Octets) :
    Octets :=
  if place.octet = 0 then
    let rest := (min place.field (line.length + 1)).repeat (afterField separator) line
    match separator with
    | some c => rest.dropWhile (· != c)
    | none => afterField none rest
  else fromPlace separator place line

/-- The part of a line that is a key. -/
def SortKey.of
    (separator : Option Char)
    (key : SortKey)
    (line : Octets) :
    Octets :=
  let part := fromPlace separator key.start line
  match key.ending with
  | none => part
  | some place => part.take (part.length - (behindPlace separator place line).length)

/-- A decimal number: digits without their point, and how many stood behind it. -/
structure SortNumber where
  digits : Int
  places : Nat

/-- The order of decimal numbers. -/
def SortNumber.compare (a b : SortNumber) : Ordering :=
  Ord.compare (a.digits * Nat.pow 10 (b.places - a.places))
    (b.digits * Nat.pow 10 (a.places - b.places))

/-- The number at the front of a text, and what follows; anything else is zero. -/
def sortNumberAt (s : Octets) : SortNumber × Octets :=
  let body := s.dropWhile isFieldBlank
  let (negative, body) := match body with
    | '-' :: rest => (true, rest)
    | rest => (false, rest)
  let whole := body.takeWhile Char.isDigit
  let rest := body.drop whole.length
  let (part, rest) := match rest with
    | '.' :: rest => (rest.takeWhile Char.isDigit, rest.dropWhile Char.isDigit)
    | rest => ([], rest)
  let value : Int := decimalValue (whole ++ part)
  (⟨if negative then -value else value, part.length⟩, rest)

/-- The order of numbers with a point and a power: what is no number comes first. -/
def compareGeneral (s t : Octets) : Ordering :=
  match FloatingKind.extended.readAt? s, FloatingKind.extended.readAt? t with
  | none, none => .eq
  | none, some _ => .lt
  | some _, none => .gt
  | some (a, _), some (b, _) => a.compare b

/-- The rank of the letter behind a rounded number. -/
def suffixRank (rest : Octets) : Nat :=
  match rest with
  | 'K' :: _ | 'k' :: _ => 1
  | 'M' :: _ => 2
  | 'G' :: _ => 3
  | 'T' :: _ => 4
  | 'P' :: _ => 5
  | 'E' :: _ => 6
  | 'Z' :: _ => 7
  | 'Y' :: _ => 8
  | 'R' :: _ => 9
  | 'Q' :: _ => 10
  | _ => 0

/-- The order of rounded numbers: by sign, letter and number. -/
def compareRounded (s t : Octets) : Ordering :=
  let (a, a') := sortNumberAt s
  let (b, b') := sortNumberAt t
  let rank := fun (n : SortNumber) rest =>
    if n.digits = 0 then (0 : Int)
    else if n.digits < 0 then -(suffixRank rest : Int) - 1 else suffixRank rest + 1
  (Ord.compare (rank a a') (rank b b')).then (a.compare b)

/-- The number of the month at the front of a text, or zero. -/
def monthOf (s : Octets) : Nat :=
  (month? (String.ofList (((s.dropWhile isFieldBlank).take 3).map Char.toLower))).getD 0

/-- The order of octets. -/
def compareOctets : Octets → Octets → Ordering
  | [], [] => .eq
  | [], _ :: _ => .lt
  | _ :: _, [] => .gt
  | a :: s, b :: t => (Ord.compare a.toNat b.toNat).then (compareOctets s t)

/-- A text as it is compared: letters as upper case, octets that do not count left out. -/
def SortStyle.view
    (style : SortStyle)
    (s : Octets) :
    Octets :=
  let counts := fun c : Char =>
    if style.letters.contains 'd' then c.isAlphanum || isFieldBlank c
    else !style.letters.contains 'i' || isShown c
  let kept := s.filter counts
  if style.letters.contains 'f' then kept.map Char.toUpper else kept

/-- The order of two parts of lines, not reversed.  A random order tells nothing apart here. -/
def SortStyle.compareForward
    (style : SortStyle)
    (s t : Octets) :
    Ordering :=
  let s := style.view s
  let t := style.view t
  if style.letters.contains 'n' then (sortNumberAt s).1.compare (sortNumberAt t).1
  else if style.letters.contains 'g' then compareGeneral s t
  else if style.letters.contains 'h' then compareRounded s t
  else if style.letters.contains 'M' then Ord.compare (monthOf s) (monthOf t)
  else if style.letters.contains 'R' then .eq
  else if style.letters.contains 'V' then compareVersions s t
  else compareOctets s t

/-- The order of two parts of lines. -/
def SortStyle.compare
    (style : SortStyle)
    (s t : Octets) :
    Ordering :=
  let forward := style.compareForward s t
  if style.letters.contains 'r' then forward.swap else forward

/-- How lines are sorted. -/
structure SortOrder where
  separator : Option Char
  keys : List SortKey
  /-- Compare whole lines backwards if no key tells them apart. -/
  reversed : Bool
  /-- Leave lines in their order if no key tells them apart. -/
  stable : Bool

/-- The order of two lines by their keys. -/
def compareKeys
    (order : SortOrder)
    (a b : Octets) :
    Ordering :=
  order.keys.foldl
    (fun found key =>
      found.then (key.style.compare (key.of order.separator a) (key.of order.separator b)))
    .eq

/-- The order of two lines. -/
def compareLines
    (order : SortOrder)
    (a b : Octets) :
    Ordering :=
  let whole := compareOctets a b
  if order.keys.isEmpty then if order.reversed then whole.swap else whole
  else
    (compareKeys order a b).then
      (if order.stable then .eq else if order.reversed then whole.swap else whole)

/-- Why a key cannot be read. -/
abbrev KeyFault := Octets

/-- The complaint about a key. -/
def badKey
    (spelled : Octets)
    (words : String) :
    KeyFault :=
  words.toList ++ ": invalid field specification ".toList ++ quotedArgument spelled

/-- A number in a key, and what follows. -/
def keyNumber
    (words : String)
    (s : Octets) :
    Except KeyFault (Nat × Octets) :=
  let digits := s.takeWhile Char.isDigit
  if digits.isEmpty then
    .error (words.toList ++ ": invalid count at start of ".toList ++ quotedArgument s)
  else .ok (decimalValue digits, s.drop digits.length)

/-- The letters of options that say how to compare. -/
def styleLetters : List Char := ['b', 'd', 'f', 'g', 'h', 'i', 'M', 'n', 'R', 'r', 'V']

/-- A key as it is spelled: the letters at its two ends say how it is compared. -/
structure SpelledKey where
  start : Nat × Nat
  ending : Option (Nat × Nat)
  first : List Char
  last : List Char

/-- Reads a key. -/
def readKey (spelled : Octets) : Except KeyFault SpelledKey := do
  let (field, rest) ← keyNumber "invalid number at field start" spelled
  if field = 0 then .error (badKey spelled "field number is zero")
  let (octet, rest) ← match rest with
    | '.' :: rest => keyNumber "invalid number after '.'" rest
    | rest => pure (1, rest)
  if octet = 0 then .error (badKey spelled "character offset is zero")
  let first := rest.takeWhile styleLetters.contains
  let (ending, last, rest) ← match rest.drop first.length with
    | ',' :: rest => do
        let (field, rest) ← keyNumber "invalid number after ','" rest
        if field = 0 then .error (badKey spelled "field number is zero")
        let (octet, rest) ← match rest with
          | '.' :: rest => keyNumber "invalid number after '.'" rest
          | rest => pure (0, rest)
        let letters := rest.takeWhile styleLetters.contains
        pure (some (field - 1, octet), letters, rest.drop letters.length)
    | rest => pure (none, [], rest)
  if !rest.isEmpty then .error (badKey spelled "stray character in field spec")
  return ⟨(field - 1, octet - 1), ending, first, last⟩

/-- A place in the older spelling of keys: fields and octets to pass over, and letters. -/
def olderPlace? (s : Octets) : Option (Nat × Nat × List Char) :=
  let field := s.takeWhile Char.isDigit
  let rest := s.drop field.length
  let octet := match rest with
    | '.' :: rest => rest.takeWhile Char.isDigit
    | _ => []
  let rest := match rest with
    | '.' :: rest => rest.drop octet.length
    | rest => rest
  if field.isEmpty || rest.any (!styleLetters.contains ·) then none
  else some (decimalValue field, decimalValue octet, rest)

/-- A key in the older spelling. -/
def olderKey?
    (start : Octets)
    (ending : Option Octets) :
    Option SpelledKey := do
  let (field, octet, first) ← olderPlace? start
  match ending with
  | none => return ⟨(field, octet), none, first, []⟩
  | some ending => do
      let (lastField, lastOctet, last) ← olderPlace? ending
      return ⟨(field, octet),
        some (if lastOctet = 0 ∧ lastField ≠ 0 then lastField - 1 else lastField, lastOctet),
        first, last⟩

/-- A key that takes over the letters that are given for all keys if it has none. -/
def SpelledKey.under
    (key : SpelledKey)
    (letters : List Char) :
    SortKey :=
  let own := key.first ++ key.last
  let blanksAt := fun here : List Char =>
    if own.isEmpty then letters.contains 'b' else here.contains 'b'
  { start := ⟨key.start.1, key.start.2, blanksAt key.first⟩
    ending := key.ending.map fun place => ⟨place.1, place.2, blanksAt key.last⟩
    style := ⟨if own.isEmpty then letters else own⟩ }

/-- The letters of a key that cannot go together, if there are such. -/
def clashing (letters : List Char) : Option Octets :=
  let has := fun c => letters.contains c
  let count := fun test : Bool => if test then 1 else 0
  if 1 < count (has 'n') + count (has 'g') + count (has 'h') + count (has 'M') +
      count (has 'V' || has 'R' || has 'd' || has 'i') then
    some (['d', 'f', 'g', 'h', 'i', 'M', 'n', 'R', 'V'].filter fun c =>
      letters.contains c && !(c == 'i' && has 'd'))
  else none

theorem compareOctets_self (s : Octets) : compareOctets s s = .eq := by
  induction s with
  | nil => rfl
  | cons c s ih => simp [compareOctets, ih, Ord.compare, compareOfLessAndEq]

theorem compareGeneral_self (s : Octets) : compareGeneral s s = .eq := by
  unfold compareGeneral
  cases FloatingKind.extended.readAt? s with
  | none => rfl
  | some found =>
      simp only [Floating.compare]
      cases Floating.compare.rank found.1 <;> simp [Ord.compare, compareOfLessAndEq]

/-- Parts that are the same are not told apart. -/
theorem SortStyle.compare_self
    (style : SortStyle)
    (s : Octets) :
    style.compare s s = .eq := by
  have forward : style.compareForward s s = .eq := by
    unfold SortStyle.compareForward
    simp only [SortNumber.compare, compareRounded, compareGeneral_self, compareVersions_self,
      compareOctets_self]
    simp [Ord.compare, compareOfLessAndEq]
  simp [SortStyle.compare, forward]

theorem compareKeys_self
    (order : SortOrder)
    (line : Octets) :
    compareKeys order line line = .eq := by
  simp only [compareKeys, SortStyle.compare_self]
  induction order.keys with
  | nil => rfl
  | cons key keys ih => exact ih

/-- Lines that are the same are not told apart. -/
theorem compareLines_self
    (order : SortOrder)
    (line : Octets) :
    compareLines order line line = .eq := by
  simp only [compareLines, compareOctets_self, compareKeys_self]
  split <;> simp

end Tools
end CaptureKit
