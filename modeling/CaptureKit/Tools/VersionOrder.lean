import CaptureKit.Text.Numeral
import CaptureKit.Text.Octet

/-!
# The order of versions

Names with numbers in them are compared part by part: what is no digit by its octets, digits
by the number they make.  A tilde comes before everything, even before the end.  Suffixes such
as `.tar.gz` are left out first, and count only if nothing else tells two names apart.  Main
statement: a name is the same as itself (`compareVersions_self`).
-/

namespace CaptureKit
namespace Tools

open Text

/-- Where an octet that is no digit stands among others. -/
def versionRank (c : Char) : Int :=
  if c.isAlpha then c.toNat
  else if c = '~' then -2
  else c.toNat + 256

/-- Some octets that are no digits, by their ranks, and the digits behind them without zeros
in front. -/
structure VersionPart where
  word : List Int
  /-- The rank of what follows the word: a digit, or the end. -/
  border : Int
  digits : Octets
  deriving DecidableEq

/-- The part that stands for the end of a name. -/
def VersionPart.none : VersionPart := ⟨[], -1, []⟩

/-- The order of words with the ranks of what follows them. -/
def compareWords
    (border other : Int) :
    List Int → List Int → Ordering
  | [], [] => .eq
  | [], d :: _ => Ord.compare border d
  | c :: _, [] => Ord.compare c other
  | c :: s, d :: t => (Ord.compare c d).then (compareWords border other s t)

/-- The order of digits: more of them make a larger number. -/
def compareDigits (s t : Octets) : Ordering :=
  (Ord.compare s.length t.length).then (Ord.compare (decimalValue s) (decimalValue t))

/-- The order of parts. -/
def VersionPart.compare (p q : VersionPart) : Ordering :=
  (compareWords p.border q.border p.word q.word).then (compareDigits p.digits q.digits)

/-- The parts of a name; `fuel` bounds their number. -/
def versionParts : (fuel : Nat) → Octets → List VersionPart
  | 0, _ => []
  | fuel + 1, s =>
      if s.isEmpty then []
      else
        let word := s.takeWhile (!·.isDigit)
        let digits := (s.drop word.length).takeWhile Char.isDigit
        ⟨word.map versionRank, if digits.isEmpty then -1 else 0, digits.dropWhile (· == '0')⟩ ::
          versionParts fuel (s.drop (word.length + digits.length))

/-- The order of names part by part. -/
def compareParts : List VersionPart → List VersionPart → Ordering
  | [], [] => .eq
  | [], q :: others => (VersionPart.none.compare q).then (compareParts [] others)
  | p :: parts, [] => (p.compare .none).then (compareParts parts [])
  | p :: parts, q :: others => (p.compare q).then (compareParts parts others)

/-- The order of names with all they hold. -/
def compareWhole (s t : Octets) : Ordering :=
  compareParts (versionParts s.length s) (versionParts t.length t)

/-- What is left of a name behind one suffix: a point, a letter, and letters and digits. -/
def behindSuffix? : Octets → Option Octets
  | '.' :: c :: rest =>
      if c.isAlpha || c == '~' then some (rest.dropWhile fun c => c.isAlphanum || c == '~')
      else none
  | _ => none

/-- The text is nothing but suffixes; `fuel` bounds their number. -/
def isSuffixes : (fuel : Nat) → Octets → Bool
  | _, [] => true
  | 0, _ => false
  | fuel + 1, s =>
      match behindSuffix? s with
      | some rest => isSuffixes fuel rest
      | none => false

/-- A name without the suffixes at its end; its first octet always stays. -/
def withoutSuffixes : Octets → Octets
  | [] => []
  | c :: rest => c :: restWithout rest
where
  /-- What is left of the octets behind the first. -/
  restWithout : Octets → Octets
    | [] => []
    | c :: s => if isSuffixes (c :: s).length (c :: s) then [] else c :: restWithout s

/-- Where a name stands that starts with a point. -/
def pointRank : Octets → Nat
  | [] => 0
  | ['.'] => 1
  | ['.', '.'] => 2
  | '.' :: _ => 3
  | _ => 4

/-- The order of versions. -/
def compareVersions (s t : Octets) : Ordering :=
  ((Ord.compare (pointRank s) (pointRank t)).then
    (compareWhole (withoutSuffixes s) (withoutSuffixes t))).then (compareWhole s t)

theorem compareWords_self
    (border : Int)
    (s : List Int) :
    compareWords border border s s = .eq := by
  induction s with
  | nil => rfl
  | cons c s ih => simp [compareWords, ih, Ord.compare, compareOfLessAndEq]

theorem compareParts_self (parts : List VersionPart) : compareParts parts parts = .eq := by
  induction parts with
  | nil => simp [compareParts]
  | cons part parts ih =>
      simp [compareParts, VersionPart.compare, compareDigits, compareWords_self, ih, Ord.compare,
        compareOfLessAndEq]

/-- A name is the same as itself. -/
theorem compareVersions_self (s : Octets) : compareVersions s s = .eq := by
  simp [compareVersions, compareWhole, compareParts_self, Ord.compare, compareOfLessAndEq]

end Tools
end CaptureKit
