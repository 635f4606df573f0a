import CaptureKit.Text.Octet

/-!
# Regular expressions

An expression is compared with a part of a text.  From one spot in the text it leads to
further spots; the longest way counts, and of several ways of one length the first.  Groups
keep what they were compared with, so that it can be asked for again.

Main statement: an expression never leads back (`passed_le_of_mem_ends`).
-/

namespace CaptureKit
namespace Tools

open Text

/-- Places between octets. -/
inductive Edge
  /-- Between a word and what is no word. -/
  | border
  /-- Anywhere else. -/
  | inside
  | wordStart
  | wordEnd
  /-- Behind what is no word. -/
  | freeBefore
  /-- In front of what is no word. -/
  | freeBehind
  deriving DecidableEq

/-- Regular expressions. -/
inductive Expression
  | nothing
  | one (accepts : Char → Bool)
  | textStart
  | textEnd
  | edge (kind : Edge)
  | group (number : Nat) (body : Expression)
  | again (number : Nat)
  | followed (first second : Expression)
  | either (first second : Expression)
  | repeated (least : Nat) (most : Option Nat) (body : Expression)

/-- A spot in a text. -/
structure Spot where
  /-- How many octets were passed. -/
  passed : Nat
  /-- The octet before the spot. -/
  before : Option Char
  rest : Octets
  /-- What groups were compared with, the last one first. -/
  groups : List (Nat × Octets)
  deriving DecidableEq

/-- An octet of a word. -/
def isWordOctet (c : Char) : Bool :=
  c.isAlphanum || c == '_'

/-- The spot is at an edge. -/
def Edge.holds
    (edge : Edge)
    (spot : Spot) :
    Bool :=
  let left := spot.before.any isWordOctet
  let right := spot.rest.head?.any isWordOctet
  match edge with
  | .border => left != right
  | .inside => left == right
  | .wordStart => !left && right
  | .wordEnd => left && !right
  | .freeBefore => !left
  | .freeBehind => !right

/-- The spot behind so many octets. -/
def Spot.advance
    (spot : Spot)
    (count : Nat) :
    Spot :=
  { spot with
    passed := spot.passed + count
    before := if count = 0 then spot.before else spot.rest[count - 1]?.or spot.before
    rest := spot.rest.drop count }

/-- A text starts with another one, capitals perhaps as good as small letters. -/
def startsWith
    (folded : Bool)
    (front text : Octets) :
    Bool :=
  if folded then (front.map Char.toLower).isPrefixOf (text.map Char.toLower)
  else front.isPrefixOf text

/-- The spots to which repeating a step leads, the most repetitions first.  `fuel` bounds
their number. -/
def repeatSteps
    (step : Spot → List Spot) :
    (fuel least : Nat) → (most : Option Nat) → List Spot → List Spot
  | 0, least, _, spots => if least = 0 then spots else []
  | fuel + 1, least, most, spots =>
      let here := if least = 0 then spots else []
      if most = some 0 ∨ spots.isEmpty then here
      else
        let ahead := spots.flatMap fun spot =>
          (step spot).filter fun next => 0 < least || spot.passed < next.passed
        repeatSteps step fuel (least - 1) (most.map (· - 1)) ahead.eraseDups ++ here

/-- The spots to which an expression leads. -/
def Expression.ends (folded : Bool) : Expression → Spot → List Spot
  | .nothing, spot => [spot]
  | .one accepts, spot =>
      match spot.rest with
      | [] => []
      | c :: _ =>
          if accepts c || (folded && (accepts c.toLower || accepts c.toUpper)) then
            [spot.advance 1]
          else []
  | .textStart, spot => if spot.before.isNone then [spot] else []
  | .textEnd, spot => if spot.rest.isEmpty then [spot] else []
  | .edge kind, spot => if kind.holds spot then [spot] else []
  | .group number body, spot =>
      (body.ends folded spot).map fun next =>
        { next with
          groups := (number, spot.rest.take (next.passed - spot.passed)) ::
            next.groups.filter (·.1 != number) }
  | .again number, spot =>
      match spot.groups.lookup number with
      | none => []
      | some text =>
          if startsWith folded text spot.rest then [spot.advance text.length] else []
  | .followed first second, spot =>
      ((first.ends folded spot).flatMap (second.ends folded)).eraseDups
  | .either first second, spot =>
      (first.ends folded spot ++ second.ends folded spot).eraseDups
  | .repeated least most body, spot =>
      repeatSteps (body.ends folded) (spot.rest.length + least + 1) least most [spot]

/-- The longest of some spots, of several the first. -/
def longestSpot : List Spot → Option Spot
  | [] => none
  | spot :: spots =>
      match longestSpot spots with
      | some other => if spot.passed < other.passed then some other else some spot
      | none => some spot

/-- A part of a text that an expression fits. -/
structure Found where
  /-- What stands in front of it. -/
  skipped : Octets
  text : Octets
  rest : Octets
  groups : List (Nat × Octets)

/-- The first part of a text that an expression fits, and the longest one there; `before`
is the octet in front of the text. -/
def Expression.find?
    (expression : Expression)
    (folded : Bool) :
    (before : Option Char) → Octets → Option Found
  | before, [] =>
      (longestSpot (expression.ends folded ⟨0, before, [], []⟩)).map fun spot =>
        ⟨[], [], [], spot.groups⟩
  | before, c :: rest =>
      match longestSpot (expression.ends folded ⟨0, before, c :: rest, []⟩) with
      | some spot => some ⟨[], (c :: rest).take spot.passed, spot.rest, spot.groups⟩
      | none =>
          (expression.find? folded (some c) rest).map fun found =>
            { found with skipped := c :: found.skipped }

/-- A step that never leads back does not do so when it is repeated. -/
theorem passed_le_of_mem_repeatSteps
    {step : Spot → List Spot}
    (forward : ∀ spot next, next ∈ step spot → spot.passed ≤ next.passed)
    {fuel least : Nat}
    {most : Option Nat}
    {spots : List Spot}
    {next : Spot}
    (h : next ∈ repeatSteps step fuel least most spots) :
    ∃ spot ∈ spots, spot.passed ≤ next.passed := by
  induction fuel generalizing least most spots with
  | zero =>
      rw [repeatSteps] at h
      split at h
      · exact ⟨next, h, Nat.le_refl _⟩
      · simp at h
  | succ fuel ih =>
      have here : next ∈ (if least = 0 then spots else []) →
          ∃ spot ∈ spots, spot.passed ≤ next.passed := by
        intro h
        split at h
        · exact ⟨next, h, Nat.le_refl _⟩
        · simp at h
      rw [repeatSteps] at h
      split at h
      · exact here h
      · rcases List.mem_append.mp h with h | h
        · obtain ⟨middle, hmiddle, hle⟩ := ih h
          rw [List.mem_eraseDups, List.mem_flatMap] at hmiddle
          obtain ⟨spot, hspot, hnext⟩ := hmiddle
          exact ⟨spot, hspot,
            Nat.le_trans (forward spot middle (List.mem_filter.mp hnext).1) hle⟩
        · exact here h

/-- An expression never leads back. -/
theorem passed_le_of_mem_ends
    (folded : Bool)
    (expression : Expression)
    (spot next : Spot)
    (h : next ∈ expression.ends folded spot) :
    spot.passed ≤ next.passed := by
  induction expression generalizing spot next with
  | nothing => simp_all [Expression.ends]
  | one accepts =>
      rw [Expression.ends] at h
      split at h
      · simp at h
      · split at h
        · simp only [List.mem_singleton] at h
          subst h
          exact Nat.le_add_right ..
        · simp at h
  | textStart => simp_all [Expression.ends]
  | textEnd => simp_all [Expression.ends]
  | edge kind => simp_all [Expression.ends]
  | group number body ih =>
      rw [Expression.ends, List.mem_map] at h
      obtain ⟨middle, hmiddle, rfl⟩ := h
      exact ih spot middle hmiddle
  | again number =>
      rw [Expression.ends] at h
      split at h
      · simp at h
      · split at h
        · simp only [List.mem_singleton] at h
          subst h
          exact Nat.le_add_right ..
        · simp at h
  | followed first second ihFirst ihSecond =>
      rw [Expression.ends, List.mem_eraseDups, List.mem_flatMap] at h
      obtain ⟨middle, hfirst, hsecond⟩ := h
      exact Nat.le_trans (ihFirst spot middle hfirst) (ihSecond middle next hsecond)
  | either first second ihFirst ihSecond =>
      rw [Expression.ends, List.mem_eraseDups, List.mem_append] at h
      rcases h with h | h
      · exact ihFirst spot next h
      · exact ihSecond spot next h
  | repeated least most body ih =>
      rw [Expression.ends] at h
      obtain ⟨start, hstart, hle⟩ := passed_le_of_mem_repeatSteps ih h
      simp only [List.mem_singleton] at hstart
      exact hstart ▸ hle

end Tools
end CaptureKit
