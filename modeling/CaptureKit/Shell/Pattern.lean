import CaptureKit.Text.Numeral
import CaptureKit.Text.Octet
import CaptureKit.Text.Wildcard

/-!
# Patterns

A pattern is compared with whole texts: a star stands for anything, a question mark for
one octet, and brackets for one of several.  What is quoted stands for itself.  Main
statement: a pattern that is quoted throughout fits its own text only
(`fits_quoted_iff`).
-/

namespace CaptureKit
namespace Shell

open Text

/-- An octet of a pattern. -/
structure Glyph where
  octet : Char
  quoted : Bool
  deriving DecidableEq

/-- Octets that stand for themselves. -/
def quotedGlyphs (s : Octets) : List Glyph :=
  s.map fun c => ⟨c, true⟩

/-- The octets of glyphs. -/
def bareOctets (glyphs : List Glyph) : Octets :=
  glyphs.map (·.octet)

/-- The octets of a class by its name. -/
def namedClass? (name : String) : Option (Char → Bool) :=
  match name with
  | "upper" => some Char.isUpper
  | "lower" => some Char.isLower
  | "digit" => some Char.isDigit
  | "alpha" => some Char.isAlpha
  | "alnum" => some Char.isAlphanum
  | "xdigit" => some isHexDigit
  | "space" => some fun c => c == ' ' || (9 ≤ c.toNat && c.toNat ≤ 13)
  | "blank" => some fun c => c == ' ' || c == '\t'
  | "punct" => some fun c => 33 ≤ c.toNat && c.toNat ≤ 126 && !c.isAlphanum
  | "print" => some fun c => 32 ≤ c.toNat && c.toNat ≤ 126
  | "graph" => some fun c => 33 ≤ c.toNat && c.toNat ≤ 126
  | "cntrl" => some fun c => c.toNat < 32 || c.toNat == 127
  | _ => none

/-- An unquoted glyph of the given octet. -/
def Glyph.isMark
    (glyph : Glyph)
    (c : Char) :
    Bool :=
  glyph.octet == c && !glyph.quoted

/-- What brackets name, up to the one that closes them, and what follows; `fuel` bounds
the number of items. -/
def bracketItems :
    (fuel : Nat) → (atStart : Bool) → List Glyph → Option ((Char → Bool) × List Glyph)
  | 0, _, _ => none
  | _, _, [] => none
  | fuel + 1, atStart, glyph :: rest =>
      if glyph.isMark ']' && !atStart then some (fun _ => false, rest)
      else
        let named? : Option ((Char → Bool) × List Glyph) :=
          match glyph.isMark '[', rest with
          | true, colon :: rest =>
              if colon.isMark ':' then
                let name := rest.takeWhile fun g => !g.isMark ':'
                match rest.drop name.length with
                | _ :: close :: after =>
                    if close.isMark ']' then
                      (namedClass? (String.ofList (bareOctets name))).map (·, after)
                    else none
                | _ => none
              else none
          | _, _ => none
        match named?, rest with
        | some (inClass, after), _ =>
            (bracketItems fuel false after).map fun more =>
              (fun c => inClass c || more.1 c, more.2)
        | none, dash :: last :: after =>
            if dash.isMark '-' && !last.isMark ']' then
              (bracketItems fuel false after).map fun more =>
                (fun c => (glyph.octet ≤ c && c ≤ last.octet) || more.1 c, more.2)
            else
              (bracketItems fuel false (dash :: last :: after)).map fun more =>
                (fun c => c == glyph.octet || more.1 c, more.2)
        | none, rest =>
            (bracketItems fuel false rest).map fun more =>
              (fun c => c == glyph.octet || more.1 c, more.2)

/-- The class that brackets stand for, behind the one that opens them, and what follows. -/
def bracketClass? (glyphs : List Glyph) : Option ((Char → Bool) × List Glyph) :=
  match glyphs with
  | glyph :: rest =>
      if glyph.isMark '!' || glyph.isMark '^' then
        (bracketItems rest.length.succ true rest).map fun found =>
          (fun c => !found.1 c, found.2)
      else bracketItems glyphs.length.succ true glyphs
  | [] => none

/-- The parts of a pattern; `fuel` bounds their number. -/
def patternParts : (fuel : Nat) → List Glyph → List Part
  | 0, _ => []
  | _, [] => []
  | fuel + 1, glyph :: rest =>
      if glyph.isMark '*' then .many :: patternParts fuel rest
      else if glyph.isMark '?' then .one (fun _ => true) :: patternParts fuel rest
      else
        match if glyph.isMark '[' then bracketClass? rest else none with
        | some (inClass, after) => .one inClass :: patternParts fuel after
        | none => .one (· == glyph.octet) :: patternParts fuel rest

/-- The text fits the pattern. -/
def fits
    (pattern : List Glyph)
    (s : Octets) :
    Bool :=
  accepts (patternParts pattern.length pattern) s

/-- Some glyph stands for something else than itself. -/
def hasWild : List Glyph → Bool
  | [] => false
  | glyph :: rest =>
      glyph.isMark '*' || glyph.isMark '?' || (glyph.isMark '[' && rest.any (·.isMark ']')) ||
        hasWild rest

/-- What is left of a text when a front that fits a pattern is cut off: the longest such
front, or else the shortest. -/
def frontCut?
    (longest : Bool)
    (pattern : List Glyph)
    (s : Octets) :
    Option Octets :=
  afterFront? longest (patternParts pattern.length pattern) s

/-- What is left of a text when an end that fits a pattern is cut off: the longest such
end, or else the shortest. -/
def endCut?
    (longest : Bool)
    (pattern : List Glyph)
    (s : Octets) :
    Option Octets :=
  let parts := patternParts pattern.length pattern
  (afterFront? longest parts.reverse s.reverse).map List.reverse

/-- Cuts the shortest end that fits off the last part that has one; no part behind it
stays. -/
def cutLastEnd?
    (pattern : List Glyph) :
    List Octets → Option (List Octets)
  | [] => none
  | part :: parts =>
      match cutLastEnd? pattern parts with
      | some kept => some (part :: kept)
      | none => (endCut? false pattern part).map ([·])

/-- Cuts what fits a pattern off the front or the end of the parts of a value.  All but
the shortest end is looked for in the first part. -/
def cutParts
    (front longest : Bool)
    (pattern : List Glyph) :
    List Octets → List Octets
  | [] => []
  | part :: parts =>
      if front then
        if longest && fits pattern part then [[]]
        else (frontCut? longest pattern part).getD part :: parts
      else if longest then ((endCut? true pattern part).map ([·])).getD (part :: parts)
      else (cutLastEnd? pattern (part :: parts)).getD (part :: parts)

theorem patternParts_quoted (s : Octets) :
    patternParts s.length (quotedGlyphs s) = s.map fun c => .one (· == c) := by
  induction s with
  | nil => rfl
  | cons c s ih =>
      simp only [quotedGlyphs] at ih
      simp [patternParts, quotedGlyphs, Glyph.isMark, ih]

/-- A pattern that is quoted throughout fits its own text only. -/
theorem fits_quoted_iff
    (s t : Octets) :
    fits (quotedGlyphs s) t = true ↔ t = s := by
  have length : (quotedGlyphs s).length = s.length := by simp [quotedGlyphs]
  rw [fits, accepts_eq_fitsParts, length, patternParts_quoted]
  clear length
  induction s generalizing t with
  | nil => cases t <;> simp [fitsParts]
  | cons c s ih =>
      cases t with
      | nil => simp [fitsParts]
      | cons d t => simp [fitsParts, ih]

end Shell
end CaptureKit
