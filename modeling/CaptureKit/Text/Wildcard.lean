import CaptureKit.Text.Octet

/-!
# Wildcards

A wildcard is a list of parts, each of which stands for one octet of a class or for any
octets.  A text is read once: at every octet it is known in which places of the wildcard
the reader may be.  Main statement: reading so finds what fits by definition
(`accepts_eq_fitsParts`).
-/

namespace CaptureKit
namespace Text

/-- A part of a wildcard. -/
inductive Part
  | one (inClass : Char → Bool)
  | many

/-- The text fits the parts in their order. -/
def fitsParts : List Part → Octets → Bool
  | [], s => s.isEmpty
  | .one inClass :: parts, c :: s => inClass c && fitsParts parts s
  | .one _ :: _, [] => false
  | .many :: parts, [] => fitsParts parts []
  | .many :: parts, c :: s => fitsParts parts (c :: s) || fitsParts (.many :: parts) s
termination_by parts s => (s.length, parts.length)

/-- For each place between parts, whether the reader may be there. -/
abbrev Reached := List Bool

/-- The places to which the reader gets without an octet from the first one, if it is
there. -/
def reachedFrom
    (here : Bool) :
    List Part → Reached
  | [] => [here]
  | .one _ :: parts => here :: reachedFrom false parts
  | .many :: parts => here :: reachedFrom here parts

/-- The places to which the reader gets by an octet; it has got to the first one if it has
`arrived` there. -/
def reachedBy
    (c : Char)
    (arrived : Bool) :
    List Part → Reached → Reached
  | [], _ => [arrived]
  | .one inClass :: parts, places =>
      arrived :: reachedBy c (places.headD false && inClass c) parts places.tail
  | .many :: parts, places =>
      let here := arrived || places.headD false
      here :: reachedBy c here parts places.tail

/-- The reader may be behind all parts. -/
def hasEnded : List Part → Reached → Bool
  | [], places => places.headD false
  | _ :: parts, places => hasEnded parts places.tail

/-- What follows a front of a text that fits from one of the places on, if there is such a
front: the longest one, or else the shortest.  A longer one takes the place of what was
`found`. -/
def restFrom?
    (longest : Bool)
    (parts : List Part) :
    (found : Option Octets) → Reached → Octets → Option Octets
  | found, places, [] => if hasEnded parts places then some [] else found
  | found, places, c :: s =>
      let found := if hasEnded parts places then some (c :: s) else found
      if !longest && found.isSome then found
      else restFrom? longest parts found (reachedBy c false parts places) s

/-- What follows the longest or the shortest front of a text that fits.  Parts in front that
stand for one octet each leave no choice. -/
def afterFront?
    (longest : Bool) :
    List Part → Octets → Option Octets
  | .one inClass :: parts, c :: s => if inClass c then afterFront? longest parts s else none
  | .one _ :: _, [] => none
  | parts, s => restFrom? longest parts none (reachedFrom true parts) s

/-- The whole text takes the reader from one of the places to the end. -/
def acceptsFrom
    (parts : List Part)
    (places : Reached)
    (s : Octets) :
    Bool :=
  hasEnded parts (s.foldl (fun places c => reachedBy c false parts places) places)

/-- The text fits the parts, as far as the reader can tell. -/
def accepts : List Part → Octets → Bool
  | .one inClass :: parts, c :: s => inClass c && accepts parts s
  | .one _ :: _, [] => false
  | parts, s => acceptsFrom parts (reachedFrom true parts) s

/-- The text fits the parts behind one of the places. -/
def fitsFrom : List Part → Reached → Octets → Bool
  | [], places, s => places.headD false && s.isEmpty
  | part :: parts, places, s =>
      (places.headD false && fitsParts (part :: parts) s) || fitsFrom parts places.tail s

/-- Where the reader is in front of many, it may be behind them as well. -/
def IsClosed : List Part → Reached → Prop
  | [], _ => True
  | .one _ :: parts, places => IsClosed parts places.tail
  | .many :: parts, places =>
      (places.headD false = true → places.tail.headD false = true) ∧ IsClosed parts places.tail

/-- Many may be none. -/
theorem fitsParts_many
    {parts : List Part}
    {s : Octets}
    (h : fitsParts parts s = true) :
    fitsParts (.many :: parts) s = true := by
  cases s with
  | nil => simpa [fitsParts] using h
  | cons c s => simp [fitsParts, h]

/-- What fits behind the first place fits. -/
theorem fitsFrom_of_fitsParts
    {parts : List Part}
    {places : Reached}
    {s : Octets}
    (here : places.headD false = true)
    (h : fitsParts parts s = true) :
    fitsFrom parts places s = true := by
  cases parts with
  | nil => simpa only [fitsFrom, fitsParts, here, Bool.true_and] using h
  | cons part parts => simp only [fitsFrom, here, h, Bool.and_self, Bool.true_or]

theorem headD_reachedFrom
    (here : Bool)
    (parts : List Part) :
    (reachedFrom here parts).headD false = here := by
  rcases parts with _ | ⟨_ | _, _⟩ <;> rfl

theorem headD_reachedBy
    (c : Char)
    (arrived : Bool)
    (parts : List Part)
    (places : Reached) :
    arrived = true → (reachedBy c arrived parts places).headD false = true := by
  rintro rfl
  rcases parts with _ | ⟨_ | _, _⟩ <;> simp [reachedBy]

theorem isClosed_reachedFrom
    (here : Bool)
    (parts : List Part) :
    IsClosed parts (reachedFrom here parts) := by
  induction parts generalizing here with
  | nil => trivial
  | cons part parts ih =>
      cases part with
      | one inClass => exact ih false
      | many =>
          refine ⟨fun h => ?_, ih here⟩
          have here : here = true := by simpa only [reachedFrom, List.headD_cons] using h
          simpa only [reachedFrom, List.tail_cons, headD_reachedFrom] using here

theorem isClosed_reachedBy
    (c : Char)
    (arrived : Bool)
    (parts : List Part)
    (places : Reached) :
    IsClosed parts (reachedBy c arrived parts places) := by
  induction parts generalizing arrived places with
  | nil => trivial
  | cons part parts ih =>
      cases part with
      | one inClass => exact ih _ _
      | many => exact ⟨fun h => headD_reachedBy c _ parts places.tail h, ih _ _⟩

/-- The first places are those from which a text fits that fits the parts. -/
theorem fitsFrom_reachedFrom
    (here : Bool)
    (parts : List Part)
    (s : Octets) :
    fitsFrom parts (reachedFrom here parts) s = (here && fitsParts parts s) := by
  induction parts generalizing here with
  | nil => simp [fitsFrom, reachedFrom, fitsParts]
  | cons part parts ih =>
      cases part with
      | one inClass => simp [fitsFrom, reachedFrom, ih]
      | many =>
          have := @fitsParts_many parts s
          cases here <;> cases h : fitsParts parts s <;>
            simp_all [fitsFrom, reachedFrom]

/-- An octet takes the reader to the places from which the rest of the text fits. -/
theorem fitsFrom_reachedBy
    (c : Char)
    (arrived : Bool)
    (parts : List Part)
    (places : Reached)
    (s : Octets)
    (closed : IsClosed parts places) :
    fitsFrom parts (reachedBy c arrived parts places) s =
      ((arrived && fitsParts parts s) || fitsFrom parts places (c :: s)) := by
  induction parts generalizing arrived places with
  | nil => simp [fitsFrom, reachedBy, fitsParts]
  | cons part parts ih =>
      cases part with
      | one inClass =>
          have ih := ih (places.headD false && inClass c) places.tail closed
          simp only [reachedBy, fitsFrom, List.headD_cons, List.tail_cons, ih, fitsParts]
          cases arrived <;> cases places.headD false <;> cases inClass c <;> simp
      | many =>
          have ih := ih (arrived || places.headD false) places.tail closed.2
          have many := @fitsParts_many parts s
          have behind : places.headD false = true → fitsParts parts (c :: s) = true →
              fitsFrom parts places.tail (c :: s) = true :=
            fun here fitting => fitsFrom_of_fitsParts (closed.1 here) fitting
          simp only [reachedBy, fitsFrom, List.headD_cons, List.tail_cons, ih, fitsParts]
          generalize places.headD false = here at *
          generalize fitsFrom parts places.tail (c :: s) = other at *
          generalize fitsParts (.many :: parts) s = long at *
          generalize fitsParts parts s = short at *
          generalize fitsParts parts (c :: s) = next at *
          revert many behind
          cases arrived <;> cases here <;> cases other <;> cases long <;> cases short <;>
            cases next <;> simp

/-- At the end of a text the reader has to be behind all parts. -/
theorem fitsFrom_nil
    (parts : List Part)
    (places : Reached)
    (closed : IsClosed parts places) :
    fitsFrom parts places [] = hasEnded parts places := by
  induction parts generalizing places with
  | nil => simp [fitsFrom, hasEnded]
  | cons part parts ih =>
      cases part with
      | one inClass => simp [fitsFrom, hasEnded, fitsParts, ih places.tail closed]
      | many =>
          have behind : places.headD false = true → fitsParts parts [] = true →
              fitsFrom parts places.tail [] = true :=
            fun here fitting => fitsFrom_of_fitsParts (closed.1 here) fitting
          have ih := ih places.tail closed.2
          simp only [fitsFrom, hasEnded, fitsParts, ih] at behind ⊢
          revert behind
          cases places.headD false <;> cases fitsParts parts [] <;> simp

theorem acceptsFrom_eq_fitsFrom
    (parts : List Part)
    (places : Reached)
    (s : Octets)
    (closed : IsClosed parts places) :
    acceptsFrom parts places s = fitsFrom parts places s := by
  induction s generalizing places with
  | nil => exact (fitsFrom_nil parts places closed).symm
  | cons c s ih =>
      have step := fitsFrom_reachedBy c false parts places s closed
      rw [Bool.false_and, Bool.false_or] at step
      rw [← step]
      exact ih (reachedBy c false parts places) (isClosed_reachedBy c false parts places)

/-- Reading a text once tells whether it fits. -/
theorem accepts_eq_fitsParts
    (parts : List Part)
    (s : Octets) :
    accepts parts s = fitsParts parts s := by
  have whole : ∀ parts s, acceptsFrom parts (reachedFrom true parts) s = fitsParts parts s :=
    fun parts s => by
      rw [acceptsFrom_eq_fitsFrom _ _ _ (isClosed_reachedFrom true parts),
        fitsFrom_reachedFrom, Bool.true_and]
  fun_induction accepts parts s with
  | case1 inClass parts c s ih => simp only [fitsParts, ih]
  | case2 => simp only [fitsParts]
  | case3 => exact whole _ _

end Text
end CaptureKit
