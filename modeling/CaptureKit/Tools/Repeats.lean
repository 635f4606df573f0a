import CaptureKit.Tools.Lines
import CaptureKit.Tools.Printing

/-!
# Lines that repeat

`uniq` counts or drops lines that repeat the line before them.  Main statement: the groups
of equal neighbours hold all lines in their order (`flatten_groups`).
-/

namespace CaptureKit
namespace Tools

open Storage Text

/-- Items in groups of neighbours that are the same as the first of them. -/
def groups {α : Type} (same : α → α → Bool) : List α → List (List α)
  | [] => []
  | a :: rest =>
      (a :: rest.takeWhile (same a)) :: groups same (rest.dropWhile (same a))
termination_by items => items.length
decreasing_by
  have := (List.dropWhile_sublist (l := rest) (same a)).length_le
  simp only [List.length_cons]
  omega

/-- Grouping loses nothing. -/
theorem flatten_groups
    {α : Type}
    (same : α → α → Bool)
    (items : List α) :
    (groups same items).flatten = items := by
  fun_induction groups same items with
  | case1 => rfl
  | case2 a rest ih =>
      rw [List.flatten_cons, ih, List.cons_append, List.takeWhile_append_dropWhile]

/-- A line without its first fields, each with the blanks before it. -/
def skipFields : Nat → Octets → Octets
  | 0, line => line
  | n + 1, line =>
      let isBlank := fun c : Char => c == ' ' || c == '\t'
      skipFields n ((line.dropWhile isBlank).dropWhile (!isBlank ·))

/-- What lines are compared by. -/
structure RepeatKey where
  fields : Nat
  octets : Nat
  most : Option Nat
  ignoresCase : Bool

/-- The part of a line that is compared. -/
def RepeatKey.of
    (key : RepeatKey)
    (line : Octets) :
    Octets :=
  let rest := (skipFields key.fields line).drop key.octets
  let part := match key.most with
    | some n => rest.take n
    | none => rest
  if key.ignoresCase then part.map Char.toLower else part

/-- The lines that are left of a group of equal ones. -/
def keptOf
    (arguments : Arguments)
    (group : List Octets) :
    List Octets :=
  let line := group.headD []
  let counted := if arguments.has "c" then rightAligned 7 group.length ++ ' ' :: line else line
  if arguments.has "D" then if 1 < group.length && !arguments.has "u" then group else []
  else if arguments.has "d" && group.length ≤ 1 then []
  else if arguments.has "u" && 1 < group.length then []
  else [counted]

/-- A count in an option, or the complaint that it is none. -/
def optionCount
    (arguments : Arguments)
    (key : String)
    (what : String) :
    Except Octets (Option Nat) :=
  match arguments.value? key with
  | none => .ok none
  | some value =>
      match decimal? value with
      | some n => .ok (some n)
      | none => .error (nameIfPlain value ++ ": invalid number of ".toList ++ what.toList)

/-- What lines are compared by, as options say. -/
def repeatKey (arguments : Arguments) : Except Octets RepeatKey := do
  let fields ← optionCount arguments "f" "fields to skip"
  let octets ← optionCount arguments "s" "bytes to skip"
  let most ← optionCount arguments "w" "bytes to compare"
  return ⟨fields.getD 0, octets.getD 0, most, arguments.has "i"⟩

/-- The complaint about a source of lines. -/
def complainOfLines
    (source : Octets)
    (fault : IoFault) :
    Octets :=
  if fault.isOfReading then
    "error reading ".toList ++ quotedName source ++ ": ".toList ++ plainWords fault
  else complainPlainly source fault

/-- Drops lines that repeat the line before them, or counts the repeats.  A second operand
names the file that the result goes to. -/
def uniq : Tool :=
  .withOptions
    [flag 'c' "count", flag 'd' "repeated", flag 'u' "unique", flag 'i' "ignore-case",
      ⟨some 'D', "all-repeated", .nothing⟩, valued 'f' "skip-fields", valued 's' "skip-chars",
      valued 'w' "check-chars", flag 'z' "zero-terminated"] 1
    fun call arguments =>
      match repeatKey arguments, arguments.operands with
      | .error words, _ => call.failed 1 words
      | .ok _, _ :: _ :: extra :: _ => call.extraOperand 1 extra
      | .ok key, operands =>
          match contentsOf call complainOfLines (operands.take 1) with
          | .error complaints => call.leave 1 [] complaints call.input
          | .ok (contents, unread) =>
              let same := fun a b => key.of a == key.of b
              let lines := (groups same (bareLines contents.flatten)).flatMap (keptOf arguments)
              match operands with
              | [_, target] =>
                  if target = ['-'] then call.leave 0 (unlines lines) [] unread
                  else
                    match writeOperand call target (unlines lines) false with
                    | .ok tree => { call.leave 0 [] [] unread with tree := tree }
                    | .error fault => call.failed 1 (complainPlainly target fault)
              | _ => call.leave 0 (unlines lines) [] unread

end Tools
end CaptureKit
