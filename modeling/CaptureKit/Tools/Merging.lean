import CaptureKit.Tools.Sorting

/-!
# Merging of sorted lines

`comm` tells which lines two sorted files have on their own and which in common.  It
complains about a file that turns out not to be sorted.  Main statement: merging loses no
line of the first file and keeps their order (`linesOfFirst_alignLines`).
-/

namespace CaptureKit
namespace Tools

open Storage Text

/-- The files that a line stands in. -/
inductive Column
  | first
  | second
  | both
  deriving DecidableEq

/-- Two sorted lists of lines merged, each line with its column; `fuel` bounds their number. -/
def alignLines : (fuel : Nat) → List Octets → List Octets → List (Column × Octets)
  | 0, first, second => first.map (.first, ·) ++ second.map (.second, ·)
  | _, [], second => second.map (.second, ·)
  | _, first, [] => first.map (.first, ·)
  | fuel + 1, a :: first, b :: second =>
      match compareOctets a b with
      | .lt => (.first, a) :: alignLines fuel first (b :: second)
      | .gt => (.second, b) :: alignLines fuel (a :: first) second
      | .eq => (.both, a) :: alignLines fuel first second

/-- The lines that stand in the first file. -/
def linesOfFirst (merged : List (Column × Octets)) : List Octets :=
  (merged.filter (·.1 ≠ .second)).map Prod.snd

theorem linesOfFirst_append (front back : List (Column × Octets)) :
    linesOfFirst (front ++ back) = linesOfFirst front ++ linesOfFirst back := by
  simp [linesOfFirst]

theorem linesOfFirst_second (lines : List Octets) :
    linesOfFirst (lines.map (.second, ·)) = [] := by
  induction lines with
  | nil => rfl
  | cons line lines ih => simp [linesOfFirst]

theorem linesOfFirst_first (lines : List Octets) :
    linesOfFirst (lines.map (.first, ·)) = lines := by
  induction lines with
  | nil => rfl
  | cons line lines ih => simpa [linesOfFirst] using ih

/-- Merging loses no line of the first file and keeps their order. -/
theorem linesOfFirst_alignLines
    (fuel : Nat)
    (first second : List Octets) :
    linesOfFirst (alignLines fuel first second) = first := by
  fun_induction alignLines fuel first second with
  | case1 first second =>
      rw [linesOfFirst_append, linesOfFirst_first, linesOfFirst_second, List.append_nil]
  | case2 _ second => exact linesOfFirst_second second
  | case3 _ first => exact linesOfFirst_first first
  | case4 _ _ _ _ _ _ ih => simpa [linesOfFirst] using ih
  | case5 _ _ _ _ _ _ ih => simpa [linesOfFirst] using ih
  | case6 _ _ _ _ _ _ ih => simpa [linesOfFirst] using ih

/-- Whether the order of the files is looked at. -/
inductive OrderCheck
  /-- From the first line on that only one file has. -/
  | fromUnpaired
  /-- Always, and a fault ends the tool. -/
  | always
  | never
  deriving DecidableEq

/-- How far a file has been read. -/
structure Watched where
  /-- The line before the current one. -/
  passed : Option Octets
  /-- The lines from the current one on. -/
  rest : List Octets
  /-- The file is known not to be sorted. -/
  disordered : Bool

/-- Goes on to the next line.  The current line is compared with it, and at the end of the
file with the line before, since that may not have been looked at. -/
def Watched.next
    (watched : Watched)
    (looks : Bool) :
    Watched :=
  match watched.rest with
  | [] => watched
  | line :: rest =>
      let pair := match rest with
        | following :: _ => some (line, following)
        | [] => watched.passed.map (·, line)
      let wrong := looks && pair.any fun pair => compareOctets pair.1 pair.2 == .gt
      ⟨some line, rest, watched.disordered || wrong⟩

/-- What is written for merged lines and about the order of their files, and the columns
that turned out not to be sorted. -/
def reportLines
    (call : Call)
    (check : OrderCheck)
    (shown : Column × Octets → Octets) :
    (unpaired : Bool) → Watched → Watched → List (Column × Octets) →
      List (Stream × Octets) × Bool
  | _, first, second, [] => ([], first.disordered || second.disordered)
  | unpaired, first, second, line :: lines =>
      let unpaired := unpaired || line.1 ≠ .both
      let looks := check = .always || (check = .fromUnpaired && unpaired)
      let laterFirst := if line.1 = .second then first else first.next looks
      let laterSecond := if line.1 = .first then second else second.next looks
      let complaint := fun (before after : Watched) (number : String) =>
        if after.disordered && !before.disordered
        then call.complaint ("file ".toList ++ number.toList ++ " is not in sorted order".toList)
        else []
      let complaints := complaint first laterFirst "1" ++ complaint second laterSecond "2"
      let pieces := [(.output, shown line), (.complaints, complaints)]
      if check = .always && !complaints.isEmpty then
        ([(.output, shown line), (.complaints, complaints.takeWhile (· != '\n') ++ ['\n'])], true)
      else
        let (more, disordered) := reportLines call check shown unpaired laterFirst laterSecond lines
        (pieces ++ more, disordered)

/-- Tells which lines two sorted files have on their own and which in common. -/
def comm : Tool :=
  .withOptions
    [flag '1' "", flag '2' "", flag '3' "", flag 'z' "zero-terminated",
      named "check-order" .nothing, named "nocheck-order" .nothing,
      named "output-delimiter" .value, named "total" .nothing] 1
    fun call arguments =>
      match arguments.operands with
      | [] => call.missingOperand 1
      | [a] => call.misused 1 ("missing operand after ".toList ++ quotedArgument a)
      | _ :: _ :: extra :: _ => call.extraOperand 1 extra
      | operands =>
          match contentsOf call complainPlainly operands with
          | .error complaints =>
              call.leave 1 [] (complaints.takeWhile (· != '\n') ++ ['\n']) call.input
          | .ok (contents, unread) =>
              let (linesOf, ending) := if arguments.has "z" then (zeroLines, '\x00')
                else (bareLines, '\n')
              let first := linesOf (contents.headD [])
              let second := linesOf ((contents[1]?).getD [])
              let check := match arguments.options.reverse.find? fun option =>
                  option.1 == "check-order" || option.1 == "nocheck-order" with
                | none => OrderCheck.fromUnpaired
                | some ("check-order", _) => .always
                | some _ => .never
              let joint := match arguments.value? "output-delimiter" with
                | none => ['\t']
                | some [] => ['\x00']
                | some text => text
              let shown := fun line : Column × Octets =>
                let (key, before) := match line.1 with
                  | .first => ("1", [])
                  | .second => ("2", ["1"])
                  | .both => ("3", ["1", "2"])
                if arguments.has key then []
                else (before.filter (!arguments.has ·)).flatMap (fun _ => joint) ++
                  line.2 ++ [ending]
              let merged := alignLines (first.length + second.length) first second
              let (pieces, disordered) := reportLines call check shown false
                ⟨none, first, false⟩ ⟨none, second, false⟩ merged
              let count := fun column : Column =>
                (toString (merged.filter (·.1 = column)).length).toList
              let total := if arguments.has "total" then
                  joint.intercalate [count .first, count .second, count .both, "total".toList] ++
                    [ending]
                else []
              if disordered && check = .always then call.inOrder 1 pieces unread
              else
                let complaint := if disordered
                  then call.complaint "input is not in sorted order".toList else []
                call.inOrder (if disordered then 1 else 0)
                  (pieces ++ [(.output, total), (.complaints, complaint)]) unread

end Tools
end CaptureKit
