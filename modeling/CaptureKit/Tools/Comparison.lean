import CaptureKit.Tools.Lines

/-!
# Tools that compare two files

`cmp` tells where two files differ first, and `diff` tells which lines have to change.
Their status is 0 for equal files, 1 for different ones, and 2 if they could not be
compared.
-/

namespace CaptureKit
namespace Tools

open Storage Text

/-- The hint at the help of a comparing tool, after a complaint. -/
def comparisonUsage
    (call : Call)
    (complaint : Octets) :
    Finish :=
  call.failed 2 (complaint ++ '\n' :: call.name ++ ": Try '".toList ++ call.name ++
    " --help' for more information.".toList)

/-- What is left of two texts behind what they have in common at the front. -/
def behindCommon : Octets → Octets → Octets × Octets
  | a :: s, b :: t => if a = b then behindCommon s t else (a :: s, b :: t)
  | s, t => (s, t)

/-- The complaint about a file that cannot be compared; a folder that can be opened is
refused as it is read. -/
def complainOfComparing
    (source : Octets)
    (fault : IoFault) :
    Octets :=
  source ++ ": ".toList ++ plainWords fault

/-- Tells where two files differ first. -/
def cmpFiles
    (call : Call)
    (silent : Bool)
    (a b : Octets)
    (x y : Octets) :
    Finish :=
  match behindCommon x y with
  | ([], []) => call.leave 0 [] [] []
  | (s, t) =>
      let place := x.length - s.length
      let line := (x.take place).count '\n' + 1
      if silent then call.leave 1 [] [] []
      else if s.isEmpty || t.isEmpty then
        let shorter := if s.isEmpty then a else b
        if place = 0 then
          call.leave 1 [] (call.name ++ ": EOF on ".toList ++ shorter ++
            " which is empty\n".toList) []
        else
          let ended := (if s.isEmpty then x else y).getLast? == some '\n'
          call.leave 1 [] (call.name ++ ": EOF on ".toList ++ shorter ++ " after byte ".toList ++
            (toString place).toList ++
            (if ended then ", line ".toList ++ (toString (line - 1)).toList
              else ", in line ".toList ++ (toString line).toList) ++ ['\n']) []
      else
        call.leave 1 (a ++ ' ' :: b ++ " differ: char ".toList ++ (toString (place + 1)).toList ++
          ", line ".toList ++ (toString line).toList ++ ['\n']) [] []

/-- Tells where two files differ first; a single operand is compared with the input. -/
def cmp : Tool :=
  fun call =>
    match readArguments
        [flag 's' "quiet", flag 's' "silent", flag 'b' "print-bytes", flag 'l' "verbose",
          valued 'n' "bytes", valued 'i' "ignore-initial"] false call.arguments with
    | .error fault => comparisonUsage call fault.words
    | .ok arguments =>
        match arguments.operands with
        | [] => comparisonUsage call
            ("missing operand after '".toList ++ call.arguments.getLastD call.name ++ [apostrophe])
        | a :: rest =>
            match rest.drop 1 with
            | extra :: _ => comparisonUsage call ("extra operand '".toList ++ extra ++ [apostrophe])
            | [] =>
                let b := rest.headD ['-']
                match contentsOf call complainOfComparing [a, b] with
                | .error complaints =>
                    call.leave 2 [] (complaints.takeWhile (· != '\n') ++ ['\n']) []
                | .ok (contents, _) =>
                    cmpFiles call (arguments.has "s") a b (contents.headD [])
                      ((contents[1]?).getD [])

/-- The lengths of the longest lists of lines in common, for each end of the second list,
where `below` holds them for the first list without its first line. -/
def commonRow
    (line : Octets) :
    List Octets → (below : List Nat) → List Nat
  | [], _ => [0]
  | other :: others, below =>
      let row := commonRow line others below.tail
      let best := if line == other then (below.tail.headD 0) + 1
        else max (below.headD 0) (row.headD 0)
      best :: row

/-- The table of the lengths of the longest lists in common. -/
def commonTable : List Octets → List Octets → List (List Nat)
  | [], second => [second.map (fun _ => 0) ++ [0]]
  | line :: first, second =>
      let table := commonTable first second
      commonRow line second (table.headD []) :: table

/-- A change: lines of the first file give way to lines of the second, each list behind so
many lines. -/
structure Hunk where
  before : Nat
  removed : List Octets
  beforeAdded : Nat
  added : List Octets

/-- The hunk is empty. -/
def Hunk.isEmpty (hunk : Hunk) : Bool :=
  hunk.removed.isEmpty && hunk.added.isEmpty

/-- The changes between two lists of lines, behind a change that is being made, its
lines last first; `fuel` bounds the number of lines. -/
def hunksFrom :
    (fuel : Nat) → (table : List (List Nat)) → Hunk → List Octets → List Octets → List Hunk
  | 0, _, hunk, _, _ => [hunk]
  | fuel + 1, table, hunk, first, second =>
      match first, second with
      | [], [] => [hunk]
      | a :: first', b :: second' =>
          if a == b then
            let next : Hunk := ⟨hunk.before + hunk.removed.length + 1, [],
              hunk.beforeAdded + hunk.added.length + 1, []⟩
            hunk :: hunksFrom fuel (table.tail.map List.tail) next first' second'
          else
            let down := (table.tail.headD []).headD 0
            let right := (table.headD []).tail.headD 0
            if right ≤ down then
              hunksFrom fuel table.tail { hunk with removed := a :: hunk.removed } first' second
            else
              hunksFrom fuel (table.map List.tail) { hunk with added := b :: hunk.added } first
                second'
      | a :: first', [] =>
          hunksFrom fuel table.tail { hunk with removed := a :: hunk.removed } first' []
      | [], b :: second' =>
          hunksFrom fuel (table.map List.tail) { hunk with added := b :: hunk.added } [] second'

/-- The changes between two lists of lines. -/
def hunks (first second : List Octets) : List Hunk :=
  ((hunksFrom (first.length + second.length + 1) (commonTable first second) ⟨0, [], 0, []⟩
    first second).filter (!·.isEmpty)).map fun hunk =>
      { hunk with removed := hunk.removed.reverse, added := hunk.added.reverse }

/-- Line numbers as a change names them. -/
def lineRange (before count : Nat) : Octets :=
  if count = 0 then (toString before).toList
  else if count = 1 then (toString (before + 1)).toList
  else (toString (before + 1)).toList ++ ',' :: (toString (before + count)).toList

/-- A line behind a mark, with a remark if it does not end. -/
def markedLine
    (mark : Char)
    (line : Octets) :
    Octets :=
  mark :: ' ' :: line ++
    if line.getLast? = some '\n' then [] else "\n\\ No newline at end of file\n".toList

/-- A change as it is shown. -/
def Hunk.shown (hunk : Hunk) : Octets :=
  let letter := if hunk.removed.isEmpty then 'a' else if hunk.added.isEmpty then 'd' else 'c'
  lineRange hunk.before hunk.removed.length ++ letter ::
    lineRange hunk.beforeAdded hunk.added.length ++ '\n' ::
    hunk.removed.flatMap (markedLine '<') ++
    (if letter = 'c' then "---\n".toList else []) ++ hunk.added.flatMap (markedLine '>')

/-- A text that is shown line by line: it holds no NUL octet. -/
def isLineText (s : Octets) : Bool :=
  !s.contains '\x00'

/-- Tells which lines of a file have to change to make it the other one. -/
def diff : Tool :=
  fun call =>
    match readArguments
        [flag 'q' "brief", flag 's' "report-identical-files", flag 'a' "text", flag 'i' "",
          flag 'b' "", flag 'w' "", flag 'B' "", flag 'r' "recursive", flag 'N' "new-file"] false
        call.arguments with
    | .error fault => comparisonUsage call fault.words
    | .ok arguments =>
        match arguments.operands with
        | [] => comparisonUsage call
            ("missing operand after '".toList ++ call.arguments.getLastD call.name ++ [apostrophe])
        | [a] => comparisonUsage call ("missing operand after '".toList ++ a ++ [apostrophe])
        | _ :: _ :: extra :: _ =>
            comparisonUsage call ("extra operand '".toList ++ extra ++ [apostrophe])
        | [a, b] =>
            match contentsOf call complainOfComparing [a, b] with
            | .error complaints => call.leave 2 [] complaints []
            | .ok (contents, _) =>
                let x := contents.headD []
                let y := (contents[1]?).getD []
                if x == y then
                  call.leave 0 (if arguments.has "s" then
                    "Files ".toList ++ a ++ " and ".toList ++ b ++ " are identical\n".toList
                    else []) [] []
                else if arguments.has "q" then
                  call.leave 1 ("Files ".toList ++ a ++ " and ".toList ++ b ++
                    " differ\n".toList) [] []
                else if !(isLineText x && isLineText y) && !arguments.has "a" then
                  call.leave 1 ("Binary files ".toList ++ a ++ " and ".toList ++ b ++
                    " differ\n".toList) [] []
                else call.leave 1 ((hunks (fullLines x) (fullLines y)).flatMap Hunk.shown) [] []

end Tools
end CaptureKit
