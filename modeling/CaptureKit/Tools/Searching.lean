import CaptureKit.Tools.ExpressionForm
import CaptureKit.Tools.Lines

/-!
# Searching lines

`grep` writes the lines that one of its expressions fits.  It succeeds if there is such a
line, fails if there is none, and fails with another status if something went wrong.
-/

namespace CaptureKit
namespace Tools

open Storage Text

/-- What is looked for. -/
structure Query where
  expressions : List Expression
  folded : Bool
  /-- The lines that do not fit are wanted. -/
  inverted : Bool

/-- The part of a text that fits and starts first, of several the longest. -/
def Query.first?
    (query : Query)
    (before : Option Char)
    (text : Octets) :
    Option Found :=
  (query.expressions.filterMap fun expression => expression.find? query.folded before text).foldl
    (fun best found =>
      match best with
      | none => some found
      | some other =>
          if found.skipped.length < other.skipped.length ∨
              (found.skipped.length = other.skipped.length ∧
                other.text.length < found.text.length) then some found
          else best) none

/-- An expression that fits whole words only. -/
def Expression.asWord (expression : Expression) : Expression :=
  .followed (.edge .freeBefore) (.followed expression (.edge .freeBehind))

/-- An expression as a query compares it. -/
def asCompared
    (wholeLines wholeWords : Bool)
    (expression : Expression) :
    Expression :=
  if wholeLines then .followed .textStart (.followed expression .textEnd)
  else if wholeWords then expression.asWord
  else expression

/-- A line is wanted. -/
def Query.wants
    (query : Query)
    (line : Octets) :
    Bool :=
  (query.first? none line).isSome != query.inverted

/-- The parts of a line that fit and are not empty; `fuel` bounds their number. -/
def Query.parts
    (query : Query) :
    (fuel : Nat) → (before : Option Char) → Octets → List Octets
  | 0, _, _ => []
  | fuel + 1, before, text =>
      match query.first? before text with
      | none => []
      | some found =>
          match found.text, found.rest with
          | [], [] => []
          | [], c :: rest => query.parts fuel (some c) rest
          | part, rest => part :: query.parts fuel part.getLast? rest

/-- How the lines that are wanted are shown. -/
structure SearchStyle where
  counts : Bool
  /-- Only names are shown, of sources with such lines or without. -/
  names : Option Bool
  numbers : Bool
  named : Bool
  quiet : Bool
  partsOnly : Bool
  most : Option Nat
  /-- How many lines before and behind are shown as well. -/
  before : Nat
  behind : Nat

/-- The name under which a source is shown. -/
def shownSource (name : Octets) : Octets :=
  if name = ['-'] then "(standard input)".toList else name

/-- A line with what is shown in front of it. -/
def searchLine
    (style : SearchStyle)
    (name : Octets)
    (mark : Char)
    (number : Nat)
    (line : Octets) :
    Octets :=
  (if style.named then shownSource name ++ [mark] else []) ++
    (if style.numbers then (toString number).toList ++ [mark] else []) ++ line ++ ['\n']

/-- The numbered lines that are wanted, up to the greatest number of them. -/
def wantedLines
    (query : Query)
    (style : SearchStyle)
    (content : Octets) :
    List (Nat × Octets) :=
  let numbered := (bareLines content).mapIdx fun index line => (index + 1, line)
  let wanted := numbered.filter fun item => query.wants item.2
  match style.most with
  | some most => wanted.take most
  | none => wanted

/-- The lines that are wanted, with those around them; a bar stands where lines are left
out. -/
def aroundLines
    (style : SearchStyle)
    (name content : Octets)
    (wanted : List Nat) :
    Octets :=
  let near := fun number : Nat =>
    wanted.any fun n => number ≤ n + style.behind && n ≤ number + style.before
  let numbered := (bareLines content).mapIdx fun index line => (index + 1, line)
  let step := fun (state : Option Nat × Octets) (item : Nat × Octets) =>
    if near item.1 then
      let bar := match state.1 with
        | some last => if last + 1 < item.1 then ['-', '-', '\n'] else []
        | none => []
      let mark := if wanted.contains item.1 then ':' else '-'
      (some item.1, state.2 ++ bar ++ searchLine style name mark item.1 item.2)
    else state
  (numbered.foldl step (none, [])).2

/-- What is shown of a source. -/
def shownLines
    (query : Query)
    (style : SearchStyle)
    (name content : Octets) :
    Octets :=
  let wanted := wantedLines query style content
  if style.quiet then []
  else
    match style.names with
    | some having => if having = !wanted.isEmpty then shownSource name ++ ['\n'] else []
    | none =>
        if style.counts then
          (if style.named then shownSource name ++ [':'] else []) ++
            (toString wanted.length).toList ++ ['\n']
        else if style.partsOnly then
          if query.inverted then []
          else
            wanted.flatMap fun item =>
              (query.parts (item.2.length + 1) none item.2).flatMap
                (searchLine style name ':' item.1)
        else if style.before = 0 ∧ style.behind = 0 then
          wanted.flatMap fun item => searchLine style name ':' item.1 item.2
        else aroundLines style name content (wanted.map Prod.fst)

/-- The options of a search. -/
def searchForms : List Switch :=
  [flag 'E' "extended-regexp", flag 'F' "fixed-strings", flag 'G' "basic-regexp",
    valued 'e' "regexp", valued 'f' "file", flag 'i' "ignore-case", flag 'y' "",
    flag 'v' "invert-match", flag 'w' "word-regexp", flag 'x' "line-regexp", flag 'c' "count",
    flag 'l' "files-with-matches", flag 'L' "files-without-match", flag 'n' "line-number",
    flag 'o' "only-matching", flag 'q' "quiet", named "silent" .nothing, flag 's' "no-messages",
    flag 'h' "no-filename", flag 'H' "with-filename", flag 'a' "text", flag 'U' "binary",
    valued 'm' "max-count", valued 'A' "after-context", valued 'B' "before-context",
    valued 'C' "context", named "color" .perhaps, named "colour" .perhaps,
    named "line-buffered" .nothing]

/-- The expressions that a text spells, one a line. -/
def expressionsOf
    (kind : Option String)
    (text : Octets) :
    Except ExpressionFault (List Expression) :=
  let dialect : Dialect := ⟨kind == some "E", true, false⟩
  (if text.isEmpty then [[]] else bareLines text).mapM fun line =>
    if kind = some "F" then
      .ok (line.foldr (fun c rest => .followed (.one (· == c)) rest) .nothing)
    else (Expression.read dialect line).map Prod.fst

/-- Ends with a hint at the usage. -/
def searchMisused
    (call : Call)
    (front : Octets) :
    Finish :=
  call.leave 2 []
    (front ++ "Usage: ".toList ++ call.name ++ " [OPTION]... PATTERNS [FILE]...\nTry '".toList ++
      call.name ++ " --help' for more information.\n".toList) call.input

/-- Searches sources for expressions. -/
def searchSources
    (call : Call)
    (arguments : Arguments)
    (query : Query)
    (operands : List Octets) :
    Finish :=
  let asNumber := fun key : String => (arguments.value? key).map decimalValue
  let around := (asNumber "C").getD 0
  let (sources, unread) := sources call operands
  let named := match arguments.lastOf? ["h", "H"] with
    | some "h" => false
    | some _ => true
    | none => 1 < sources.length
  let style : SearchStyle :=
    { counts := arguments.has "c"
      names := (arguments.lastOf? ["l", "L"]).map (· == "l")
      numbers := arguments.has "n"
      named
      quiet := arguments.has "q" || arguments.has "silent"
      partsOnly := arguments.has "o"
      most := asNumber "m"
      before := (asNumber "B").getD around
      behind := (asNumber "A").getD around }
  let words := fun (name : Octets) (fault : IoFault) =>
    (if name = ['-'] then shownSource name else nameIfPlain name) ++ ": ".toList ++
      plainWords fault
  let pieces := (inTurn call words (shownLines query style) sources).filter fun piece =>
    piece.1 == .output || !arguments.has "s"
  let any := (readable sources).any fun source => !(wantedLines query style source.2).isEmpty
  let succeeded := if style.names = some false then pieces.any fun piece =>
      piece.1 == .output && !piece.2.isEmpty
    else any
  let failed := sources.any fun source => !source.2.isOk
  call.inOrder (if failed && !(style.quiet && any) then 2 else if succeeded then 0 else 1)
    pieces unread

/-- Searches for expressions that are written in a way of their own, if not otherwise asked
for. -/
def searching (usual : Option String) : Tool := fun call =>
  match readArguments searchForms false call.arguments with
  | .error fault => searchMisused call (call.complaint fault.words)
  | .ok arguments =>
      let kind := (arguments.lastOf? ["E", "F", "G"]).or usual
      let given := arguments.values "e"
      let (texts, operands) := match given, arguments.operands with
        | [], text :: operands => ([text], operands)
        | given, operands => (given, operands)
      if texts.isEmpty then searchMisused call []
      else if (arguments.value? "m").any (!·.all Char.isDigit) then
        call.failed 2 "invalid max count".toList
      else
        match texts.mapM (expressionsOf kind) with
        | .error fault => call.failed 2 fault.words.toList
        | .ok expressions =>
            let compared := asCompared (arguments.has "x") (arguments.has "w")
            let query : Query :=
              { expressions := expressions.flatten.map compared
                folded := arguments.has "i" || arguments.has "y"
                inverted := arguments.has "v" }
            searchSources call arguments query operands

/-- Searches for plain expressions. -/
def grep : Tool := searching none

/-- Searches for extended expressions, under the name of the tool that searches for plain
ones. -/
def egrep : Tool := fun call => searching (some "E") { call with name := "grep".toList }

/-- Searches for texts, under the name of the tool that searches for expressions. -/
def fgrep : Tool := fun call => searching (some "F") { call with name := "grep".toList }

end Tools
end CaptureKit
