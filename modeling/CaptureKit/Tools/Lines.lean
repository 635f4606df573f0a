import CaptureKit.Text.Numeral
import CaptureKit.Tools.Copying

/-!
# Tools on lines

The first and the last lines of files, lines in the opposite order, and lines with numbers.
Main statement: cutting into lines loses nothing (`flatten_fullLines`).
-/

namespace CaptureKit
namespace Tools

open Storage Text

/-- The lines of some octets, each with its line feed. -/
def fullLines (s : Octets) : List Octets :=
  if s = [] then []
  else
    match _h : s.dropWhile (· != '\n') with
    | [] => [s]
    | _ :: rest => (s.takeWhile (· != '\n') ++ ['\n']) :: fullLines rest
termination_by s.length
decreasing_by
  have := (List.dropWhile_sublist (l := s) (· != '\n')).length_le
  rw [_h, List.length_cons] at this
  omega

/-- Cutting into lines loses nothing. -/
theorem flatten_fullLines (s : Octets) :
    (fullLines s).flatten = s := by
  fun_induction fullLines s with
  | case1 => rfl
  | case2 s _ h =>
      simp
  | case3 s _ c rest h ih =>
      have hc : c = '\n' := by
        have := List.head?_dropWhile_not (· != '\n') s
        simpa [h] using this
      subst hc
      rw [List.flatten_cons, ih, List.append_assoc, List.singleton_append, ← h,
        List.takeWhile_append_dropWhile]

/-- The lines of some octets without their line feeds. -/
def bareLines (s : Octets) : List Octets :=
  (fullLines s).map fun line => line.filter (· != '\n')

/-- The lines of some octets that a NUL octet ends each. -/
def zeroLines (s : Octets) : List Octets :=
  if s.isEmpty then []
  else
    let pieces := s.splitOn '\x00'
    if s.getLast? = some '\x00' then pieces.dropLast else pieces

/-- Lines with a line feed behind each. -/
def unlines (lines : List Octets) : Octets :=
  lines.flatMap (· ++ ['\n'])

/-- What the suffix of a count multiplies it with. -/
def suffixFactor? (suffix : Octets) : Option Nat :=
  match String.ofList suffix with
  | "" => some 1
  | "b" => some 512
  | "k" | "K" | "KiB" => some 1024
  | "kB" | "KB" => some 1000
  | "m" | "M" | "MiB" => some 1048576
  | "MB" => some 1000000
  | "G" | "GiB" => some 1073741824
  | "GB" => some 1000000000
  | _ => none

/-- A count with a suffix. -/
def count? (s : Octets) : Option Nat :=
  let digits := s.takeWhile Char.isDigit
  if digits.isEmpty then none
  else (suffixFactor? (s.drop digits.length)).map (decimalValue digits * ·)

/-- The part of a file that is wanted: so many pieces, counted from one end, or all but
so many. -/
structure Extract where
  /-- Counts octets instead of lines. -/
  byOctets : Bool
  count : Nat
  /-- All but so many pieces at the other end. -/
  allBut : Bool

/-- A text cut into lines or octets. -/
def Extract.piecesOf
    (extract : Extract)
    (s : Octets) :
    List Octets :=
  if extract.byOctets then s.map ([·]) else fullLines s

/-- The wanted part at the front. -/
def Extract.front
    (extract : Extract)
    (s : Octets) :
    Octets :=
  let pieces := extract.piecesOf s
  (pieces.take (if extract.allBut then pieces.length - extract.count else extract.count)).flatten

/-- The wanted part at the end. -/
def Extract.back
    (extract : Extract)
    (s : Octets) :
    Octets :=
  let pieces := extract.piecesOf s
  (pieces.drop (if extract.allBut then extract.count - 1 else pieces.length - extract.count)).flatten

/-- Options that ask for a number of pieces, a name before each file, and none. -/
def extractForms : List Switch :=
  [valued 'n' "lines", valued 'c' "bytes", flag 'q' "quiet", flag 'q' "silent",
    flag 'v' "verbose"]

/-- The part that arguments ask for; `sign` is the one that turns a count into the pieces
to leave out. -/
def extractOf
    (sign : Char)
    (arguments : Arguments) :
    Except Octets Extract :=
  match (arguments.options.filter fun option => option.1 == "n" || option.1 == "c").getLast? with
  | none => .ok ⟨false, 10, false⟩
  | some (key, value) =>
      let (allBut, digits) := match value with
        | '+' :: digits => (sign == '+', digits)
        | '-' :: digits => (sign == '-', digits)
        | digits => (false, digits)
      match count? digits with
      | some count => .ok ⟨key == "c", count, allBut⟩
      | none =>
          .error ("invalid number of ".toList ++ (if key = "c" then "bytes: " else "lines: ").toList ++
            quotedArgument (if sign = '-' then digits else value))

/-- The line before the part of a file, with an empty line between files. -/
def extractHeader
    (isFirst : Bool)
    (name : Octets) :
    Octets :=
  (if isFirst then [] else ['\n']) ++ "==> ".toList ++
    (if name = ['-'] then "standard input".toList else name) ++ " <==\n".toList

/-- The complaint about a source, of which the size is asked for or not. -/
def complainOfExtract
    (sized : Bool)
    (source : Octets)
    (fault : IoFault) :
    Octets :=
  let front :=
    if fault = .os .badDescriptor ∧ sized then "cannot fstat "
    else if fault.isOfReading then "error reading "
    else "cannot open "
  front.toList ++ quotedName (sourceName source) ++
    (if fault.isOfReading then [] else " for reading".toList) ++ ": ".toList ++ plainWords fault

/-- Prints a part of each source in turn. -/
def extracted
    (call : Call)
    (headers sized : Bool)
    (part : Octets → Octets) :
    (isFirst : Bool) → List Source → List (Stream × Octets)
  | _, [] => []
  | isFirst, (name, content) :: rest =>
      let header := (Stream.output, if headers then extractHeader isFirst name else [])
      match content with
      | .ok content =>
          header :: (.output, part content) :: extracted call headers sized part false rest
      | .error fault =>
          let complaint := complainOf call (complainOfExtract sized) name fault
          if fault.isOfReading then
            header :: complaint :: extracted call headers sized part false rest
          else complaint :: extracted call headers sized part isFirst rest

/-- Prints a part of each operand; `unreadOf` says what is left of the input. -/
def extracting
    (sign : Char)
    (part : Extract → Octets → Octets)
    (unreadOf : Extract → Call → Octets) :
    Tool :=
  .withOptions extractForms 1 fun call arguments =>
    match extractOf sign arguments with
    | .error words => call.failed 1 words
    | .ok extract =>
        let (sources, unread) := sources call arguments.operands
        let headers := match arguments.lastOf? ["q", "v"] with
          | some key => key == "v"
          | none => 1 < arguments.operands.length
        let usesInput := sources.any fun source => isInput call source.1
        let sized := sign == '+' || extract.allBut
        call.inOrder (statusOf sources)
          (extracted call headers sized (part extract) true sources ++
            [(.complaints, closingWords call sources)])
          (if usesInput then unreadOf extract call else unread)

/-- An argument such as `-3` or `-3c` asks for so many pieces; other letters behind the
number are options of their own. -/
def spelledCount
    (sign : Octets) :
    Octets → List Octets
  | c :: s =>
      let digits := (c :: s).takeWhile Char.isDigit
      let letters := (c :: s).drop digits.length
      if letters.all ['c', 'l', 'q', 'v'].contains then
        let option := if letters.contains 'c' then ['-', 'c'] else ['-', 'n']
        let names := letters.filter fun c => c == 'q' || c == 'v'
        (option ++ sign ++ digits) :: names.map fun c => ['-', c]
      else [(sign ++ c :: s)]
  | [] => []

/-- Spells out a count at the front of the arguments. -/
def spellOutCount : List Octets → List Octets
  | ('-' :: c :: letters) :: rest =>
      if c.isDigit then spelledCount [] (c :: letters) ++ rest else ('-' :: c :: letters) :: rest
  | ('+' :: c :: letters) :: rest =>
      if c.isDigit && rest.length ≤ 1 then spelledCount ['+'] (c :: letters) ++ rest
      else ('+' :: c :: letters) :: rest
  | arguments => arguments

/-- A tool with counts at the front of its arguments spelled out. -/
def Tool.countingFirst (tool : Tool) : Tool := fun call =>
  tool { call with arguments := spellOutCount call.arguments }

/-- Prints the beginnings of files.  It reads no more of the input than it has to. -/
def head : Tool :=
  .countingFirst <| extracting '-' Extract.front fun extract call =>
    if extract.allBut then []
    else if extract.byOctets then call.input.drop extract.count
    else call.left (extract.front call.input).length

/-- Prints the ends of files. -/
def tail : Tool :=
  .countingFirst <| extracting '+' Extract.back fun _ _ => []

/-- The parts of a text, each up to a separator and with it. -/
def separated
    (separator : Octets) :
    (fuel : Nat) → Octets → Octets → List Octets
  | 0, part, s => [part.reverse ++ s]
  | _, part, [] => if part.isEmpty then [] else [part.reverse]
  | fuel + 1, part, c :: s =>
      if separator.isPrefixOf (c :: s) then
        (part.reverse ++ separator) ::
          separated separator fuel [] ((c :: s).drop (max 1 separator.length))
      else separated separator fuel (c :: part) s

/-- The complaint that a source cannot be read backwards. -/
def complainOfReading
    (source : Octets)
    (fault : IoFault) :
    Octets :=
  if fault.isOfReading then
    let error := if fault = .os .isFolder then .os .invalidArgument else fault
    nameIfPlain (sourceName source) ++ ": read error: ".toList ++ plainWords error
  else
    "failed to open ".toList ++ quotedName source ++ " for reading: ".toList ++ plainWords fault

/-- Prints lines in the opposite order. -/
def tac : Tool :=
  .withOptions [flag 'b' "before", flag 'r' "regex", valued 's' "separator"] 1
    fun call arguments =>
      let separator := (arguments.value? "s").getD ['\n']
      filterTool complainOfReading
        (fun s => (separated separator s.length [] s).reverse.flatten) call arguments.operands

/-- How numbers are written in front of lines. -/
structure NumberStyle where
  /-- Which lines get a number: all, those that are not empty, or none. -/
  body : Char
  width : Nat
  separator : Octets
  step : Nat
  /-- The side at which a number stands, and whether it is filled with zeros. -/
  format : String

/-- A number in its column. -/
def NumberStyle.column
    (style : NumberStyle)
    (n : Nat) :
    Octets :=
  let digits := (toString n).toList
  let missing := style.width - digits.length
  match style.format with
  | "ln" => digits ++ List.replicate missing ' '
  | "rz" => List.replicate missing '0' ++ digits
  | _ => List.replicate missing ' ' ++ digits

/-- Lines with numbers, and the next number. -/
def numberLines
    (style : NumberStyle) :
    Nat → List Octets → Octets × Nat
  | next, [] => ([], next)
  | next, line :: lines =>
      let counted := style.body == 'a' || (style.body == 't' && !line.isEmpty)
      let front := if counted then style.column next ++ style.separator
        else List.replicate (style.width + style.separator.length) ' '
      let (more, last) := numberLines style (if counted then next + style.step else next) lines
      (front ++ line ++ '\n' :: more, last)

/-- Numbers the lines of sources in turn. -/
def numberSources
    (call : Call)
    (style : NumberStyle) :
    Nat → List Source → List (Stream × Octets)
  | _, [] => []
  | next, (name, .error fault) :: rest =>
      complainOf call complainPlainly name fault :: numberSources call style next rest
  | next, (_, .ok content) :: rest =>
      let (text, next) := numberLines style next (bareLines content)
      (.output, text) :: numberSources call style next rest

/-- Prints lines with numbers. -/
def nl : Tool :=
  .withOptions
    [valued 'b' "body-numbering", valued 'w' "number-width", valued 's' "number-separator",
      valued 'v' "starting-line-number", valued 'i' "line-increment",
      valued 'n' "number-format"] 1
    fun call arguments =>
      let number := fun key (usual : Nat) => ((arguments.value? key).bind decimal?).getD usual
      let body := ((arguments.value? "b").bind List.head?).getD 't'
      if ['a', 't', 'n'].contains body then
        let style : NumberStyle := ⟨body, number "w" 6, (arguments.value? "s").getD ['\t'],
          number "i" 1, String.ofList ((arguments.value? "n").getD [])⟩
        let (sources, unread) := sources call arguments.operands
        call.inOrder (statusOf sources)
          (numberSources call style (number "v" 1) sources ++
            [(.complaints, closingWords call sources)])
          unread
      else
        call.misused 1 ("invalid body numbering style: ".toList ++
          quotedArgument ((arguments.value? "b").getD []))

end Tools
end CaptureKit
