import CaptureKit.Log.Event
import CaptureKit.Text.Blank
import CaptureKit.Text.Digit
import CaptureKit.Text.Numeral
import CaptureKit.Text.Template
import CaptureKit.Text.WordChar

/-!
# Reading the events of a log

Logs hold many unrelated lines.  An event is wherever the text has the shape of a
template; everything else is passed over.  A template stays on one line, since none of
its pieces takes a line feed.
-/

namespace CaptureKit
namespace Log

open Microcode Text

/-- Exactly this text. -/
def text (s : String) : Piece := (Shape.literal s.toList).skip

/-- One or more spaces or tabs. -/
def gap : Piece := (Shape.atLeastOne isBlank).skip

/-- A word in hexadecimal: one to eight digits behind `0x`, and then no word goes on. -/
def hexPieces : Template :=
  [text "0x", (Shape.run isHexDigit 1 (some 8)).keep, (Shape.stop isWordChar).skip]

/-- An instruction in a shader dump: its index and its four words. -/
def slotTemplate : Template :=
  text "/*" :: gap :: text "Slot" :: gap ::
    (Shape.run isDecimalDigit 1 (some 9)).keep :: text ":" ::
    (gap :: hexPieces ++ gap :: hexPieces ++ gap :: hexPieces ++ gap :: hexPieces)

/-- The end of a method call: the value in parentheses. -/
def argumentPieces : Template :=
  (Shape.anyNumber isBlank).skip :: text "(" :: hexPieces ++ [text ")"]

/-- The start of a call of a method of the graphics unit. -/
def methodPieces : Template :=
  [text "nv2a_pgraph_method ", (Shape.atLeastOne isDecimalDigit).skip,
    text ": NV20_KELVIN_PRIMITIVE<0x97> -> "]

/-- The call that sets the load address. -/
def loadTemplate : Template :=
  methodPieces ++ text "NV097_SET_TRANSFORM_PROGRAM_LOAD<0x1E9C>" :: argumentPieces

/-- The call that uploads one word. -/
def wordTemplate : Template :=
  methodPieces ++
    text "NV097_SET_TRANSFORM_PROGRAM[" :: (Shape.atLeastOne isDecimalDigit).skip ::
    text "]<0x" :: (Shape.atLeastOne isHexDigit).skip :: text ">" :: argumentPieces

/-- The word that hexadecimal digits denote, if there is a digit, nothing else, and the
number fits a word. -/
def word? (digits : List Char) : Option Word :=
  if digits ≠ [] ∧ digits.all isHexDigit ∧ hexValue digits < UInt32.size then
    some (UInt32.ofNat (hexValue digits))
  else none

/-- The event of an instruction.  An index in other than ASCII digits denotes nothing. -/
def slotEvent? : List (List Char) → Option Event
  | [index, a, b, c, d] => do
      let i ← decimal? index
      let first ← word? a
      let second ← word? b
      let third ← word? c
      let fourth ← word? d
      return .slot i ⟨first, second, third, fourth⟩
  | _ => none

/-- The event of a call with one value. -/
def valueEvent? (event : Word → Event) : List (List Char) → Option Event
  | [value] => (word? value).map event
  | _ => none

/-- Reads what looks like an event of a log of the given kind. -/
def LogKind.reader : LogKind → Reader (Option Event)
  | .shaderDump => (Reader.ofTemplate slotTemplate trivial).map slotEvent?
  | .methodTrace =>
      ((Reader.ofTemplate loadTemplate trivial).map (valueEvent? .load)).orElse
        ((Reader.ofTemplate wordTemplate trivial).map (valueEvent? .word))

/-- The events of a log in the order of the text. -/
def LogKind.events
    (kind : LogKind)
    (log : List Char) :
    List Event :=
  (kind.reader.scan log).filterMap id

end Log
end CaptureKit
