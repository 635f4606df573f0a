import CaptureKit.Draw.Basic
import CaptureKit.Report
import CaptureKit.Text.Blank
import CaptureKit.Text.Digit
import CaptureKit.Text.Numeral
import CaptureKit.Text.Quoted
import CaptureKit.Text.Template

/-!
# Reading the draws of an overview

An overview says on each of its lines that an event uses or writes one resource.  The
lines of one event need not stand together.  Events come in the order in which they
first appear, and the entries of each are taken in the order of the text.
-/

namespace CaptureKit
namespace Draw

open Text

/-- Why an overview has no draws. -/
inductive OverviewFault
  /-- An entry that names no resource. -/
  | unknownEntry (event entry : String)
  /-- A sampler that the graphics unit does not have. -/
  | noSampler (event : String) (index : Nat)
  deriving DecidableEq, Repr

/-- The wording of a fault. -/
def OverviewFault.message : OverviewFault → String
  | .unknownEntry event entry => s!"unknown entry for EID {event}: {quoted entry}"
  | .noSampler event index => s!"sampler index {index} for EID {event} is out of range"

/-- A fault of an overview has no cause of its own. -/
def OverviewFault.report (fault : OverviewFault) : Report :=
  .plain fault.message

/-- The number of an event and its entry, which goes to the end of the line. -/
def entryTemplate : Template :=
  [(Shape.literal "EID ".toList).skip, (Shape.atLeastOne isDecimalDigit).keep,
    (Shape.anyNumber isBlank).skip, (Shape.anyNumber (· != '\n')).keep]

/-- The parts of an entry of an overview: its event, and what it says about it. -/
def entryOf : List (List Char) → String × List Char
  | [event, entry] => (String.ofList event, trimEnd entry)
  | _ => ("", [])

/-- The entries of an overview with their events, in the order of the text. -/
def entries (overview : List Char) : List (String × List Char) :=
  ((Reader.ofTemplate entryTemplate trivial).map entryOf).scan overview

/-- The end of an entry that names a sampler. -/
def samplerTemplate : Template :=
  [(Shape.one isWhite).skip, (Shape.literal "in sampler ".toList).skip,
    (Shape.atLeastOne isDecimalDigit).keep]

/-- A name of at least one character and the sampler behind it; where several places could
end the name, the last one does. -/
def nameAndSampler? : List Char → Option (List Char × List Char)
  | [] => none
  | c :: s =>
      match nameAndSampler? s with
      | some (name, index) => some (c :: name, index)
      | none =>
          match samplerTemplate.read s with
          | some ([index], _) => some ([c], index)
          | _ => none

/-- A sampler index that is no number of 64 bits counts as the greatest one. -/
def indexNumber (digits : List Char) : Nat :=
  (decimal? digits).getD (limit64 - 1)

/-- The resource that an entry names. -/
def resource
    (event : String)
    (entry : List Char) :
    Except OverviewFault Resource :=
  match (afterLiteral "uses ".toList entry).bind nameAndSampler? with
  | some (name, digits) =>
      if h : indexNumber digits < samplerLimit then
        .ok (.texture ⟨indexNumber digits, h⟩ (String.ofList name))
      else .error (.noSampler event (indexNumber digits))
  | none =>
      match afterLiteral "writes color to".toList entry with
      | some name => .ok (.color (String.ofList (trim name)))
      | none =>
          match afterLiteral "writes depth to".toList entry with
          | some name => .ok (.depth (String.ofList (trim name)))
          | none => .error (.unknownEntry event (String.ofList entry))

/-- Pairs grouped by their keys, which come in the order of their first appearance. -/
def grouped {α : Type} (pairs : List (String × α)) : List (String × List α) :=
  (pairs.map Prod.fst).eraseDups.map fun key =>
    (key, (pairs.filter (·.1 == key)).map Prod.snd)

/-- The draw that the entries of an event describe. -/
def ofEntries
    (event : String)
    (entries : List (List Char)) :
    Except OverviewFault Draw :=
  entries.foldlM (fun draw entry => draw.bind <$> resource event entry) empty

/-- The draws of an overview by event. -/
def overview (text : List Char) : Except OverviewFault (List (String × Draw)) :=
  (grouped (entries text)).mapM fun group =>
    (Prod.mk group.1) <$> ofEntries group.1 group.2

/-- The draws with at least so many textures. -/
def withTextures
    (least : Nat)
    (draws : List (String × Draw)) :
    List (String × Draw) :=
  draws.filter fun draw => least ≤ draw.2.textureCount

end Draw
end CaptureKit
