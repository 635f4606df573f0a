import CaptureKit.Shell.Arithmetic
import CaptureKit.Shell.Pattern
import CaptureKit.Shell.State

/-!
# Expansion of words

Before a command runs, the pieces of its words give way to text: parameters to their
values, commands to what they print, expressions to their numbers.  What did not stand in
quotes is then cut into fields at blanks, and fields with marks of patterns give way to the
names of the files that fit.
-/

namespace CaptureKit
namespace Shell

open Storage Text Tools

/-- A part of an expanded word. -/
inductive Bit
  /-- An octet; if it is `loose`, the word may be cut there. -/
  | octet (glyph : Glyph) (loose : Bool)
  /-- Quotes stood here, so the field exists even if it is empty. -/
  | quotes
  /-- One field ends here and another one begins; a `loose` end counts as a blank. -/
  | boundary (loose : Bool)
  /-- A value ends here; separators behind it do not belong to those at its end. -/
  | seam

/-- Bits of a text. -/
def bitsOf
    (quoted loose : Bool)
    (s : Octets) :
    List Bit :=
  s.map fun c => .octet ⟨c, quoted⟩ loose

/-- The glyphs of bits. -/
def glyphsOf (bits : List Bit) : List Glyph :=
  bits.filterMap fun
    | .octet glyph _ => some glyph
    | _ => none

/-- The text of bits. -/
def textOf (bits : List Bit) : Octets :=
  bareOctets (glyphsOf bits)

/-- The octets at which words are cut. -/
def State.separators (state : State) : List Char :=
  (state.value? "IFS".toList).getD [' ', '\t', '\n']

/-- A separator that is a blank. -/
def isBlankSeparator (c : Char) : Bool :=
  c == ' ' || c == '\t' || c == '\n'

/-- The field that is being made, backwards, and whether it exists. -/
structure FieldDraft where
  glyphs : List Glyph
  isThere : Bool

namespace FieldDraft

/-- No field yet. -/
def none : FieldDraft := ⟨[], false⟩

/-- The fields of a draft. -/
def close (draft : FieldDraft) : List (List Glyph) :=
  if draft.isThere || !draft.glyphs.isEmpty then [draft.glyphs.reverse] else []

end FieldDraft

/-- Where the cutting of a word is. -/
inductive CutPlace
  | within
  /-- Behind a separator; if it was a blank, one other separator may follow. -/
  | behind (blank : Bool)

/-- The fields that a separator ends, and how the cutting goes on behind it. -/
def FieldDraft.cut
    (draft : FieldDraft)
    (place : CutPlace)
    (blank : Bool) :
    List (List Glyph) × CutPlace × FieldDraft :=
  match place with
  | .behind wasBlank =>
      if blank then ([], place, draft)
      else if wasBlank then ([], .behind false, draft)
      else ([[]], .behind false, .none)
  | .within =>
      if draft.isThere || !draft.glyphs.isEmpty then (draft.close, .behind blank, .none)
      else if blank then ([], place, draft)
      else ([[]], .behind false, .none)

/-- Cuts bits into fields. -/
def fieldsOf
    (separators : List Char) :
    CutPlace → FieldDraft → List Bit → List (List Glyph)
  | _, draft, [] => draft.close
  | _, draft, .boundary false :: bits =>
      draft.close ++ fieldsOf separators .within .none bits
  | place, draft, .boundary true :: bits =>
      let (fields, place, draft) := draft.cut place true
      fields ++ fieldsOf separators place draft bits
  | _, draft, .seam :: bits => fieldsOf separators .within draft bits
  | _, draft, .quotes :: bits => fieldsOf separators .within { draft with isThere := true } bits
  | place, draft, .octet glyph loose :: bits =>
      if loose && separators.contains glyph.octet then
        let (fields, place, draft) := draft.cut place (isBlankSeparator glyph.octet)
        fields ++ fieldsOf separators place draft bits
      else
        fieldsOf separators .within { draft with glyphs := glyph :: draft.glyphs } bits

/-- The parts of a pattern between slashes. -/
def patternSteps : List Glyph → List (List Glyph)
  | [] => [[]]
  | glyph :: glyphs =>
      if glyph.octet = '/' then [] :: patternSteps glyphs
      else
        match patternSteps glyphs with
        | step :: steps => (glyph :: step) :: steps
        | [] => [[glyph]]

/-- The names in a folder that fit a pattern.  A leading point has to be written out. -/
def fittingNames
    (state : State)
    (folder : Octets)
    (pattern : List Glyph) :
    List Octets :=
  let path := if folder.isEmpty then state.folder else state.pathOf folder
  match state.tree.readFolder path with
  | .error _ => []
  | .ok items =>
      let all := ["."].append (".." :: items.map Prod.fst)
      (all.map octets).filter fun name =>
        fits pattern name && (name.head? != some '.' || pattern.head?.any (·.octet == '.'))

/-- The paths that fit the steps of a pattern behind what is already found. -/
def fittingPaths
    (state : State) :
    (found : Octets) → List (List Glyph) → List Octets
  | found, [] => [found]
  | found, [step] =>
      if hasWild step then (fittingNames state found step).map (found ++ ·)
      else
        let path := found ++ bareOctets step
        match state.tree.locate .keep (state.pathOf path) with
        | .ok (.found ..) => [path]
        | _ => []
  | found, step :: steps =>
      if hasWild step then
        (fittingNames state found step).flatMap fun name =>
          let path := found ++ name
          match state.tree.entryAt (state.pathOf path) with
          | .ok (_, .folder) => fittingPaths state (path ++ ['/']) steps
          | _ => []
      else fittingPaths state (found ++ bareOctets step ++ ['/']) steps

/-- The fields that a field gives way to: the files that fit it in their order, or itself. -/
def globbed
    (state : State)
    (field : List Glyph) :
    List Octets :=
  if state.has 'f' || !hasWild field then [bareOctets field]
  else
    let paths := fittingPaths state [] (patternSteps field)
    if paths.isEmpty then [bareOctets field]
    else paths.mergeSort fun a b => String.ofList a ≤ String.ofList b

/-- Runs a command on its own and gives what it prints. -/
abbrev Substitution := Command → Act Octets

/-- The home folder of a user, behind a tilde. -/
def homeOf
    (state : State)
    (user : Octets) :
    Option Octets :=
  if user.isEmpty then state.value? "HOME".toList
  else if String.ofList user = "root" then some "/root".toList
  else none

/-- Replaces a tilde and the name of a user at the front of a text by a home folder.  Where
the text goes on in quotes or with a value, the name has to end at a slash before. -/
def withHome
    (state : State)
    (goesOn : Bool)
    (s : Octets) :
    List Bit :=
  match s with
  | '~' :: rest =>
      let user := rest.takeWhile (· != '/')
      let home? := if goesOn && user.length = rest.length then none else homeOf state user
      match home? with
      | some home => bitsOf true false home ++ bitsOf false false (rest.drop user.length)
      | none => bitsOf false false s
  | s => bitsOf false false s

/-- The parts of an assigned value between colons, tildes at their fronts replaced. -/
def withHomes
    (state : State)
    (goesOn : Bool) :
    List Octets → List Bit
  | [] => []
  | [part] => withHome state goesOn part
  | part :: parts =>
      withHome state false part ++ bitsOf false false [':'] ++ withHomes state goesOn parts

/-- The value of a parameter that is not set of several. -/
def State.parameter?
    (state : State)
    (name : Octets) :
    Option Octets :=
  match name with
  | ['?'] => some (toString state.status).toList
  | ['#'] => some (toString state.parameters.length).toList
  | ['$'] => some (toString state.own).toList
  | ['-'] => some state.options
  | ['!'] =>
      state.lastStarted.map fun number => (toString (firstProcess + number)).toList
  | _ =>
      if name.all Char.isDigit then
        match decimalValue name with
        | 0 => some state.name
        | n + 1 => state.parameters[n]?
      else state.value? name

/-- Whether a name stands for all parameters. -/
def isAll (name : Octets) : Bool :=
  name == ['@'] || name == ['*']

/-- What joins all parameters in one text. -/
def State.joint (state : State) : Octets :=
  match state.value? "IFS".toList with
  | some ifs => ifs.take 1
  | none => [' ']

/-- The parts of the value of a parameter that is set.  All parameters are parts of their
own where words are cut, unless they are joined by quotes or by want of separators. -/
def State.valueParts?
    (state : State)
    (quoted cutting : Bool)
    (name : Octets) :
    Option (List Octets) :=
  if isAll name then
    let apart := if quoted then name == ['@'] else (state.value? "IFS".toList).isSome
    some (if cutting && apart then state.parameters
      else [state.joint.intercalate state.parameters])
  else (state.parameter? name).map ([·])

/-- The bits of a value in parts. -/
def partBits
    (quoted : Bool)
    (parts : List Octets) :
    List Bit :=
  let each := parts.map fun part =>
    (if quoted then [Bit.quotes] else []) ++ bitsOf quoted (!quoted) part
  [Bit.boundary (!quoted)].intercalate each ++ [.seam]

/-- How words are expanded. -/
structure Manner where
  /-- The word is cut into fields later, so all parameters are fields of their own. -/
  cutting : Bool
  /-- It is the value of an assignment. -/
  assigning : Bool

/-- The complaint that a parameter is not set. -/
def requireSet
    (name : Octets)
    (value : Option (List Octets)) :
    Act (List Octets) := do
  match value with
  | some parts => return parts
  | none =>
      if (← get).has 'u' then abort 2 (name ++ ": parameter not set".toList)
      else return [[]]

mutual

/-- Expands a piece behind bits. -/
def expandPiece
    (substitute : Substitution)
    (manner : Manner)
    (before : List Bit)
    (isFirst goesOn : Bool) :
    Piece → Act (List Bit)
  | .text true [] => return before ++ [.quotes]
  | .text true s => return before ++ bitsOf true false s
  | .text false s => do
      let state ← get
      let parts := if manner.assigning then s.splitOn ':' else [s]
      return before ++
        if isFirst then withHomes state goesOn parts
        else
          match parts with
          | first :: second :: rest =>
              bitsOf false false (first ++ [':']) ++ withHomes state goesOn (second :: rest)
          | _ => bitsOf false false s
  | .parameter quoted name => do
      let parts ← requireSet name ((← get).valueParts? quoted manner.cutting name)
      return before ++ partBits quoted parts
  | .size quoted name => do
      let parts ← requireSet name ((← get).valueParts? quoted false name)
      return before ++ partBits quoted [(toString parts.flatten.length).toList]
  | .senseless => abort 2 "Bad substitution".toList
  | .changed quoted name full change argument => do
      let state ← get
      let parts? := state.valueParts? quoted manner.cutting name
      let isSetAs := fun parts? : Option (List Octets) =>
        parts?.any fun parts => !full || !([' '].intercalate parts).isEmpty
      let isSet := isSetAs parts?
      let unchanged := before ++ partBits quoted (parts?.getD [])
      let expanded : Act (List Bit) := do
        let bits ← expandPieces substitute { manner with assigning := false } [] true argument
        return before ++ bits.map fun
          | .octet glyph loose => .octet glyph (loose || (!glyph.quoted && !quoted))
          | bit => bit
      match change with
      | .default => if isSet then return unchanged else expanded
      | .alternative =>
          if isSetAs (state.valueParts? quoted false name) then expanded else return before
      | .assign =>
          if isSet then return unchanged
          else do
            let bits ← expandPieces substitute ⟨false, false⟩ [] true argument
            if isName name then assign name (textOf bits) false
            else abort 2 (name ++ ": bad variable name".toList)
            return before ++ bitsOf quoted (!quoted) (textOf bits)
      | .require =>
          if isSet then return unchanged
          else do
            let bits ← expandPieces substitute ⟨false, false⟩ [] true argument
            abort 2 (name ++ ": ".toList ++
              if !argument.isEmpty then textOf bits
              else if full then "parameter not set or null".toList
              else "parameter not set".toList)
      | .cut front longest => do
          let parts ← requireSet name parts?
          let pattern ← expandPieces substitute ⟨false, false⟩ [] true argument
          return before ++ partBits quoted (cutParts front longest (glyphsOf pattern) parts)
  | .output quoted body => do
      let text ← substitute body
      return before ++ partBits quoted [text]
  | .arithmetic quoted expression => do
      let bits ← expandPieces substitute ⟨false, false⟩ [] false expression
      let state ← get
      match evaluate (fun name => (state.parameter? name).getD []) (textOf bits) with
      | .ok (n, given) => do
          for (name, value) in given do
            assign name (toString value.toInt).toList false
          return before ++ partBits quoted [(toString n.toInt).toList]
      | .error .overflow => throw (.replaced (.signal 8))
      | .error fault => abort 2 (fault.words (textOf bits))

/-- Expands pieces behind bits. -/
def expandPieces
    (substitute : Substitution)
    (manner : Manner)
    (before : List Bit) :
    (isFirst : Bool) → List Piece → Act (List Bit)
  | _, [] => return before
  | isFirst, piece :: pieces => do
      let bits ← expandPiece substitute manner before isFirst (!pieces.isEmpty) piece
      expandPieces substitute manner bits false pieces

end

/-- Expands a word that stays one text. -/
def expandText
    (substitute : Substitution)
    (word : Word) :
    Act Octets := do
  return textOf (← expandPieces substitute ⟨false, false⟩ [] true word)

/-- Expands the value of an assignment. -/
def expandValue
    (substitute : Substitution)
    (word : Word) :
    Act Octets := do
  return textOf (← expandPieces substitute ⟨false, true⟩ [] true word)

/-- Expands a text that `<<` announced. -/
def expandDocument
    (substitute : Substitution)
    (word : Word) :
    Act Octets := do
  return textOf (← expandPieces substitute ⟨false, false⟩ [] false word)

/-- Expands a word to a pattern. -/
def expandPattern
    (substitute : Substitution)
    (word : Word) :
    Act (List Glyph) := do
  return glyphsOf (← expandPieces substitute ⟨false, false⟩ [] true word)

/-- Expands a word to fields. -/
def expandFields
    (substitute : Substitution)
    (word : Word) :
    Act (List Octets) := do
  let bits ← expandPieces substitute ⟨true, false⟩ [] true word
  let state ← get
  return (fieldsOf state.separators .within .none bits).flatMap (globbed state)

end Shell
end CaptureKit
