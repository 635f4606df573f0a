import CaptureKit.Tools.Options

/-!
# Tools that copy their input

`cat` copies files to the output one after the other, perhaps with numbers in front of
the lines and with marks for what does not show; `tee` copies the input to files as well.
-/

namespace CaptureKit
namespace Tools

open Storage Text

/-- Digits at the right end of a column. -/
def rightAligned
    (width n : Nat) :
    Octets :=
  let digits := (toString n).toList
  List.replicate (width - digits.length) ' ' ++ digits

/-- How an octet that does not show is marked. -/
def caretMark (c : Char) : Octets :=
  let low := fun n : Nat =>
    if n < 32 then ['^', Char.ofNat (n + 64)]
    else if n = 127 then ['^', '?']
    else [Char.ofNat n]
  if c.toNat < 128 then low c.toNat else 'M' :: '-' :: low (c.toNat - 128)

/-- What is changed while copying. -/
structure CopyStyle where
  numbersAll : Bool
  numbersFilled : Bool
  squeezes : Bool
  marksEnds : Bool
  marksTabs : Bool
  marksOthers : Bool

/-- How far copying has come: the number of the last line, the number of empty lines just
before, and whether a line begins. -/
structure CopyState where
  number : Nat
  empty : Nat
  atStart : Bool

/-- Copies octets. -/
def copyStyled
    (style : CopyStyle) :
    CopyState → Octets → Octets × CopyState
  | state, [] => ([], state)
  | state, c :: rest =>
      if state.atStart && c == '\n' && style.squeezes && 0 < state.empty then
        copyStyled style { state with empty := state.empty + 1 } rest
      else
        let numbered := state.atStart &&
          ((style.numbersAll && !style.numbersFilled) || (style.numbersFilled && c != '\n'))
        let number := if numbered then state.number + 1 else state.number
        let front := if numbered then rightAligned 6 number ++ ['\t'] else []
        let shown :=
          if c = '\n' then if style.marksEnds then ['$', '\n'] else ['\n']
          else if c = '\t' then if style.marksTabs then ['^', 'I'] else ['\t']
          else if c = '\r' ∧ style.marksEnds ∧ rest.head? = some '\n' then ['^', 'M']
          else if style.marksOthers then caretMark c
          else [c]
        let next : CopyState :=
          ⟨number, if c = '\n' ∧ state.atStart then state.empty + 1 else 0, c == '\n'⟩
        let (more, last) := copyStyled style next rest
        (front ++ shown ++ more, last)

/-- Copies sources in turn.  A source that the output goes to would never end. -/
def copySources
    (call : Call)
    (style : CopyStyle) :
    CopyState → List Source → List (Stream × Octets) × Bool
  | _, [] => ([], true)
  | state, (name, .error fault) :: rest =>
      let (pieces, _) := copySources call style state rest
      (complainOf call complainPlainly name fault :: pieces, false)
  | state, (name, .ok content) :: rest =>
      let location :=
        if isInput call name then call.placeOf 0 else (call.entry name).toOption.map (·.1)
      let isOutput := !content.isEmpty &&
        location.any fun location => (call.placeOf 1).any (call.tree.areSame location)
      if isOutput then
        let (pieces, _) := copySources call style state rest
        ((.complaints, call.complaint (nameIfPlain name ++
          ": input file is output file".toList)) :: pieces, false)
      else
        let (copied, state) := copyStyled style state content
        let (pieces, complete) := copySources call style state rest
        ((.output, copied) :: pieces, complete)

/-- Copies files to the output. -/
def cat : Tool :=
  .withOptions
    [flag 'b' "number-nonblank", flag 'n' "number", flag 's' "squeeze-blank",
      flag 'v' "show-nonprinting", flag 'E' "show-ends", flag 'T' "show-tabs",
      flag 'A' "show-all", flag 'e' "", flag 't' "", flag 'u' ""] 1
    fun call arguments =>
      if call.refusal = some .badDescriptor then
        call.failed 1 ("standard output: ".toList ++ plainWords (.os .badDescriptor))
      else
      let asked := fun keys : List String => keys.any arguments.has
      let style : CopyStyle := ⟨arguments.has "n", arguments.has "b", arguments.has "s",
        asked ["A", "e", "E"], asked ["A", "t", "T"], asked ["A", "e", "t", "v"]⟩
      let (sources, unread) := sources call arguments.operands
      let (pieces, complete) := copySources call style ⟨0, 0, true⟩ sources
      let ending := if call.closed && sources.any (·.1 == ['-'])
        then call.complaint ("closing standard input: ".toList ++ plainWords (.os .badDescriptor))
        else []
      call.inOrder (if complete then 0 else 1) (pieces ++ [(.complaints, ending)]) unread

/-- Writes octets to the file that an operand names. -/
def writeOperand
    (call : Call)
    (operand : Octets)
    (content : Octets)
    (appending : Bool) :
    Except IoFault FileTree := do
  let before ← if appending then
      match call.entry operand with
      | .ok (_, .file content) => pure content
      | _ => pure []
    else pure []
  call.withFile operand (before ++ bytesOf content)

/-- Copies the input to files, the ones that cannot be written left out. -/
def teeInto
    (appending : Bool)
    (call : Call) :
    List Octets → List (Stream × Octets) × FileTree
  | [] => ([], call.tree)
  | operand :: operands =>
      match writeOperand call operand call.input appending with
      | .ok tree => teeInto appending { call with tree := tree } operands
      | .error fault =>
          let (pieces, tree) := teeInto appending call operands
          (complainOf call complainPlainly operand fault :: pieces, tree)

/-- Copies the input to the output and to files. -/
def tee : Tool :=
  .withOptions [flag 'a' "append", flag 'i' "ignore-interrupts", flag 'p' ""] 1
    fun call arguments =>
      let isTarget := fun place => arguments.operands.any fun operand =>
        match call.entry operand with
        | .ok (location, _) => call.tree.areSame location place
        | .error _ => false
      let isEmptied := !arguments.has "a" && (call.placeOf 0).any isTarget
      let call := if isEmptied then { call with input := [] } else call
      let (pieces, tree) := teeInto (arguments.has "a") call arguments.operands
      let complaint := match call.inputFault with
        | some error => call.complaint ("read error: ".toList ++ plainWords (.os error))
        | none => []
      let ending := if call.closed
        then call.complaint (sourceName ['-'] ++ ": ".toList ++ plainWords (.os .badDescriptor))
        else []
      { call.inOrder (if pieces.isEmpty && complaint.isEmpty then 0 else 1)
          (pieces ++ [(.output, call.input), (.complaints, complaint ++ ending)]) [] with
        tree := tree }

end Tools
end CaptureKit
