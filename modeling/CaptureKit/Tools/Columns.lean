import CaptureKit.Tools.Sorting

/-!
# Tools on columns

`cut` cuts columns out of lines, `paste` puts lines side by side, `fold` breaks long lines,
and `rev` turns lines round.
-/

namespace CaptureKit
namespace Tools

open Storage Text

/-- A range of positions, counted from one; without an end it goes on for ever. -/
structure Span where
  first : Nat
  last : Option Nat

/-- The position is in the range. -/
def Span.has
    (span : Span)
    (position : Nat) :
    Bool :=
  span.first ≤ position && span.last.all (position ≤ ·)

/-- Reads a range such as `3`, `3-5`, `3-` or `-5`. -/
def readSpan
    (byFields : Bool)
    (s : Octets) :
    Except Octets Span :=
  let fromOne := (if byFields then "fields" else "byte/character positions").toList ++
    " are numbered from 1".toList
  let low := s.takeWhile Char.isDigit
  match s.drop low.length with
  | [] =>
      if low.isEmpty || decimalValue low = 0 then .error fromOne
      else .ok ⟨decimalValue low, some (decimalValue low)⟩
  | '-' :: high =>
      if low.isEmpty && high.isEmpty then .error "invalid range with no endpoint: -".toList
      else if !high.all Char.isDigit then .error (invalid s)
      else if !low.isEmpty && decimalValue low = 0 then .error fromOne
      else if high.isEmpty then .ok ⟨decimalValue low, none⟩
      else if decimalValue high < decimalValue low || decimalValue high = 0 then
        .error "invalid decreasing range".toList
      else .ok ⟨max 1 (decimalValue low), some (decimalValue high)⟩
  | _ => .error (invalid s)
where
  /-- The complaint about something else than a range. -/
  invalid (s : Octets) : Octets :=
    (if byFields then "invalid field value " else "invalid byte/character position ").toList ++
      quotedArgument s

/-- Reads a list of ranges with commas or blanks between them. -/
def readSpans
    (byFields : Bool)
    (s : Octets) :
    Except Octets (List Span) :=
  ((s.map fun c => if c = ' ' ∨ c = '\t' then ',' else c).splitOn ',').mapM (readSpan byFields)

/-- What is cut out of lines. -/
structure CutRequest where
  byFields : Bool
  spans : List Span
  delimiter : Char
  /-- What joins the parts. -/
  joint : Octets
  complemented : Bool
  /-- Lines without a delimiter are left out. -/
  strict : Bool

/-- The position is wanted. -/
def CutRequest.selects
    (request : CutRequest)
    (position : Nat) :
    Bool :=
  request.spans.any (·.has position) != request.complemented

/-- The items at wanted positions, in runs of neighbours. -/
def selectedRuns
    {α : Type}
    (selects : Nat → Bool)
    (position : Nat) :
    List α → List (List α)
  | [] => []
  | item :: items =>
      let runs := selectedRuns selects (position + 1) items
      if !selects position then runs
      else if selects (position + 1) && !items.isEmpty then
        match runs with
        | run :: runs => (item :: run) :: runs
        | [] => [[item]]
      else [item] :: runs

/-- The parts of a line that are wanted; none if the line is left out. -/
def CutRequest.apply
    (request : CutRequest)
    (line : Octets) :
    List Octets :=
  if request.byFields then
    if line.contains request.delimiter then
      let fields := (line.splitOn request.delimiter)
      [request.joint.intercalate (selectedRuns request.selects 1 fields).flatten]
    else if request.strict then [] else [line]
  else [request.joint.intercalate (selectedRuns request.selects 1 line)]

/-- What the options of `cut` ask for. -/
def cutRequest (arguments : Arguments) : Except Octets CutRequest := do
  let lists := arguments.options.filter fun option => ["b", "c", "f"].contains option.1
  match lists with
  | [] => .error "you must specify a list of bytes, characters, or fields".toList
  | [(key, list)] =>
      let byFields := key = "f"
      let delimiter ← match arguments.value? "d" with
        | none => pure '\t'
        | some [c] => pure c
        | some [] => pure '\x00'
        | some _ => .error "the delimiter must be a single character".toList
      if !byFields && arguments.has "d" then
        .error "an input delimiter may be specified only when operating on fields".toList
      if !byFields && arguments.has "s" then
        .error ("suppressing non-delimited lines makes sense\n".toList ++
          "\tonly when operating on fields".toList)
      let spans ← readSpans byFields list
      return {
        byFields
        spans
        delimiter
        joint := (arguments.value? "output-delimiter").getD (if byFields then [delimiter] else [])
        complemented := arguments.has "complement"
        strict := arguments.has "s" }
  | _ => .error "only one list may be specified".toList

/-- Cuts fields or octets out of lines. -/
def cut : Tool :=
  .withOptions
    [valued 'b' "bytes", valued 'c' "characters", valued 'f' "fields", valued 'd' "delimiter",
      flag 's' "only-delimited", flag 'n' "", flag 'z' "zero-terminated",
      named "complement" .nothing, named "output-delimiter" .value] 1
    fun call arguments =>
      match cutRequest arguments with
      | .error words => call.misused 1 words
      | .ok request =>
          filterTool complainPlainly
            (fun s => unlines ((bareLines s).flatMap request.apply)) call arguments.operands

/-- The delimiters of `paste`, each of one octet at most. -/
def pasteDelimiters : Octets → List Octets
  | '\\' :: 'n' :: rest => ['\n'] :: pasteDelimiters rest
  | '\\' :: 't' :: rest => ['\t'] :: pasteDelimiters rest
  | '\\' :: '0' :: rest => [] :: pasteDelimiters rest
  | '\\' :: c :: rest => [c] :: pasteDelimiters rest
  | c :: rest => [c] :: pasteDelimiters rest
  | [] => []

/-- Joins items, the delimiters between them taken in turn. -/
def joinInTurn
    (delimiters : List Octets)
    (items : List Octets) :
    Octets :=
  (items.mapIdx fun i item =>
    (if i = 0 then [] else (delimiters[(i - 1) % delimiters.length]?).getD []) ++ item).flatten

/-- The columns that operands stand for: each dash takes the next line of the input. -/
def pasteColumns
    (dashes : Nat)
    (columns : List (Bool × List Octets)) :
    Nat → List (List Octets)
  | 0 => []
  | rows + 1 =>
      columns.map (fun column => column.2.headD []) ::
        pasteColumns dashes
          (columns.map fun column => (column.1, column.2.drop (if column.1 then dashes else 1))) rows

/-- Puts the lines of files side by side, or behind each other. -/
def paste : Tool :=
  .withOptions [valued 'd' "delimiters", flag 's' "serial", flag 'z' "zero-terminated"] 1
    fun call arguments =>
      let operands := if arguments.operands.isEmpty then [['-']] else arguments.operands
      let delimiters := match (arguments.value? "d").map pasteDelimiters with
        | none => [['\t']]
        | some [] => [[]]
        | some delimiters => delimiters
      let (sources, unread) := sources call operands
      let ending := closingWords call sources
      let complaints := complaintsOn call complainPlainly sources ++ ending
      if arguments.has "s" then
        call.inOrder (statusOf sources)
          (inTurn call complainPlainly
            (fun _ s => joinInTurn delimiters (bareLines s) ++ ['\n']) sources ++
            [(.complaints, ending)]) unread
      else if sources.any fun source =>
          match source.2 with
          | .error fault => !fault.isOfReading
          | .ok _ => false then
        call.leave 1 [] complaints unread
      else
        let input := bareLines call.input
        let dashes := (operands.filter (isInput call)).length
        let columns := sources.mapIdx fun i source =>
          if isInput call source.1 then
            (true, input.drop ((operands.take i).filter (isInput call)).length)
          else (false, bareLines (source.2.toOption.getD []))
        let rows := (columns.map fun column =>
          if column.1 then (column.2.length + dashes - 1) / max 1 dashes
          else column.2.length).foldl max 0
        call.leave (statusOf sources)
          ((pasteColumns dashes columns rows).flatMap fun row =>
            joinInTurn delimiters row ++ ['\n'])
          complaints unread

/-- A line broken into parts of a width, behind blanks if possible. -/
def foldLine
    (width : Nat)
    (atBlanks : Bool) :
    (fuel : Nat) → Octets → List Octets
  | 0, line => [line]
  | fuel + 1, line =>
      if line.length ≤ width then [line]
      else
        let part := line.take width
        let kept := (part.reverse.dropWhile fun c => c != ' ' && c != '\t').reverse
        let part := if atBlanks && !kept.isEmpty then kept else part
        part :: foldLine width atBlanks fuel (line.drop part.length)

/-- Breaks long lines. -/
def fold : Tool :=
  .withOptions [flag 'b' "bytes", flag 's' "spaces", valued 'w' "width"] 1
    fun call arguments =>
      let value := (arguments.value? "w").getD "80".toList
      match decimal? value with
      | none | some 0 =>
          call.failed 1 ("invalid number of columns: ".toList ++ quotedArgument value)
      | some width =>
          filterTool complainPlainly
            (fun s => (fullLines s).flatMap fun line =>
              let bare := line.takeWhile (· != '\n')
              ['\n'].intercalate (foldLine width (arguments.has "s") bare.length bare) ++
                line.drop bare.length)
            call arguments.operands

/-- Turns each line round. -/
def rev : Tool :=
  .withOptions [] 1 fun call arguments =>
    let call :=
      if call.inputFault.isSome then
        { call with
          inputFault := none
          streams := (0, .pipe []) :: call.streams }
      else call
    filterTool
      (fun source fault =>
        if fault = .os .isFolder then source ++ ": ".toList ++ plainWords fault
        else "cannot open ".toList ++ source ++ ": ".toList ++ plainWords fault)
      (fun s => (fullLines s).flatMap fun line =>
        let bare := line.takeWhile (· != '\n')
        bare.reverse ++ line.drop bare.length)
      call arguments.operands

end Tools
end CaptureKit
