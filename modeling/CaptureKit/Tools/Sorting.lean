import CaptureKit.Tools.SortKey

/-!
# The tool that sorts lines

The lines of all operands are sorted together, merged as if each operand were sorted, or
checked for their order.  Main statement: sorting keeps the lines (`sortLines_perm`).
-/

namespace CaptureKit
namespace Tools

open Storage Text

/-- The lines in their order. -/
def sortLines
    (order : SortOrder)
    (lines : List Octets) :
    List Octets :=
  lines.mergeSort fun a b => compareLines order a b != .gt

/-- Sorting keeps the lines. -/
theorem sortLines_perm
    (order : SortOrder)
    (lines : List Octets) :
    (sortLines order lines).Perm lines :=
  List.mergeSort_perm lines _

/-- The least of the first lines of some texts, of equal ones the first, and what is left. -/
def leastFirst
    (order : SortOrder) :
    List (List Octets) → Option (Octets × List (List Octets))
  | [] => none
  | [] :: texts => leastFirst order texts
  | (line :: lines) :: texts =>
      match leastFirst order texts with
      | none => some (line, [lines])
      | some (least, others) =>
          if compareLines order least line = .lt then some (least, (line :: lines) :: others)
          else some (line, lines :: texts)

/-- Lines of texts, always the least of the first ones; `fuel` bounds their number. -/
def mergeLines
    (order : SortOrder) :
    (fuel : Nat) → List (List Octets) → List Octets
  | 0, _ => []
  | fuel + 1, texts =>
      match leastFirst order texts with
      | none => []
      | some (line, texts) => line :: mergeLines order fuel texts

/-- What is asked of the tool. -/
structure SortRequest where
  letters : List Char
  /-- The keys, the last one first. -/
  keys : List SpelledKey
  separator : Option Char
  /-- The letter that asks to check the order. -/
  checking : Option Char
  target : Option Octets
  /-- The file that names the files to sort. -/
  names : Option Octets
  stable : Bool
  unique : Bool
  merging : Bool
  zeroed : Bool
  /-- The keys are shown below their lines. -/
  marking : Bool
  operands : List Octets

/-- Why a request cannot be fulfilled. -/
structure SortFault where
  status : Nat
  words : List Octets
  hints : Bool

/-- A fault in one line. -/
def sortFault (words : Octets) : SortFault := ⟨2, [words], false⟩

/-- How the tool ends at a fault. -/
def SortFault.finish
    (fault : SortFault)
    (call : Call) :
    Finish :=
  let lines := fault.words.flatMap call.complaint
  let hint := if fault.hints then
      "Try '".toList ++ call.name ++ " --help' for more information.\n".toList
    else []
  call.leave fault.status [] (lines ++ hint) call.input

/-- The fault of options that do not go together. -/
def incompatible (letters : Octets) : SortFault :=
  sortFault ("options '-".toList ++ letters ++ "' are incompatible".toList)

/-- The words that say how to sort. -/
def sortChoices : Choices Char :=
  [(["general-numeric"], 'g'), (["human-numeric"], 'h'), (["month"], 'M'), (["numeric"], 'n'),
    (["random"], 'R'), (["version"], 'V')]

/-- The words that say how to check. -/
def checkChoices : Choices Char :=
  [(["quiet", "silent"], 'C'), (["diagnose-first"], 'c')]

/-- The fault of a number that an option takes, with a letter behind it or not. -/
def amountFault?
    (option : String)
    (suffixes : List Char)
    (value : Octets) :
    Option SortFault :=
  let body := value.dropWhile isSpace
  let unsigned := if body.head? = some '+' then body.tail else body
  let digits := unsigned.takeWhile Char.isDigit
  let rest := unsigned.drop digits.length
  let named := option.toList ++ " argument ".toList ++ quotedArgument value
  if digits.isEmpty && !(rest.head?.any suffixes.contains) then
    some (sortFault ("invalid ".toList ++ named))
  else if limit64 ≤ decimalValue digits then some (sortFault (named ++ " too large".toList))
  else
    match rest with
    | [] => none
    | [c] => if suffixes.contains c then none else some (suffixFault named)
    | _ => some (suffixFault named)
where
  /-- The fault of what is behind a number. -/
  suffixFault (named : Octets) : SortFault :=
    sortFault ("invalid suffix in ".toList ++ named)

/-- The letters behind an amount of memory. -/
def memoryLetters : List Char :=
  ['E', 'g', 'G', 'k', 'K', 'm', 'M', 'P', 't', 'T', 'Y', 'Z', 'Q', 'R', 'b', '%']

/-- The request with the order checked. -/
def SortRequest.check
    (request : SortRequest)
    (letter : Char) :
    Except SortFault SortRequest :=
  if request.checking.any (· != letter) then .error (incompatible ['c', 'C'])
  else .ok { request with checking := some letter }

/-- The request with a separator. -/
def SortRequest.separate
    (request : SortRequest)
    (value : Octets) :
    Except SortFault SortRequest := do
  let separator ← match value with
    | [] => .error (sortFault "empty tab".toList)
    | [c] => pure c
    | ['\\', '0'] => pure '\x00'
    | value => .error (sortFault ("multi-character tab ".toList ++ quotedArgument value))
  if request.separator.any (· != separator) then .error (sortFault "incompatible tabs".toList)
  return { request with separator := some separator }

/-- The request with one more operand.  A plus sign in front of a number makes it a key; the
place where that ends may be joined to it by a NUL octet. -/
def SortRequest.operand
    (request : SortRequest)
    (value : Octets) :
    SortRequest :=
  let start := value.takeWhile (·.toNat != 0)
  let ending := value.drop (start.length + 1)
  let key? := match start with
    | '+' :: place => olderKey? place (if ending.isEmpty then none else some ending)
    | _ => none
  match key? with
  | some key => { request with keys := key :: request.keys }
  | none => { request with operands := request.operands ++ [start] }

/-- The request with one more option. -/
def SortRequest.option
    (request : SortRequest)
    (key : String)
    (value : Octets) :
    Except SortFault SortRequest :=
  let refusing := fun fault? : Option SortFault =>
    match fault? with
    | some fault => Except.error fault
    | none => .ok request
  let chosen := fun (choices : Choices Char) (name : String) (word : Octets) =>
    (chooseWord choices name word).mapError fun words => SortFault.mk 1 [words] true
  match key with
  | "sort" => do
      let letter ← chosen sortChoices "--sort" value
      return { request with letters := request.letters ++ [letter] }
  | "check" => do
      let letter ← match value with
        | _ :: word => chosen checkChoices "--check" word
        | [] => pure 'c'
      request.check letter
  | "c" => request.check 'c'
  | "C" => request.check 'C'
  | "k" => do
      let spelled ← (readKey value).mapError sortFault
      return { request with keys := spelled :: request.keys }
  | "t" => request.separate value
  | "o" =>
      if request.target.any (· != value) then
        .error (sortFault "multiple output files specified".toList)
      else .ok { request with target := some value }
  | "S" => refusing (amountFault? "-S" memoryLetters value)
  | "buffer-size" => refusing (amountFault? "--buffer-size" memoryLetters value)
  | "parallel" => do
      let request ← refusing (amountFault? "--parallel" [] value)
      if decimalValue (value.filter Char.isDigit) = 0 then
        .error (sortFault "number in parallel must be nonzero".toList)
      return request
  | "batch-size" => do
      let request ← refusing (amountFault? "--batch-size" [] value)
      if decimalValue (value.filter Char.isDigit) < 2 then
        .error ⟨2, ["invalid --batch-size argument ".toList ++ quotedArgument value,
          "minimum --batch-size argument is '2'".toList], false⟩
      return request
  | "files0-from" => .ok { request with names := some value }
  | "m" => .ok { request with merging := true }
  | "s" => .ok { request with stable := true }
  | "u" => .ok { request with unique := true }
  | "z" => .ok { request with zeroed := true }
  | "debug" => .ok { request with marking := true }
  | key =>
      match key.toList with
      | [c] =>
          .ok (if styleLetters.contains c then { request with letters := request.letters ++ [c] }
            else request)
      | _ => .ok request

/-- The request that arguments make. -/
def sortRequest (items : List Item) : Except SortFault SortRequest :=
  items.foldlM
    (fun request item =>
      match item with
      | .option key value => request.option key value
      | .operand value => .ok (request.operand value))
    ⟨[], [], none, none, none, none, false, false, false, false, false, []⟩

/-- The order that is asked for. -/
def SortRequest.order (request : SortRequest) : SortOrder :=
  let keys := request.keys.reverse.map (·.under request.letters)
  let whole : SortKey := ⟨⟨0, 0, request.letters.contains 'b'⟩, none, ⟨request.letters⟩⟩
  let keys := if keys.isEmpty && request.letters.any (· != 'r') then [whole] else keys
  ⟨request.separator, keys, request.letters.contains 'r', request.stable || request.unique⟩

/-- The fault of a request whose options do not go together. -/
def SortRequest.fault? (request : SortRequest) : Option SortFault :=
  match request.order.keys.findSome? fun key => clashing key.style.letters with
  | some letters => some (incompatible letters)
  | none =>
      if request.marking && (request.checking.isSome || request.target.isSome) then
        some (incompatible (request.checking.getD 'o' :: " --debug".toList))
      else
        match request.checking, request.operands, request.target with
        | some letter, _ :: extra :: _, _ =>
            some (sortFault ("extra operand ".toList ++ quotedArgument extra ++
              " not allowed with -".toList ++ [letter]))
        | some letter, _, some _ => some (incompatible [letter, 'o'])
        | _, _, _ => none

/-- The files that a file names, or why they cannot be sorted, and the input that is left. -/
def namedOperands
    (call : Call)
    (names : Octets)
    (operands : List Octets) :
    Except SortFault (List Octets × Octets) := do
  match operands with
  | extra :: _ =>
      .error ⟨2, ["extra operand ".toList ++ quotedArgument extra ++
        "\nfile operands cannot be combined with --files0-from".toList], true⟩
  | [] => do
      let (source, unread) := (sources call [names])
      let content ← match source.map Prod.snd with
        | [.ok content] => pure content
        | [.error fault] =>
            .error (sortFault (if fault.isOfReading then
              nameIfPlain names ++ ": read error: ".toList ++ plainWords fault
              else "open failed: ".toList ++ complainPlainly names fault))
        | _ => pure []
      let found := zeroLines content
      if found.isEmpty then
        .error (sortFault ("no input from ".toList ++ quotedName names))
      if names = ['-'] ∧ found.contains ['-'] then
        .error (sortFault
          "when reading file names from stdin, no file name of '-' allowed".toList)
      match found.findIdx? (·.isEmpty) with
      | some index =>
          .error (sortFault (nameIfPlain names ++ ':' :: (toString (index + 1)).toList ++
            ": invalid zero-length file name".toList))
      | none => return (found, unread)

/-- What is wrong with sources: one that cannot be opened, or else one that cannot be read. -/
def sourceFault?
    (checking merging : Bool)
    (sources : List Source) :
    Option SortFault :=
  let faults := sources.filterMap fun source =>
    match source.2 with
    | .ok _ => none
    | .error fault => some (source.1, fault)
  let (unread, others) := faults.partition fun fault => fault.2.isOfReading
  match others, unread with
  | (name, fault) :: _, _ =>
      some (sortFault ((if checking then "open failed: " else "cannot read: ").toList ++
        complainPlainly name fault))
  | [], (name, fault) :: _ =>
      let isSized := fault = .os .badDescriptor ∧ ¬ checking ∧ ¬ merging
      some (sortFault ((if isSized then "stat failed: " else "read failed: ").toList ++
        complainPlainly name fault))
  | [], [] => none

/-- The first line, with its number, that is out of order. -/
def disorder
    (wrong : Octets → Octets → Bool) :
    Nat → List Octets → Option (Nat × Octets)
  | n, a :: b :: rest => if wrong a b then some (n + 1, b) else disorder wrong (n + 1) (b :: rest)
  | _, _ => none

/-- Checks the order of lines. -/
def checkOrder
    (call : Call)
    (request : SortRequest)
    (name : Octets)
    (lines : List Octets)
    (unread : Octets) :
    Finish :=
  let wrong := fun a b =>
    match compareLines request.order a b with
    | .gt => true
    | .eq => request.unique
    | .lt => false
  match disorder wrong 1 lines with
  | none => call.leave 0 [] [] unread
  | some (n, line) =>
      if request.checking = some 'C' then call.leave 1 [] [] unread
      else
        let front := call.name ++ ": ".toList ++ name ++ ':' :: (toString n).toList
        call.leave 1 []
          (front ++ ": disorder: ".toList ++ line ++ [if request.zeroed then '\x00' else '\n'])
          unread

/-- How many octets at the front of a text are a number as it is shown by marks. -/
def markedNumber
    (style : SortStyle)
    (s : Octets) :
    Nat :=
  if style.letters.contains 'M' then if monthOf s = 0 then 0 else 3
  else if style.letters.contains 'g' then
    match FloatingKind.extended.readAt? s with
    | some (_, _, rest) => s.length - rest.length
    | none => 0
  else
    let body := if s.head? = some '-' then s.tail else s
    if !(body.any Char.isDigit) || !(body.head?.any fun c => c.isDigit || c == '.') then 0
    else
      let rest := (sortNumberAt s).2
      let isRounded := style.letters.contains 'h' && suffixRank rest != 0
      s.length - rest.length + if isRounded then 1 else 0

/-- The marks below a line that show a key, or the whole line. -/
def markLine
    (order : SortOrder)
    (line : Octets) :
    Option SortKey → Octets
  | none => marks 0 line.length
  | some key =>
      let found := key.of order.separator line
      let part := fromPlace order.separator key.start line
      let isNumber := ['n', 'g', 'h', 'M'].any key.style.letters.contains
      let rest := if isNumber then found.dropWhile isFieldBlank else found
      let width := if isNumber then markedNumber key.style rest else rest.length
      marks (line.length - part.length + (found.length - rest.length)) width
where
  /-- Blanks, and marks behind them. -/
  marks (offset width : Nat) : Octets :=
    List.replicate offset ' ' ++
      (if width = 0 then "^ no match for key\n".toList
        else List.replicate width '_' ++ ['\n'])

/-- A line with all its marks. -/
def underlinedLine
    (order : SortOrder)
    (line : Octets) :
    Octets :=
  let shown := line.map fun c => if c = '\t' then '>' else c
  let keys := order.keys.map some ++ if order.stable && !order.keys.isEmpty then [] else [none]
  shown ++ '\n' :: keys.flatMap (markLine order line)

/-- The fault of a target that cannot be written. -/
def closedTarget
    (target : Octets)
    (fault : IoFault) :
    SortFault :=
  sortFault ("open failed: ".toList ++ complainPlainly target fault)

/-- Sorts or merges lines and writes them. -/
def sortTexts
    (call : Call)
    (request : SortRequest)
    (texts : List (List Octets))
    (unread : Octets) :
    Finish :=
  let order := request.order
  let sorted := if request.merging then mergeLines order (texts.flatten.length) texts
    else sortLines order texts.flatten
  let same := fun a b =>
    if order.keys.isEmpty then a == b else compareKeys order a b == .eq
  let kept := if request.unique then (groups same sorted).map (·.headD []) else sorted
  let output :=
    if request.marking then kept.flatMap (underlinedLine order)
    else if request.zeroed then kept.flatMap (· ++ ['\x00'])
    else unlines kept
  match request.target with
  | none => call.leave 0 output [] unread
  | some target =>
      match writeOperand call target output false with
      | .ok tree => { call.leave 0 [] [] unread with tree := tree }
      | .error fault => (closedTarget target fault).finish call

/-- Sorts, merges or checks what is asked for. -/
def sortAsked
    (call : Call)
    (request : SortRequest) :
    Except SortFault Finish := do
  let (operands, input) ← match request.names with
    | some names => namedOperands call names request.operands
    | none => pure (request.operands, call.input)
  match request.fault? with
  | some fault => .error fault
  | none => do
      let call := { call with input := input }
      let (sources, unread) := sources call operands
      let lines := if request.zeroed then zeroLines else bareLines
      let texts := sources.map fun source => lines (source.2.toOption.getD [])
      match sourceFault? request.checking.isSome request.merging sources with
      | some fault => return { fault.finish call with tree := ← opened call fault }
      | none =>
          if request.checking.isSome then
            return checkOrder call request (operands.headD ['-']) texts.flatten unread
          else
            let finish := sortTexts call request texts unread
            if call.refusal = some .badDescriptor && operands.all (· == ['-']) &&
                !(finish.written .output).isEmpty then
              return call.leave 2 [] (closedOutput call) unread
            else return finish
where
  /-- The complaint about an output that is closed, when no file was opened in its place. -/
  closedOutput (call : Call) : Octets :=
    let words := plainWords (.os .badDescriptor)
    call.complaint ("fflush failed: 'standard output': ".toList ++ words) ++
      call.complaint ("write error: ".toList ++ words)
  /-- The files after the target was opened, which comes before the first source is read. -/
  opened (call : Call) (fault : SortFault) : Except SortFault FileTree :=
    match request.target with
    | some target =>
        if fault.words.any ("cannot read".toList.isPrefixOf ·) then .ok call.tree
        else (writeOperand call target [] true).mapError (closedTarget target)
    | none => .ok call.tree

/-- The options of the tool that sorts. -/
def sortForms : List Switch :=
  [flag 'b' "ignore-leading-blanks", flag 'c' "", flag 'C' "", named "check" .perhaps,
    named "compress-program" .value, named "debug" .nothing, flag 'd' "dictionary-order",
    flag 'f' "ignore-case", named "files0-from" .value, flag 'g' "general-numeric-sort",
    flag 'i' "ignore-nonprinting", valued 'k' "key", flag 'm' "merge", flag 'M' "month-sort",
    flag 'n' "numeric-sort", flag 'h' "human-numeric-sort", flag 'V' "version-sort",
    flag 'R' "random-sort", named "random-source" .value, named "sort" .value,
    valued 'o' "output", flag 'r' "reverse", flag 's' "stable", named "batch-size" .value,
    named "buffer-size" .value, valued 'S' "", valued 't' "field-separator",
    valued 'T' "temporary-directory", flag 'u' "unique", flag 'z' "zero-terminated",
    valued 'y' "", named "parallel" .value, named "help" .nothing, named "version" .nothing]

/-- Arguments with the two places of a key in the older spelling joined, and without an option
that takes only a number if something else follows it. -/
def joinedPlaces : List Octets → List Octets
  | ['-', '-'] :: rest => ['-', '-'] :: rest
  | ['-', 'y'] :: value :: rest =>
      if value.all Char.isDigit then joinedPlaces rest else joinedPlaces (value :: rest)
  | ('+' :: start) :: ('-' :: c :: ending) :: rest =>
      if c.isDigit && start.head?.any Char.isDigit then
        ('+' :: start ++ '\x00' :: c :: ending) :: joinedPlaces rest
      else ('+' :: start) :: joinedPlaces (('-' :: c :: ending) :: rest)
  | argument :: rest => argument :: joinedPlaces rest
  | [] => []

/-- Sorts lines. -/
def sort : Tool := fun call =>
  let (items, fault) := readItems sortForms false none (joinedPlaces call.arguments)
  match sortRequest items, fault with
  | .error fault, _ => fault.finish call
  | .ok _, some fault => call.misused 2 fault.words
  | .ok request, none =>
      match sortAsked call request with
      | .ok finish => finish
      | .error fault => fault.finish call

end Tools
end CaptureKit
