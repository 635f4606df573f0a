import CaptureKit.Tools.Lines
import CaptureKit.Tools.Printing

/-!
# Counting lines, words and octets

`wc` counts what is in each of its operands and adds the counts up.  The numbers stand in
columns that are as wide as the sizes of the files ask for.  Main statement: two texts have
as many lines together as one behind the other (`lines_append`).
-/

namespace CaptureKit
namespace Tools

open Storage Text

/-- The number of words; `inside` says whether one has begun.  What does not show neither
begins nor ends a word. -/
def wordCountFrom
    (inside : Bool)
    (count : Nat) :
    Octets → Nat
  | [] => count
  | c :: s =>
      if isSpace c then wordCountFrom false count s
      else if isShown c then wordCountFrom true (if inside then count else count + 1) s
      else wordCountFrom inside count s

/-- The length of the longest line on a terminal, from a place on a line. -/
def longestFrom
    (place longest : Nat) :
    Octets → Nat
  | [] => max longest place
  | c :: s =>
      if c = '\n' ∨ c = '\r' ∨ c = '\x0c' then longestFrom 0 (max longest place) s
      else if c = '\t' then longestFrom ((place / 8 + 1) * 8) longest s
      else if isShown c then longestFrom (place + 1) longest s
      else longestFrom place longest s

/-- Counts that can be added up. -/
structure Counts where
  lines : Nat
  words : Nat
  octets : Nat
  longest : Nat

namespace Counts

/-- The counts of a text. -/
def of (s : Octets) : Counts :=
  ⟨s.count '\n', wordCountFrom false 0 s, s.length, longestFrom 0 0 s⟩

/-- The counts of two texts together. -/
def add (a b : Counts) : Counts :=
  ⟨a.lines + b.lines, a.words + b.words, a.octets + b.octets, max a.longest b.longest⟩

/-- The counts of several texts together. -/
def total (all : List Counts) : Counts :=
  all.foldl add ⟨0, 0, 0, 0⟩

/-- The lines of two texts add up. -/
theorem lines_append
    (s t : Octets) :
    (of (s ++ t)).lines = ((of s).add (of t)).lines :=
  List.count_append

/-- The counts that are asked for, in their fixed order. -/
def chosen
    (counts : Counts)
    (keys : List String) :
    List Nat :=
  let asked := fun key : String =>
    keys.contains key || (keys.isEmpty && ["l", "w", "c"].contains key)
  (if asked "l" then [counts.lines] else []) ++ (if asked "w" then [counts.words] else []) ++
    (if asked "m" then [counts.octets] else []) ++ (if asked "c" then [counts.octets] else []) ++
    (if asked "L" then [counts.longest] else [])

end Counts

/-- Counts in columns of a width, and the name behind them. -/
def countLine
    (width : Nat)
    (counts : List Nat)
    (name : Octets) :
    Octets :=
  spaced (counts.map (rightAligned width) ++ if name.isEmpty then [] else [name]) ++ ['\n']

/-- When the sum of all counts is shown. -/
inductive Totals
  /-- Below two files and more. -/
  | auto
  | always
  /-- The files themselves are not shown. -/
  | only
  | never
  deriving DecidableEq

/-- The words that say when the sum is shown. -/
def totalChoices : Choices Totals :=
  [(["auto"], .auto), (["always"], .always), (["only"], .only), (["never"], .never)]

/-- The files to count. -/
structure CountedFiles where
  names : List Octets
  /-- They are known before the first of them is counted. -/
  known : Bool
  /-- The file that lists them. -/
  listedIn : Option Octets
  /-- What is left of the input. -/
  input : Octets
  /-- What is wrong with the list. -/
  complaints : Octets

/-- The files that a file lists, or the complaint that it cannot be opened. -/
def listedFiles
    (call : Call)
    (listed : Octets) :
    Except Octets CountedFiles :=
  let (found, unread) := sources call [listed]
  let known := if isInput call listed then call.seekable
    else match call.entry listed with
      | .ok (_, .file _) => true
      | _ => false
  match found.map Prod.snd with
  | [.ok content] => .ok ⟨zeroLines content, known, some listed, unread, []⟩
  | [.error fault] =>
      if fault.isOfReading then
        .ok ⟨[], known, some listed, unread, call.complaint (nameIfPlain listed ++
          ": read error: ".toList ++ plainWords fault)⟩
      else
        .error ("cannot open ".toList ++ quotedName listed ++ " for reading: ".toList ++
          plainWords fault)
  | _ => .ok ⟨[], known, some listed, unread, []⟩

/-- How many octets the file of a name has, nothing if the name stands for something else;
and nothing at all if it stands for nothing. -/
def sizeOf?
    (call : Call)
    (name : Octets) :
    Option (Option Nat) :=
  if isInput call name then
    if call.closed then none
    else some (if call.seekable then some call.input.length else none)
  else
    match call.entry name with
    | .ok (_, .file content) | .ok (_, .program _ content) => some (some content.length)
    | .ok _ => some none
    | .error _ => none

/-- The width of the columns: as many digits as all files together have octets, and seven
at least if something else than a file is counted. -/
def countWidth
    (call : Call)
    (single : Bool)
    (names : List Octets) :
    Nat :=
  if names.length = 1 && single then 1
  else
    let sizes := names.filterMap (sizeOf? call)
    let size := (sizes.map (·.getD 0)).foldl (· + ·) 0
    max (toString size).length (if sizes.any (·.isNone) then 7 else 1)

/-- Why a file with this name is not counted, where `index` is its place on the list. -/
def refusalOf?
    (listedIn : Option Octets)
    (index : Nat)
    (name : Octets) :
    Option Octets :=
  match listedIn, name with
  | none, [] => some "invalid zero-length file name".toList
  | some listed, [] =>
      some (nameIfPlain listed ++ ':' :: (toString (index + 1)).toList ++
        ": invalid zero-length file name".toList)
  | some ['-'], ['-'] =>
      some "when reading file names from stdin, no file name of '-' allowed".toList
  | _, _ => none

/-- What became of a name: what is shown, and the counts if there are any. -/
structure CountedName where
  pieces : List (Stream × Octets)
  counts : Option Counts

/-- Counts the files with some names, and gives the input that is left.  What can be opened,
but not read, has counts as well, all of them zero. -/
def countNames
    (call : Call)
    (called : Octets → Octets)
    (shown : Counts → Octets → Octets)
    (listedIn : Option Octets)
    (index : Nat)
    (input : Octets) :
    List Octets → List CountedName × Octets
  | [] => ([], input)
  | name :: names =>
      let rowOf := fun content => (Stream.output, shown (.of content) name)
      match refusalOf? listedIn index name, sourcesFrom call input [name] with
      | none, ([(_, .ok content)], rest) =>
          let (more, unread) := countNames call called shown listedIn (index + 1) rest names
          (⟨[rowOf content], some (.of content)⟩ :: more, unread)
      | none, ([(_, .error fault)], rest) =>
          let (more, unread) := countNames call called shown listedIn (index + 1) rest names
          let row := if fault.isOfReading then [rowOf []] else []
          (⟨complainOf call complainPlainly (called name) fault :: row, none⟩ :: more, unread)
      | refusal, _ =>
          let (more, unread) := countNames call called shown listedIn (index + 1) input names
          (⟨[(.complaints, call.complaint (refusal.getD []))], none⟩ :: more, unread)

/-- Counts files and shows what is asked for. -/
def countFiles
    (call : Call)
    (keys : List String)
    (totals : Totals)
    (isNamed : Bool)
    (files : CountedFiles) :
    Finish :=
  let width := if totals = .only || !files.known then 1
    else countWidth call (keys.length == 1) files.names
  let shown := fun counts name =>
    if totals = .only then []
    else countLine width (counts.chosen keys)
      (if !isNamed then [] else if name.contains '\n' then quotedName name else name)
  let called := if isNamed then id else sourceName
  let (counted, unread) := countNames call called shown files.listedIn 0 files.input files.names
  let ending := closingWords call (files.names.map (·, .ok []))
  let all := Counts.total (counted.filterMap (·.counts))
  let total :=
    match totals, decide (1 < files.names.length) with
    | .only, _ => countLine width (all.chosen keys) []
    | .always, _ | .auto, true => countLine width (all.chosen keys) "total".toList
    | _, _ => []
  let isFine := files.complaints.isEmpty && counted.all (·.counts.isSome)
  call.inOrder (if isFine then 0 else 1)
    ((.complaints, files.complaints) :: counted.flatMap (·.pieces) ++
      [(.output, total), (.complaints, ending)])
    unread

/-- The options of the tool that counts. -/
def countForms : List Switch :=
  [flag 'c' "bytes", flag 'm' "chars", flag 'l' "lines", flag 'w' "words",
    named "debug" .nothing, named "files0-from" .value, flag 'L' "max-line-length",
    named "total" .value, named "help" .nothing, named "version" .nothing]

/-- When the sum is to be shown. -/
def totalsOf (arguments : Arguments) : Except Octets Totals :=
  (arguments.values "total").foldlM (fun _ word => chooseWord totalChoices "--total" word) .auto

/-- Counts lines, words and octets. -/
def wc : Tool := fun call =>
  let (items, fault) := readItems countForms false none call.arguments
  let arguments := Arguments.ofItems items
  let keys := ((arguments.options.map Prod.fst).filter
    ["c", "m", "l", "w", "L"].contains).eraseDups
  match totalsOf arguments, fault, arguments.value? "files0-from", arguments.operands with
  | .error words, _, _, _ => call.misused 1 words
  | .ok _, some fault, _, _ => call.misused 1 fault.words
  | .ok _, none, some _, extra :: _ =>
      call.misused 1 ("extra operand ".toList ++ quotedName extra ++
        "\nfile operands cannot be combined with --files0-from".toList)
  | .ok totals, none, some listed, [] =>
      match listedFiles call listed with
      | .ok files => countFiles call keys totals true files
      | .error words => call.failed 1 words
  | .ok totals, none, none, [] =>
      countFiles call keys totals false ⟨[['-']], true, none, call.input, []⟩
  | .ok totals, none, none, names =>
      countFiles call keys totals true ⟨names, true, none, call.input, []⟩

end Tools
end CaptureKit
