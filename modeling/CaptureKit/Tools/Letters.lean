import CaptureKit.Shell.Pattern
import CaptureKit.Tools.Repeats

/-!
# The tool that replaces letters

`tr` replaces, deletes or squeezes single octets.  Its operands name sets of octets in an
order: the octet at some place of the first set becomes the one at the same place of the
second.
-/

namespace CaptureKit
namespace Tools

open Shell Text

/-- All octets in order. -/
def allOctets : List Char := (List.range 256).map Char.ofNat

/-- An item of a set. -/
inductive SetItem
  | octet (c : Char)
  | range (first last : Char)
  | named (name : Octets)
  /-- One octet, so many times; zero times means as often as it is needed. -/
  | repeated (c : Char) (count : Nat)

/-- The octet at the front of a set, and what follows. -/
def setOctet : Octets → Char × Octets
  | '\\' :: rest =>
      match formatEscape rest with
      | .octet octet size => (octet, rest.drop (max 1 size))
      | _ => (rest.headD '\\', rest.drop 1)
  | c :: rest => (c, rest)
  | [] => ('\\', [])

/-- The item in brackets behind an opening one, and what follows. -/
def bracketItem? (s : Octets) : Option (SetItem × Octets) :=
  match s with
  | ':' :: rest =>
      let name := rest.takeWhile (· != ':')
      match rest.drop name.length with
      | ':' :: ']' :: after => some (.named name, after)
      | _ => none
  | '=' :: c :: '=' :: ']' :: after => some (.octet c, after)
  | _ =>
      let (c, rest) := setOctet s
      match rest with
      | '*' :: rest =>
          let digits := rest.takeWhile Char.isDigit
          match rest.drop digits.length with
          | ']' :: after =>
              some (.repeated c (if digits.head? = some '0' then octalValue digits
                else decimalValue digits), after)
          | _ => none
      | _ => none

/-- The items of a set; `fuel` bounds their number. -/
def setItems : (fuel : Nat) → Octets → List SetItem
  | 0, _ => []
  | _, [] => []
  | fuel + 1, c :: rest =>
      match if c = '[' then bracketItem? rest else none with
      | some (item, after) => item :: setItems fuel after
      | none =>
          let (first, after) := setOctet (c :: rest)
          match after with
          | '-' :: d :: more =>
              let (last, after) := setOctet (d :: more)
              .range first last :: setItems fuel after
          | after => .octet first :: setItems fuel after

/-- The octets of an item, if it is repeated as often as needed then so many times. -/
def SetItem.members
    (needed : Nat) :
    SetItem → List Char
  | .octet c => [c]
  | .range first last => allOctets.filter fun c => first ≤ c && c ≤ last
  | .named name => allOctets.filter ((namedClass? (String.ofList name)).getD fun _ => false)
  | .repeated c 0 => List.replicate needed c
  | .repeated c count => List.replicate count c

/-- The octets of a set in the order in which it names them, filled up to a size if an
item can fill it. -/
def setMembers
    (size : Nat)
    (items : List SetItem) :
    List Char :=
  let fixed := (items.flatMap (SetItem.members 0)).length
  items.flatMap (SetItem.members (size - fixed))

/-- The class turns letters into the other case. -/
def isCaseClass (name : Octets) : Bool :=
  name == "upper".toList || name == "lower".toList

/-- Why sets do not fit what is asked for. -/
def setFault?
    (replacing complemented : Bool)
    (first second : List SetItem) :
    Option Octets :=
  let unknown := (first ++ second).findSome? fun
    | .named name =>
        if (namedClass? (String.ofList name)).isSome then none
        else some ("invalid character class ".toList ++ quotedArgument name)
    | .range a b =>
        if b < a then
          some ("range-endpoints of '".toList ++ a :: '-' :: b ::
            "' are in reverse collating sequence order".toList)
        else none
    | _ => none
  let repeated := first.findSome? fun
    | .repeated .. => some "the [c*] repeat construct may not appear in string1".toList
    | _ => none
  let mapped := second.findSome? fun
    | .named name =>
        if !isCaseClass name then
          some ("when translating, the only character classes that may appear in\n".toList ++
            "string2 are 'upper' and 'lower'".toList)
        else if complemented || !first.any fun
            | .named other => isCaseClass other
            | _ => false then
          some "misaligned [:upper:] and/or [:lower:] construct".toList
        else none
    | _ => none
  unknown.orElse fun _ => repeated.orElse fun _ => if replacing then mapped else none

/-- The octet that takes the place of one of the first set: the one at its last place there
in the second set, or else the last one of that. -/
def replacement
    (source target : List Char)
    (c : Char) :
    Char :=
  if source.contains c then
    let place := source.length - 1 - source.reverse.idxOf c
    (target[place]?.orElse fun _ => target.getLast?).getD c
  else c

/-- Leaves one of several equal octets in a row, if they are in the set. -/
def squeezed
    (set : List Char)
    (s : Octets) :
    Octets :=
  (groups (· == ·) s).flatMap fun group =>
    if group.head?.any set.contains then group.take 1 else group

/-- What is done to the octets. -/
structure LetterRequest where
  deletes : Bool
  squeezes : Bool
  complemented : Bool
  truncates : Bool

/-- The octets after the request. -/
def LetterRequest.apply
    (request : LetterRequest)
    (first second : List SetItem)
    (s : Octets) :
    Octets :=
  let named := setMembers 0 first
  let source := if request.complemented then allOctets.filter (!named.contains ·) else named
  let target := setMembers source.length second
  let source := if request.truncates then source.take target.length else source
  if request.deletes then
    let kept := s.filter (!source.contains ·)
    if request.squeezes then squeezed target kept else kept
  else if second.isEmpty then squeezed source s
  else
    let replaced := s.map (replacement source target)
    if request.squeezes then squeezed target replaced else replaced

/-- Why there are too few or too many operands. -/
def operandFault?
    (request : LetterRequest) :
    List Octets → Option Octets
  | [] => some "missing operand".toList
  | [a] =>
      let missing := fun why : String =>
        some ("missing operand after ".toList ++ quotedArgument a ++ '\n' :: why.toList)
      if request.deletes && request.squeezes then
        missing "Two strings must be given when both deleting and squeezing repeats."
      else if !request.deletes && !request.squeezes then
        missing "Two strings must be given when translating."
      else none
  | [_, b] =>
      if request.deletes && !request.squeezes then
        some ("extra operand ".toList ++ quotedArgument b ++
          "\nOnly one string may be given when deleting without squeezing repeats.".toList)
      else none
  | _ :: _ :: c :: _ => some ("extra operand ".toList ++ quotedArgument c)

/-- Replaces, deletes or squeezes octets. -/
def tr : Tool :=
  .withLeadingOptions
    [flag 'd' "delete", flag 's' "squeeze-repeats", flag 'c' "complement", flag 'C' "",
      flag 't' "truncate-set1"] 1
    fun call arguments =>
      let request : LetterRequest := ⟨arguments.has "d", arguments.has "s",
        arguments.has "c" || arguments.has "C", arguments.has "t"⟩
      match operandFault? request arguments.operands with
      | some words => call.misused 1 words
      | none =>
          let items := fun s : Octets => setItems s.length s
          let first := items (arguments.operands.headD [])
          let second := items ((arguments.operands[1]?).getD [])
          let replacing := !request.deletes && arguments.operands.length == 2
          match setFault? replacing request.complemented first second with
          | some words => call.failed 1 words
          | none =>
              if replacing && second.isEmpty && !first.isEmpty && !request.truncates then
                call.failed 1 "when not truncating set1, string2 must be non-empty".toList
              else
                match call.inputFault with
                | some error => call.failed 1 ("read error: ".toList ++ plainWords (.os error))
                | none => call.leave 0 (request.apply first second call.input) [] []

end Tools
end CaptureKit
