import CaptureKit.Shell.Pattern
import CaptureKit.Tools.Expression
import CaptureKit.Tools.Naming

/-!
# How expressions are written

Expressions are written in one of two ways: in the plain one a backslash stands before
brackets and bars that mean something, in the extended one before those that do not.  An
expression is first read as marks; then groups and bars are put together around a stack of
open groups.
-/

namespace CaptureKit
namespace Tools

open Shell Text

/-- A way of writing expressions. -/
structure Dialect where
  /-- Brackets and bars mean something without a backslash. -/
  extended : Bool
  /-- What cannot mean anything where it stands is taken as it is. -/
  lenient : Bool
  /-- Letters behind a backslash stand for octets that do not show. -/
  escapes : Bool

/-- Why an expression cannot be read. -/
inductive ExpressionFault
  | openSet
  | openGroup
  | noGroupToClose
  | openInterval
  | badInterval
  | nothingToRepeat
  | trailingBackslash
  | badReference
  | badRange
  | badClass
  deriving DecidableEq

/-- The wording of a fault. -/
def ExpressionFault.words : ExpressionFault → String
  | .openSet => "Unmatched [, [^, [:, [., or [="
  | .openGroup => "Unmatched ( or \\("
  | .noGroupToClose => "Unmatched ) or \\)"
  | .openInterval => "Unmatched \\\x7b"
  | .badInterval => "Invalid content of \\\x7b\\\x7d"
  | .nothingToRepeat => "Invalid preceding regular expression"
  | .trailingBackslash => "Trailing backslash"
  | .badReference => "Invalid back reference"
  | .badRange => "Invalid range end"
  | .badClass => "Invalid character class name"

/-- What an expression is made of. -/
inductive Mark
  | one (accepts : Char → Bool)
  | textStart
  | textEnd
  | edge (kind : Edge)
  | again (number : Nat)
  | opening
  | closing
  | bar
  | repeated (least : Nat) (most : Option Nat)

/-- The mark of an octet that stands for itself. -/
def Mark.plain (c : Char) : Mark :=
  .one (· == c)

/-- The octet that a letter behind a backslash stands for. -/
def escapedOctet? (c : Char) : Option Char :=
  match c with
  | 'a' => some (Char.ofNat 7)
  | 'f' => some (Char.ofNat 12)
  | 'n' => some '\n'
  | 'r' => some '\r'
  | 't' => some '\t'
  | 'v' => some (Char.ofNat 11)
  | _ => none

/-- The name between two marks such as colons, and what follows the bracket behind them. -/
def namedItem?
    (mark : Char)
    (s : Octets) :
    Option (Octets × Octets) :=
  let name := s.takeWhile (· != mark)
  match s.drop name.length with
  | _ :: ']' :: rest => some (name, rest)
  | _ => none

/-- What a set names up to its closing bracket, and what follows; `fuel` bounds the number of
items. -/
def memberItems
    (dialect : Dialect) :
    (fuel : Nat) → (atStart : Bool) → Octets →
    Except ExpressionFault ((Char → Bool) × Octets)
  | 0, _, _ | _, _, [] => .error .openSet
  | fuel + 1, atStart, c :: s =>
      let more := fun (accepts : Char → Bool) (rest : Octets) =>
        (memberItems dialect fuel false rest).map fun others =>
          ((fun c => accepts c || others.1 c), others.2)
      if c = ']' ∧ !atStart then .ok (fun _ => false, s)
      else
        match c, s with
        | '[', ':' :: rest =>
            match namedItem? ':' rest with
            | none => .error .openSet
            | some (name, rest) =>
                match namedClass? (String.ofList name) with
                | none => .error .badClass
                | some accepts => more accepts rest
        | '[', '=' :: d :: '=' :: ']' :: rest | '[', '.' :: d :: '.' :: ']' :: rest =>
            more (· == d) rest
        | '\\', d :: rest =>
            match if dialect.escapes then escapedOctet? d else none with
            | some octet => more (· == octet) rest
            | none => more (· == '\\') (d :: rest)
        | c, '-' :: d :: rest =>
            if d = ']' then more (· == c) ('-' :: d :: rest)
            else if d < c then .error .badRange
            else more (fun x => decide (c ≤ x) && decide (x ≤ d)) rest
        | c, s => more (· == c) s

/-- The set behind its opening bracket, and what follows. -/
def readMembers
    (dialect : Dialect)
    (s : Octets) :
    Except ExpressionFault ((Char → Bool) × Octets) :=
  match s with
  | '^' :: rest =>
      (memberItems dialect (s.length + 1) true rest).map fun found =>
        ((fun c => !found.1 c), found.2)
  | s => memberItems dialect (s.length + 1) true s

/-- The bounds of an interval, its closing bracket included, and what follows. -/
def readInterval
    (closing : Octets)
    (s : Octets) :
    Except ExpressionFault ((Nat × Option Nat) × Octets) :=
  let number := fun digits : Octets => if digits.isEmpty then none else some (decimalValue digits)
  let least := s.takeWhile Char.isDigit
  let behind := s.drop least.length
  let (most, behind) : Option Nat × Octets := match behind with
    | ',' :: rest =>
        let digits := rest.takeWhile Char.isDigit
        (number digits, rest.drop digits.length)
    | behind => (number least, behind)
  if closing.isPrefixOf behind then
    let low := (number least).getD 0
    if (least.isEmpty && behind.length = s.length) || most.any (· < low) then .error .badInterval
    else .ok ((low, most), behind.drop closing.length)
  else if behind.isEmpty then .error .openInterval
  else .error .badInterval

/-- How far the marks of a group have come. -/
inductive Front
  /-- Nothing stands in front. -/
  | start
  /-- Only an anchor stands in front. -/
  | anchored
  | inside
  deriving DecidableEq

/-- What a letter behind a backslash means in both ways of writing. -/
def letterMark? (c : Char) : Option Mark :=
  match c with
  | 'w' => some (.one isWordOctet)
  | 'W' => some (.one fun c => !isWordOctet c)
  | 's' => some (.one fun c => c == ' ' || (9 ≤ c.toNat && c.toNat ≤ 13))
  | 'S' => some (.one fun c => !(c == ' ' || (9 ≤ c.toNat && c.toNat ≤ 13)))
  | 'b' => some (.edge .border)
  | 'B' => some (.edge .inside)
  | '<' => some (.edge .wordStart)
  | '>' => some (.edge .wordEnd)
  | c =>
      if c = backTick then some .textStart
      else if c = apostrophe then some .textEnd
      else none

/-- The mark that an octet makes with a meaning of its own, apart from anchors, sets and
intervals. -/
def operatorMark? (c : Char) : Option Mark :=
  match c with
  | '(' => some .opening
  | ')' => some .closing
  | '|' => some .bar
  | '+' => some (.repeated 1 none)
  | '?' => some (.repeated 0 (some 1))
  | _ => none

/-- What stands in front after a mark. -/
def Mark.front : Mark → Front
  | .opening | .bar => .start
  | _ => .inside

/-- Reads an expression as marks; `fuel` bounds their number. -/
def readMarks
    (dialect : Dialect) :
    (fuel : Nat) → Front → Octets → Except ExpressionFault (List Mark)
  | 0, _, _ | _, _, [] => .ok []
  | fuel + 1, front, c :: s => do
      let go := fun (mark : Mark) (front : Front) (rest : Octets) => do
        return mark :: (← readMarks dialect fuel front rest)
      let plain := fun (c : Char) (rest : Octets) => go (.plain c) .inside rest
      let interval := fun (closing : Octets) (rest : Octets) =>
        match readInterval closing rest with
        | .ok ((least, most), rest) => go (.repeated least most) .inside rest
        | .error fault =>
            if dialect.extended ∧ dialect.lenient then plain '\x7b' rest else .error fault
      let operator := fun (mark : Mark) (rest : Octets) =>
        match mark with
        | .repeated .. =>
            if front = .inside then go mark .inside rest
            else if !dialect.extended then plain c rest
            else if dialect.lenient then readMarks dialect fuel front rest
            else .error .nothingToRepeat
        | mark => go mark mark.front rest
      match c, s with
      | '\\', [] => .error .trailingBackslash
      | '\\', d :: rest =>
          if d.isDigit ∧ d ≠ '0' then go (.again (d.toNat - '0'.toNat)) .inside rest
          else
            match letterMark? d, if dialect.escapes then escapedOctet? d else none with
            | some mark, _ => go mark .inside rest
            | none, some octet => plain octet rest
            | none, none =>
                if dialect.extended then plain d rest
                else if d = '\x7b' then interval ['\\', '\x7d'] rest
                else
                  match operatorMark? d with
                  | some mark => operator mark rest
                  | none => plain d rest
      | '[', rest => do
          let (accepts, rest) ← readMembers dialect rest
          go (.one accepts) .inside rest
      | '.', rest => go (.one fun _ => true) .inside rest
      | '*', rest => operator (.repeated 0 none) rest
      | '^', rest =>
          if dialect.extended ∨ front = .start then go .textStart .anchored rest
          else plain '^' rest
      | '$', rest =>
          let closes : Bool := match rest with
            | [] | '\\' :: ')' :: _ | '\\' :: '|' :: _ => true
            | _ => false
          if dialect.extended ∨ closes then go .textEnd .inside rest else plain '$' rest
      | c, rest =>
          if !dialect.extended then plain c rest
          else if c = '\x7b' then interval ['\x7d'] rest
          else
            match operatorMark? c with
            | some mark => operator mark rest
            | none => plain c rest

/-- An open group. -/
structure OpenGroup where
  number : Nat
  /-- What stands before the last bar. -/
  before : Option Expression
  /-- What stands behind it, the last item first. -/
  items : List Expression

/-- What an open group amounts to. -/
def OpenGroup.expression (open_ : OpenGroup) : Expression :=
  let behind := match open_.items with
    | [] => Expression.nothing
    | last :: items => items.foldl (fun rest item => .followed item rest) last
  match open_.before with
  | none => behind
  | some before => .either before behind

/-- The open groups, the innermost first, and how many groups there were. -/
structure Assembly where
  innermost : OpenGroup
  outer : List OpenGroup
  count : Nat

/-- Puts an item at the end of the innermost group. -/
def Assembly.push
    (assembly : Assembly)
    (item : Expression) :
    Assembly :=
  { assembly with
    innermost := { assembly.innermost with items := item :: assembly.innermost.items } }

/-- Takes over one mark. -/
def Assembly.take
    (lenient : Bool)
    (assembly : Assembly) :
    Mark → Except ExpressionFault Assembly
  | .one accepts => .ok (assembly.push (.one accepts))
  | .textStart => .ok (assembly.push .textStart)
  | .textEnd => .ok (assembly.push .textEnd)
  | .edge kind => .ok (assembly.push (.edge kind))
  | .again number =>
      if number ≤ assembly.count then .ok (assembly.push (.again number))
      else .error .badReference
  | .opening =>
      .ok ⟨⟨assembly.count + 1, none, []⟩, assembly.innermost :: assembly.outer,
        assembly.count + 1⟩
  | .closing =>
      match assembly.outer with
      | [] => if lenient then .ok (assembly.push (.one (· == ')'))) else .error .noGroupToClose
      | next :: outer =>
          let item := Expression.group assembly.innermost.number assembly.innermost.expression
          .ok (Assembly.push ⟨next, outer, assembly.count⟩ item)
  | .bar =>
      .ok { assembly with
        innermost := ⟨assembly.innermost.number, some assembly.innermost.expression, []⟩ }
  | .repeated least most =>
      match assembly.innermost.items with
      | [] => .error .nothingToRepeat
      | item :: items =>
          .ok { assembly with
            innermost := { assembly.innermost with
              items := .repeated least most item :: items } }

/-- Reads an expression, and tells how many groups it has. -/
def Expression.read
    (dialect : Dialect)
    (text : Octets) :
    Except ExpressionFault (Expression × Nat) := do
  let marks ← readMarks dialect (text.length + 1) .start text
  let lenient := dialect.extended && dialect.lenient
  let assembly ← marks.foldlM (Assembly.take lenient) ⟨⟨0, none, []⟩, [], 0⟩
  if assembly.outer.isEmpty then return (assembly.innermost.expression, assembly.count)
  else .error .openGroup

end Tools
end CaptureKit
