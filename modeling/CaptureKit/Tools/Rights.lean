import CaptureKit.Tools.Work

/-!
# Rights

The rights of an entry are bits: reading, writing and running, for its owner, its group and
all others, below three bits more.  Rights are asked for by an octal number, or by clauses
that say whose rights change, how, and which.  Main statement: giving rights takes none away
(`adjusted_plus`).
-/

namespace CaptureKit
namespace Tools

open Storage Text

/-- What a clause does with its rights. -/
inductive RightsStep
  | give
  | take
  | set
  deriving DecidableEq

/-- Which rights a clause speaks of. -/
inductive RightsChoice
  /-- These rights, and running if anybody could run the entry or it is a folder. -/
  | bits (bits : Nat) (perhapsRun : Bool)
  /-- The rights that somebody has already. -/
  | copied (owner : Nat)
  deriving DecidableEq

/-- A clause: whose rights change, nobody's if it is not said, and how. -/
structure RightsClause where
  affected : Nat
  step : RightsStep
  choice : RightsChoice
  deriving DecidableEq

/-- All bits of rights. -/
def allRights : Nat := 4095

/-- The bits of a number that are not among others. -/
def without (bits others : Nat) : Nat :=
  bits &&& (allRights ^^^ (others &&& allRights))

/-- Whose rights a letter stands for. -/
def rightsOwner? : Char → Option Nat
  | 'u' => some 2496
  | 'g' => some 1080
  | 'o' => some 519
  | 'a' => some allRights
  | _ => none

/-- The bits of a letter. -/
def rightsBits? : Char → Option Nat
  | 'r' => some 292
  | 'w' => some 146
  | 'x' => some 73
  | 's' => some 3072
  | 't' => some 512
  | _ => none

/-- The step of a sign. -/
def rightsStep? : Char → Option RightsStep
  | '+' => some .give
  | '-' => some .take
  | '=' => some .set
  | _ => none

/-- The number that octal digits denote, if it is one of rights. -/
def octalRights? (digits : Octets) : Option Nat :=
  if digits.isEmpty || digits.any fun c => c < '0' || '7' < c then none
  else
    let n := Nat.ofDigitChars 8 digits 0
    if n ≤ allRights then some n else none

/-- The rights that letters choose. -/
def rightsChoice? (letters : Octets) : Option RightsChoice :=
  match letters with
  | ['u'] => some (.copied 448)
  | ['g'] => some (.copied 56)
  | ['o'] => some (.copied 7)
  | letters =>
      letters.foldlM
        (fun choice letter =>
          match choice, rightsBits? letter with
          | .bits bits perhaps, some more => some (.bits (bits ||| more) perhaps)
          | .bits bits _, none => if letter = 'X' then some (.bits bits true) else none
          | .copied _, _ => none)
        (.bits 0 false)

/-- The clauses behind the letters that say whose rights change; `fuel` bounds their
number. -/
def rightsSteps? (affected : Nat) : (fuel : Nat) → Octets → Option (List RightsClause)
  | 0, _ => none
  | _, [] => some []
  | fuel + 1, sign :: rest => do
      let step ← rightsStep? sign
      let letters := rest.takeWhile fun c => (rightsStep? c).isNone
      let choice ← match octalRights? letters with
        | some bits => if affected = 0 then some (.bits bits false) else none
        | none => rightsChoice? letters
      let owner := if (octalRights? letters).isSome then allRights else affected
      let more ← rightsSteps? affected fuel (rest.drop letters.length)
      return ⟨owner, step, choice⟩ :: more

/-- The clauses that a text asks for. -/
def rightsClauses? (text : Octets) : Option (List RightsClause) :=
  match octalRights? text with
  | some bits => some [⟨allRights, .set, .bits bits false⟩]
  | none => do
      let clauses ← (text.splitOn ',').mapM fun clause => do
        let owners := clause.takeWhile fun c => (rightsOwner? c).isSome
        let steps := clause.drop owners.length
        if steps.isEmpty then none
        else
          rightsSteps? ((owners.filterMap rightsOwner?).foldl (· ||| ·) 0) steps.length steps
      return clauses.flatten

/-- The rights that a clause gives or takes. -/
def RightsClause.value
    (clause : RightsClause)
    (mask : Nat)
    (isFolder : Bool)
    (rights : Nat) :
    Nat :=
  let value := match clause.choice with
    | .bits bits perhaps => if perhaps && (isFolder || rights &&& 73 != 0) then bits ||| 73 else bits
    | .copied owner =>
        [292, 146, 73].foldl
          (fun found bits => if rights &&& owner &&& bits != 0 then found ||| bits else found) 0
  if clause.affected = 0 then without value mask else value &&& clause.affected

/-- Rights after a clause. -/
def RightsClause.adjusted
    (clause : RightsClause)
    (mask : Nat)
    (isFolder : Bool)
    (rights : Nat) :
    Nat :=
  let value := clause.value mask isFolder rights
  match clause.step with
  | .give => rights ||| value
  | .take => without rights value
  | .set =>
      if clause.affected = 0 then value else without rights clause.affected ||| value

/-- Rights after all clauses. -/
def adjustedBy
    (clauses : List RightsClause)
    (mask : Nat)
    (isFolder : Bool)
    (rights : Nat) :
    Nat :=
  clauses.foldl (fun rights clause => clause.adjusted mask isFolder rights) rights

/-- Giving rights takes none away. -/
theorem adjusted_plus
    (clause : RightsClause)
    (gives : clause.step = .give)
    (mask : Nat)
    (isFolder : Bool)
    (rights : Nat) :
    clause.adjusted mask isFolder rights &&& rights = rights := by
  simp only [RightsClause.adjusted, gives]
  apply Nat.eq_of_testBit_eq
  intro i
  simp only [Nat.testBit_and, Nat.testBit_or]
  cases rights.testBit i <;> simp

/-- Three rights as letters; the last one is spelled differently with a bit more. -/
def rightsLetters
    (rights : Nat)
    (more : Bool)
    (small large : Char) :
    Octets :=
  [if rights / 4 % 2 = 1 then 'r' else '-',
    if rights / 2 % 2 = 1 then 'w' else '-',
    if more then if rights % 2 = 1 then small else large
    else if rights % 2 = 1 then 'x' else '-']

/-- Rights as letters. -/
def shownRights (rights : Nat) : Octets :=
  rightsLetters (rights / 64) (rights / 2048 % 2 == 1) 's' 'S' ++
    rightsLetters (rights / 8) (rights / 1024 % 2 == 1) 's' 'S' ++
    rightsLetters rights (rights / 512 % 2 == 1) 't' 'T'

/-- Rights as four octal digits. -/
def octalOfRights (rights : Nat) : Octets :=
  [rights / 512, rights / 64, rights / 8, rights].map (Nat.digitChar <| · % 8)

/-- What is told of changed rights. -/
inductive RightsTale
  | nothing
  | changes
  | everything
  deriving DecidableEq

/-- How rights are changed. -/
structure RightsStyle where
  clauses : List RightsClause
  tale : RightsTale
  deep : Bool
  quiet : Bool
  /-- Rights that the mask keeps from changing are complained about. -/
  surprised : Bool

/-- Changes the rights at one location. -/
def changeRights
    (call : Call)
    (style : RightsStyle)
    (name : Octets)
    (location : Location) :
    Work Unit := do
  let tree := (← get).tree
  let before := tree.rightsAt location
  let isFolder := tree.get? location == some .folder
  let after := adjustedBy style.clauses call.mask isFolder before
  let naive := adjustedBy style.clauses 0 isFolder before
  modify fun progress => { progress with tree := tree.withRights location after }
  let spelled := fun rights => octalOfRights rights ++ " (".toList ++ shownRights rights ++ [')']
  if style.tale ≠ .nothing ∧ before ≠ after then
    say ("mode of ".toList ++ quotedName name ++ " changed from ".toList ++ spelled before ++
      " to ".toList ++ spelled after)
  else if style.tale = .everything then
    say ("mode of ".toList ++ quotedName name ++ " retained as ".toList ++ spelled after)
  if style.surprised ∧ after ≠ naive then
    refuse call (nameIfPlain name ++ ": new permissions are ".toList ++ shownRights after ++
      ", not ".toList ++ shownRights naive)

/-- Changes the rights of an operand, and of all that is in it if asked to. -/
def changeOperand
    (call : Call)
    (style : RightsStyle)
    (operand : Octets) :
    Work Unit := do
  match call.ownEntry operand, call.entry operand with
  | _, .ok (location, _) => do
      changeRights call style operand location
      if style.deep then
        for (path, entry) in call.tree.listing location do
          match entry with
          | .link _ => pure ()
          | _ =>
              changeRights call style (joined operand (octets path)) (location ++ path.splitOn "/")
  | .ok (_, .link _), .error (.os .noEntry) =>
      if style.quiet then modify fun progress => { progress with succeeded := false }
      else refuse call ("cannot operate on dangling symlink ".toList ++ quotedName operand)
  | _, .error fault =>
      if style.quiet then modify fun progress => { progress with succeeded := false }
      else refuse call (complainThat "cannot access" operand fault)

/-- The letters that an option of rights may start with. -/
def rightsOptionLetters : List Char := "rwxXstugoa,+=01234567".toList

/-- Arguments that take rights away, which look like options, and the other arguments. -/
def splitRights : List Octets → List Octets × List Octets
  | [] => ([], [])
  | ['-', '-'] :: rest => ([], ['-', '-'] :: rest)
  | argument :: rest =>
      let (rights, others) := splitRights rest
      match argument with
      | '-' :: c :: _ =>
          if rightsOptionLetters.contains c then (argument :: rights, others)
          else (rights, argument :: others)
      | _ => (rights, argument :: others)

/-- The clauses of a text. -/
def clausesOf
    (call : Call)
    (text : Octets) :
    Except Finish (List RightsClause) :=
  match rightsClauses? text with
  | some clauses => .ok clauses
  | none => .error (call.misused 1 ("invalid mode: ".toList ++ quotedArgument text))

/-- The clauses that are asked for, and the files; `taken` are the arguments that take rights
away. -/
def wantedRights
    (call : Call)
    (arguments : Arguments)
    (taken : List Octets) :
    Except Finish (List RightsClause × List Octets) :=
  match taken, arguments.value? "reference", arguments.operands with
  | _ :: _, _, [] | [], some _, [] | [], none, [] => .error (call.missingOperand 1)
  | [], some path, operands =>
      match call.entry path with
      | .ok (location, _) =>
          .ok ([⟨allRights, .set, .bits (call.tree.rightsAt location) false⟩], operands)
      | .error fault =>
          .error (call.failed 1 (complainThat "failed to get attributes of" path fault))
  | [], none, [mode] =>
      .error (call.misused 1 ("missing operand after ".toList ++ quotedArgument mode))
  | [], none, mode :: operands => (clausesOf call mode).map (·, operands)
  | taken, _, operands => (clausesOf call ([','].intercalate taken)).map (·, operands)

/-- Changes the rights of files. -/
def chmod : Tool := fun call =>
  let (taken, others) := splitRights call.arguments
  let body : Tool := .withOptions
    [flag 'c' "changes", flag 'f' "silent", named "quiet" .nothing, flag 'v' "verbose",
      flag 'R' "recursive", named "reference" .value, named "preserve-root" .nothing,
      named "no-preserve-root" .nothing] 1
    fun call arguments =>
      match wantedRights call arguments taken with
      | .error finish => finish
      | .ok (_, []) => call.missingOperand 1
      | .ok (clauses, operands) =>
          let style : RightsStyle :=
            { clauses
              tale := match arguments.lastOf? ["c", "v"] with
                | some "c" => .changes
                | some _ => .everything
                | none => .nothing
              deep := arguments.has "R"
              quiet := arguments.has "f" || arguments.has "quiet"
              surprised := !taken.isEmpty }
          Work.finish (for operand in operands do changeOperand call style operand) call 1
  body { call with arguments := others }

end Tools
end CaptureKit
