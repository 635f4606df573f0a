import CaptureKit.Storage.System
import CaptureKit.Tools.Work

/-!
# Tools that put files at other places

`mv` renames, `cp` copies, `ln` makes links.  They all end in a place, or in a folder in
which every operand keeps its last name.

A file may be at several places at once: what is written at one of them is at all of them.
-/

namespace CaptureKit
namespace Tools

open Storage Text

/-- What a tool does to what is already at a place. -/
inductive Clash
  | replaces
  | keeps
  | asks
  deriving DecidableEq

/-- How files are put at other places. -/
structure PlacingStyle where
  clash : Clash
  /-- Every step is told. -/
  tells : Bool
  /-- Folders are copied with everything in them. -/
  deep : Bool
  /-- Links are copied as they are. -/
  keepsLinks : Bool
  /-- Copies are links instead. -/
  asLinks : Option Bool
  /-- Copies have the time and all rights of what is copied. -/
  keepsAll : Bool
  /-- Only what is older is replaced. -/
  onlyOlder : Bool

/-- A pair of paths: what is put, and where. -/
structure Pairing where
  source : Octets
  target : Octets

/-- The path of an operand inside a folder. -/
def placeIn (folder operand : Octets) : Octets :=
  joined folder (lastName operand)

/-- Options that say where operands go. -/
def placeForms : List Switch :=
  [valued 't' "target-directory", flag 'T' "no-target-directory"]

/-- The complaint about a target that has to be a folder. -/
def complainOfTarget
    (call : Call)
    (words : String)
    (target : Octets) :
    Octets :=
  match call.entry target with
  | .error fault => complainThat words target fault
  | .ok _ => complainThat words target (.os .notFolder)

/-- The last operand, and those in front of it. -/
def splitLast (operands : List Octets) : Option (List Octets × Octets) :=
  operands.getLast?.map (operands.dropLast, ·)

/-- The pairs that operands make, or how the tool ends if they make none.  A single operand
may go into the working folder. -/
def pairings
    (call : Call)
    (arguments : Arguments)
    (single followed : Bool) :
    Except Finish (List Pairing) :=
  let into := fun (folder : Octets) (operands : List Octets) =>
    operands.map fun operand => Pairing.mk operand (placeIn folder operand)
  let isTarget := fun target =>
    call.isFolder target && (followed || !(match call.ownEntry target with
      | .ok (_, .link _) => true
      | _ => false))
  match arguments.operands, arguments.value? "t" with
  | [], _ => .error (call.misused 1 "missing file operand".toList)
  | operands, some folder =>
      if call.isFolder folder then .ok (into folder operands)
      else .error (call.failed 1 (complainOfTarget call "target directory" folder))
  | [operand], none =>
      if single ∧ ¬ arguments.has "T" then .ok [⟨operand, placeIn ['.'] operand⟩]
      else
        .error (call.misused 1
          ("missing destination file operand after ".toList ++ quotedName operand))
  | operands, none =>
      match splitLast operands with
      | none => .error (call.misused 1 "missing file operand".toList)
      | some (sources, target) =>
          if arguments.has "T" then
            match operands with
            | [source, target] => .ok [⟨source, target⟩]
            | _ =>
                .error (call.misused 1
                  ("extra operand ".toList ++ quotedName (operands.getD 2 [])))
          else if isTarget target then .ok (into target sources)
          else
            match sources with
            | [source] => .ok [⟨source, target⟩]
            | _ => .error (call.failed 1 (complainOfTarget call "target" target))

/-- The complaint that something cannot be done with a pair. -/
def complainOfPair
    (words : String)
    (pairing : Pairing)
    (fault : IoFault) :
    Octets :=
  words.toList ++ ' ' :: quotedName pairing.source ++ " to ".toList ++
    quotedName pairing.target ++ ": ".toList ++ plainWords fault

/-- The complaint that both paths of a pair lead to one file. -/
def sameFile (pairing : Pairing) : Octets :=
  quotedName pairing.source ++ " and ".toList ++ quotedName pairing.target ++
    " are the same file".toList

/-- What is at a place before something is put there: the location, and the entry if there
is one.  A slash may stand behind a name that is not there yet. -/
def ownPlace
    (call : Call)
    (target : Octets) :
    Except IoFault (Location × Option Entry) :=
  let path := call.pathOf target
  match call.tree.locate .keep path with
  | .ok (.found location entry) => .ok (location, some entry)
  | .ok (.vacant folder name) => .ok (folder ++ [name], none)
  | .error fault =>
      match call.tree.locateNames .keep path ((names path.toList).map String.ofList) with
      | .ok (.vacant folder name) => .ok (folder ++ [name], none)
      | _ => .error fault

/-- The location at which a path ends, links followed. -/
def followed
    (call : Call)
    (operand : Octets) :
    Option Location :=
  (call.entry operand).toOption.map Prod.fst

/-- Whether what is at a place may be replaced. -/
def mayReplace
    (call : Call)
    (style : PlacingStyle)
    (target : Octets)
    (kept : Work Unit) :
    Work Bool :=
  match style.clash with
  | .replaces => return true
  | .keeps => do
      kept
      return false
  | .asks => do
      let yes ← ask call ("overwrite ".toList ++ quotedName target)
      if !yes then modify fun progress => { progress with succeeded := false }
      return yes

/-- What is at a location would replace something that is not older, and so does not. -/
def isSpared
    (tree : FileTree)
    (style : PlacingStyle)
    (source target : Location) :
    Bool :=
  style.onlyOlder && tree.timeAt source ≤ tree.timeAt target

/-- The tree with the time and the rights of a copy as it takes them from its source.  A new
copy has the rights of its source that the mask leaves. -/
def withOrigin
    (style : PlacingStyle)
    (mask : Option Nat)
    (source place : Location)
    (tree : FileTree) :
    FileTree :=
  let rights := tree.rightsAt source
  if style.keepsAll then (tree.withTime place (tree.timeAt source)).withRights place rights
  else
    match mask with
    | some mask => tree.withRights place (rights - (rights &&& mask))
    | none => tree

/-- Moves an entry to a place that is free for it. -/
def moveTo
    (style : PlacingStyle)
    (pairing : Pairing)
    (source target : Location) :
    Work Unit := do
  modify fun progress => { progress with tree := progress.tree.move source target }
  if style.tells then
    say ("renamed ".toList ++ quotedName pairing.source ++ " -> ".toList ++
      quotedName pairing.target)

/-- Moves a file or a folder. -/
def movePair
    (call : Call)
    (style : PlacingStyle)
    (pairing : Pairing) :
    Work Unit := do
  let present ← presentCall call
  match present.ownEntry pairing.source with
  | .error fault => refuse call (complainThat "cannot stat" pairing.source fault)
  | .ok (source, entry) =>
      match ownPlace present pairing.target with
      | .error fault =>
          if fault = .os .noEntry then refuse call (complainOfPair "cannot move" pairing fault)
          else refuse call (complainThat "cannot stat" pairing.target fault)
      | .ok (target, none) =>
          if isLinkedFolder present pairing.source then
            refuse call (complainOfPair "cannot move" pairing (.os .notFolder))
          else if entry = .folder ∧ source.isPrefixOf target then
            refuse call ("cannot move ".toList ++ quotedName pairing.source ++
              " to a subdirectory of itself, ".toList ++ quotedName pairing.target)
          else if entry ≠ .folder ∧ pairing.target.getLast? = some '/' then
            refuse call (complainOfPair "cannot move" pairing (.os .notFolder))
          else moveTo style pairing source target
      | .ok (target, some there) =>
          let leadsThere : Bool := match entry with
            | .link _ => followed present pairing.source == some target
            | _ => false
          if present.tree.areSame source target || leadsThere then
            refuse call (sameFile pairing)
          else if isSpared present.tree style source target then return ()
          else
            let kept := refuse call ("not replacing ".toList ++ quotedName pairing.target)
            if ← mayReplace call style pairing.target kept then
              match entry, there with
              | .folder, .folder =>
                  if source.isPrefixOf target then
                    refuse call ("cannot move ".toList ++ quotedName pairing.source ++
                      " to a subdirectory of itself, ".toList ++ quotedName pairing.target)
                  else if (present.tree.children target).isEmpty then
                    moveTo style pairing source target
                  else refuse call (complainThat "cannot overwrite" pairing.target (.os .notEmpty))
              | .folder, _ =>
                  refuse call ("cannot overwrite non-directory ".toList ++
                    quotedName pairing.target ++ " with directory ".toList ++
                    quotedName pairing.source)
              | _, .folder =>
                  refuse call ("cannot overwrite directory ".toList ++
                    quotedName pairing.target ++ " with non-directory".toList)
              | _, _ => moveTo style pairing source target

/-- How a tool treats what is at a place, as its last option on that says. -/
def clashOf (arguments : Arguments) : Clash :=
  match arguments.lastOf? ["f", "i", "n"] with
  | some "i" => .asks
  | some "n" => .keeps
  | _ => .replaces

/-- Moves files. -/
def mv : Tool :=
  .withOptions
    (placeForms ++ [flag 'f' "force", flag 'i' "interactive", flag 'n' "no-clobber",
      flag 'v' "verbose", flag 'u' "", named "strip-trailing-slashes" .nothing]) 1
    fun call arguments =>
      let style : PlacingStyle :=
        { clash := clashOf arguments
          tells := arguments.has "v"
          deep := true
          keepsLinks := true
          asLinks := none
          keepsAll := true
          onlyOlder := arguments.has "u" }
      match pairings call arguments false true with
      | .error finish => finish
      | .ok pairs => Work.finish (for pairing in pairs do movePair call style pairing) call 1

/-- Tells that a pair was copied. -/
def sayCopied
    (style : PlacingStyle)
    (pairing : Pairing) :
    Work Unit := do
  if style.tells then
    say (quotedName pairing.source ++ " -> ".toList ++ quotedName pairing.target)

/-- Copies what is no folder to a place where there is nothing. -/
def copyEntry
    (call : Call)
    (style : PlacingStyle)
    (pairing : Pairing)
    (source place : Location)
    (entry : Entry) :
    Work Unit := do
  let made := fun tree : FileTree =>
    match style.asLinks, entry with
    | some true, _ => tree.replace place (.link (String.ofList pairing.source))
    | some false, _ => tree.share source place
    | none, .link target => tree.replace place (.link target)
    | none, entry =>
        withOrigin style (some call.mask) source place
          (tree.replace place (.file (entry.read.toOption.getD [])))
  if pairing.target.getLast? = some '/' then
    refuse call (complainThat "cannot create regular file" pairing.target (.os .notFolder))
  else
    modify fun progress => { progress with tree := made progress.tree }
    sayCopied style pairing

/-- Copies a folder with everything that was in it to a location. -/
def copyFolder
    (call : Call)
    (style : PlacingStyle)
    (pairing : Pairing)
    (source place : Location) :
    Work Unit := do
  let before := (← get).tree
  if before.get? place = none then
    modify fun progress => { progress with tree := progress.tree.put place .folder }
    sayCopied style pairing
  for (path, entry) in before.listing source do
    let location := locationOf path
    modify fun progress =>
      { progress with
        tree := withOrigin style (some call.mask) (source ++ location) (place ++ location)
          (progress.tree.put (place ++ location) entry) }
    let below := fun front : Octets => joined front (octets path)
    sayCopied style ⟨below pairing.source, below pairing.target⟩

/-- Copies content over the file at a place. -/
def copyOver
    (call : Call)
    (style : PlacingStyle)
    (pairing : Pairing)
    (source place : Location)
    (entry : Entry) :
    Work Unit := do
  let present ← presentCall call
  let kept := return ()
  if ← mayReplace call style pairing.target kept then
    let written := do
      let content ← entry.read
      let tree ← present.withFile pairing.target content
      pure (withOrigin style none source place tree)
    if ← change call (complainThat "cannot create regular file" pairing.target) written then
      sayCopied style pairing

/-- Copies a file or a folder. -/
def copyPair
    (call : Call)
    (style : PlacingStyle)
    (pairing : Pairing) :
    Work Unit := do
  let present ← presentCall call
  let found := if style.keepsLinks then present.ownEntry pairing.source
    else present.entry pairing.source
  match found with
  | .error fault => refuse call (complainThat "cannot stat" pairing.source fault)
  | .ok (_, .folder) =>
      if !style.deep then
        refuse call ("-r not specified; omitting directory ".toList ++ quotedName pairing.source)
      else copyDeep present
  | .ok (source, entry) =>
      match ownPlace present pairing.target with
      | .error fault =>
          if fault = .os .noEntry then
            refuse call (complainThat "cannot create regular file" pairing.target fault)
          else refuse call (complainThat "cannot stat" pairing.target fault)
      | .ok (place, none) => copyEntry call style pairing source place entry
      | .ok (place, some there) =>
          let isFollowed := followed present pairing.source == followed present pairing.target
          if present.tree.areSame source place || isFollowed then
            refuse call (sameFile pairing)
          else if isSpared present.tree style source place then return ()
          else
            match entry, there, followed present pairing.target with
            | _, .folder, _ =>
                refuse call ("cannot overwrite directory ".toList ++
                  quotedName pairing.target ++ " with non-directory".toList)
            | .link target, _, _ => do
                modify fun progress =>
                  { progress with tree := progress.tree.replace place (.link target) }
                sayCopied style pairing
            | _, _, none =>
                refuse call ("not writing through dangling symlink ".toList ++
                  quotedName pairing.target)
            | entry, _, some there => copyOver call style pairing source there entry
where
  /-- Copies a folder, unless something else is in the way. -/
  copyDeep (present : Call) : Work Unit := do
    match present.entry pairing.source, ownPlace present pairing.target with
    | .error fault, _ => refuse call (complainThat "cannot stat" pairing.source fault)
    | _, .error fault =>
        refuse call (complainThat
          (if fault = .os .noEntry then "cannot create directory" else "cannot stat")
          pairing.target fault)
    | .ok (source, _), .ok (place, there) =>
        if there.any (· != .folder) then
          refuse call ("cannot overwrite non-directory ".toList ++ quotedName pairing.target ++
            " with directory ".toList ++ quotedName pairing.source)
        else
          copyFolder call style pairing source place
          if source.isPrefixOf place then
            refuse call ("cannot copy a directory, ".toList ++ quotedName pairing.source ++
              ", into itself, ".toList ++ quotedName pairing.target)

/-- Copies files. -/
def cp : Tool :=
  .withOptions
    (placeForms ++ [flag 'a' "archive", flag 'd' "", flag 'f' "force", flag 'H' "",
      flag 'i' "interactive", flag 'l' "link", flag 'L' "dereference", flag 'n' "no-clobber",
      flag 'P' "no-dereference", flag 'p' "", named "preserve" .perhaps, flag 'R' "",
      flag 'r' "recursive", flag 's' "symbolic-link", flag 'u' "", flag 'v' "verbose",
      flag 'x' "one-file-system"]) 1
    fun call arguments =>
      let deep := ["a", "R", "r"].any arguments.has
      let keepsLinks := match arguments.lastOf? ["a", "d", "H", "L", "P"] with
        | some "H" | some "L" => false
        | some _ => true
        | none => deep
      let style : PlacingStyle :=
        { clash := clashOf arguments
          tells := arguments.has "v"
          deep
          keepsLinks
          asLinks := if arguments.has "s" then some true
            else if arguments.has "l" then some false else none
          keepsAll := ["a", "p", "preserve"].any arguments.has
          onlyOlder := arguments.has "u" }
      match pairings call arguments false true with
      | .error finish => finish
      | .ok pairs => Work.finish (for pairing in pairs do copyPair call style pairing) call 1

/-- How links are made. -/
structure LinkStyle where
  symbolic : Bool
  forced : Bool
  tells : Bool

/-- Links a path at a place. -/
def linkPair
    (call : Call)
    (style : LinkStyle)
    (pairing : Pairing) :
    Work Unit := do
  let present ← presentCall call
  let kind := if style.symbolic then "symbolic" else "hard"
  let create := ("failed to create " ++ kind ++ " link ").toList
  let arrow := (if style.symbolic then " -> " else " => ").toList
  let put := fun (source : Option Location) (place : Location) (entry : Entry) => do
    modify fun progress =>
      { progress with
        tree := match source with
          | some source => progress.tree.share source place
          | none => progress.tree.replace place entry }
    if style.tells then say (quotedName pairing.target ++ arrow ++ quotedName pairing.source)
  let failed := fun fault : IoFault =>
    let namesBoth := !style.symbolic || pairing.source.isEmpty || fault = .os .nameTooLong
    refuse call (create ++ quotedName pairing.target ++
      (if namesBoth then arrow ++ quotedName pairing.source else []) ++
      ": ".toList ++ plainWords fault)
  let made : Except Octets (Option Location × Entry) :=
    if style.symbolic then .ok (none, .link (mend (bytesOf pairing.source)))
    else
      match present.ownEntry pairing.source with
      | .error fault => .error (complainThat "failed to access" pairing.source fault)
      | .ok (_, .folder) =>
          .error (nameIfPlain pairing.source ++ ": hard link not allowed for directory".toList)
      | .ok (location, entry) => .ok (some location, entry)
  match made with
  | .error words => refuse call words
  | .ok (source, entry) =>
      match ownPlace present pairing.target with
      | .error fault => failed fault
      | .ok (place, none) =>
          if pairing.target.getLast? = some '/' ∨ pairing.source.isEmpty then
            failed (.os .noEntry)
          else put source place entry
      | .ok (place, some there) =>
          if style.forced ∧ there ≠ .folder then
            let own := source.getD ((followed present pairing.source).getD [])
            if own = place then refuse call (sameFile pairing)
            else put source place entry
          else
            refuse call (create ++ quotedName pairing.target ++ ": ".toList ++
              plainWords (.os .alreadyThere))

/-- Makes links. -/
def ln : Tool :=
  .withOptions
    (placeForms ++ [flag 'f' "force", flag 'i' "interactive", flag 'L' "logical",
      flag 'n' "no-dereference", flag 'P' "physical", flag 's' "symbolic",
      flag 'v' "verbose"]) 1
    fun call arguments =>
      let style : LinkStyle := ⟨arguments.has "s", arguments.has "f", arguments.has "v"⟩
      match pairings call arguments true (!arguments.has "n") with
      | .error finish => finish
      | .ok pairs => Work.finish (for pairing in pairs do linkPair call style pairing) call 1

/-- Makes one link. -/
def link : Tool :=
  .withOptions [] 1 fun call arguments =>
    match arguments.operands with
    | [] => call.missingOperand 1
    | [operand] =>
        call.misused 1 ("missing operand after ".toList ++ quotedArgument operand)
    | [source, target] =>
        let refused := fun words : Octets =>
          call.failed 1 ("cannot create link ".toList ++ quotedName target ++ " to ".toList ++
            quotedName source ++ ": ".toList ++ words)
        match call.ownEntry source, ownPlace call target with
        | .error fault, _ => refused (plainWords fault)
        | .ok _, .error fault => refused (plainWords fault)
        | .ok _, .ok (_, some _) => refused (plainWords (.os .alreadyThere))
        | .ok (_, .folder), .ok _ => refused "Operation not permitted".toList
        | .ok (location, _), .ok (place, none) =>
            { call.atOnce 0 with tree := call.tree.share location place }
    | _ :: _ :: operand :: _ => call.extraOperand 1 operand

end Tools
end CaptureKit
