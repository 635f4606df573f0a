import CaptureKit.CommandLine.Captures
import CaptureKit.Proofs.Storage.Writing
import CaptureKit.Proofs.Text.Encoding

/-!
# Runs of the command for exported captures

Both requests come to one text, which depends on the whole input.  If the input cannot be read or
parsed there is no such text, and nothing is done: no file is touched, and nothing is printed of
what came before the fault.  Otherwise the text is printed, or it is written by one path.  A write
may be refused when some of the text was written already.

Main statement: what a run leaves, for every request (`all_or_nothing`).
-/

namespace CaptureKit
namespace CommandLine
namespace Captures

open Storage FileTree Text

/-- The arguments ask for this. -/
def Asks (arguments : List String) (request : Request) : Prop :=
  ∃ name rest reader,
    outerGrammar.readCommand (readers.map Prod.fst) arguments = .ok (name, rest) ∧
    readers.lookup name = some reader ∧
    reader rest = .ok request

/-- The file that is read for a request. -/
def Request.input : Request → String
  | .hostCalls table _ => table
  | .draws overview _ => overview

/-- The file that the text of a request goes to, if it is not printed. -/
def Request.output? : Request → Option String
  | .hostCalls _ output => output
  | .draws _ _ => none

/-- The text that a request makes of its input: the host calls of a table, or one line and an
empty one for each draw of an overview with enough textures. -/
def Request.textOf? (request : Request) (input : String) : Option String :=
  match request with
  | .hostCalls _ _ => (Mesh.hostCalls input.toList).toOption
  | .draws _ least => do
      let draws ← (Draw.overview input.toList).toOption
      let matching := draws.filter fun draw => least ≤ draw.2.textureCount
      pure (String.join (matching.map fun draw => draw.1 ++ ": " ++ draw.2.summary ++ "\n\n"))

/-- What a request comes to on the files as they are, if its input is a text that can be
parsed. -/
def Request.product? (host : Host) (request : Request) : Option String :=
  (host.readText request.input).toOption.bind request.textOf?

/-- The command failed before it did anything. -/
structure Refused (host : Host) (outcome : Outcome) : Prop where
  exit : outcome.exit = 1
  output : outcome.output = []
  tree : outcome.tree = host.tree

/-- What becomes of a text: it is printed, or it is written by a path. -/
def deliver
    (host : Host)
    (output : Option String)
    (product : String) :
    Outcome :=
  match output with
  | none => .done host.tree (encode product)
  | some path =>
      match host.tree.writeBytes (host.resolve path) (encode product) with
      | (written, none) => .done written (written.received 1)
      | (written, some cause) =>
          .failed written (written.received 1) (failure "write" (host.resolve path) cause.report)

section Asking

variable {arguments : List String} {request : Request}

/-- What is asked for is done. -/
theorem run_of_asks
    (h : Asks arguments request)
    (host : Host) :
    run host arguments = perform host request := by
  obtain ⟨name, rest, reader, hcommand, hreader, hrequest⟩ := h
  rw [run, hcommand]
  dsimp only
  rw [hreader]
  dsimp only
  rw [hrequest]

/-- Host calls can be asked for whatever the files are called. -/
theorem asks_hostCalls (table : String) (output : Option String) :
    Asks ("mesh-to-vertices" :: "--" :: table :: output.toList) (.hostCalls table output) := by
  refine ⟨"mesh-to-vertices", _, _, rfl, rfl, ?_⟩
  cases output <;> rfl

end Asking

section Performing

variable (host : Host)

/-- A file is read and parsed if its text can be parsed. -/
theorem toOption_readWith
    {ε α : Type}
    (path : String)
    (parse : List Char → Except ε α)
    (report : ε → Report) :
    (readWith host (host.resolve path) parse report).toOption =
      (host.readText path).toOption.bind fun text => (parse text.toList).toOption := by
  rw [readWith, Host.readText]
  cases host.tree.readText (host.resolve path) with
  | error cause => rfl
  | ok text => cases h : parse text.toList <;> simp [h, Except.mapError, Except.toOption]

/-- The calls for a table are what there is to print or write. -/
theorem product?_hostCalls (table : String) (output : Option String) :
    (Request.hostCalls table output).product? host =
      (readWith host (host.resolve table) Mesh.hostCalls Mesh.TableFault.report).toOption :=
  (toOption_readWith host table Mesh.hostCalls _).symm

/-- The lines on the draws are what there is to print. -/
theorem product?_draws (overview : String) (least : Nat) :
    (Request.draws overview least).product? host =
      (readWith host (host.resolve overview) Draw.overview Draw.OverviewFault.report).toOption.map
        fun draws => String.join ((Draw.withTextures least draws).map drawLines) := by
  rw [toOption_readWith, Request.product?, Request.input]
  cases (host.readText overview).toOption with
  | none =>
      rfl
  | some text =>
      rw [Option.bind_some, Option.bind_some, Request.textOf?]
      cases Draw.overview text.toList <;> rfl

/-- A request fails and leaves all files as they are, or it comes to a text that is delivered. -/
theorem failed_or_delivered (request : Request) :
    (request.product? host = none ∧
      ∃ report, perform host request = .failed host.tree [] report) ∨
    ∃ product, request.product? host = some product ∧
      perform host request = deliver host request.output? product := by
  cases request with
  | hostCalls table output =>
      rw [product?_hostCalls, perform]
      delta printCalls
      cases readWith host (host.resolve table) Mesh.hostCalls Mesh.TableFault.report with
      | error report => exact .inl ⟨rfl, report, rfl⟩
      | ok calls => exact .inr ⟨calls, rfl, rfl⟩
  | draws overview least =>
      rw [product?_draws, perform]
      delta printDraws
      cases readWith host (host.resolve overview) Draw.overview Draw.OverviewFault.report with
      | error report => exact .inl ⟨rfl, report, rfl⟩
      | ok draws => exact .inr ⟨_, rfl, rfl⟩

end Performing

section Running

variable {host : Host} {arguments : List String} {request : Request}

/-- What is read at a path where something was written, if this is no device. -/
theorem readBytes_of_written
    {tree after : FileTree}
    {path : String}
    {content printed : Bytes}
    {location : Location}
    {entry : Entry}
    (hwritten : Written tree after path content location entry)
    (hdelivered : Delivered content entry printed)
    (hentry : ∀ device, entry ≠ .device device) :
    printed = [] ∧ after.readBytes path = .ok content := by
  cases hdelivered with
  | kept =>
      rw [readBytes, hwritten.leads]
      exact ⟨rfl, rfl⟩
  | printed => exact absurd rfl (hentry _)
  | dropped => exact absurd rfl (hentry _)

/-- Without a text that can be parsed a run fails before it does anything.  With it, the run prints
what it makes of the text and touches no file, or it writes that by one path.  Then it fails
before it does anything, or it changes nothing but what this path leads to.  This holds what was
written, and nothing is printed, unless it is a device.  All of the text was written if the run
succeeds, and a beginning of it if the run fails. -/
theorem all_or_nothing
    (hasks : Asks arguments request)
    (hreceived : host.tree.received 1 = [])
    (hshared : host.tree.SharesFiles) :
    (request.product? host = none → Refused host (run host arguments)) ∧
    ∀ product, request.product? host = some product →
      (request.output? = none → run host arguments = .done host.tree (encode product)) ∧
      ∀ path, request.output? = some path →
        Refused host (run host arguments) ∨
        ∃ location entry taken,
          ((run host arguments).exit = 0 ∧ taken = encode product ∨
            (run host arguments).exit = 1 ∧ taken <+: encode product) ∧
          Written host.tree (run host arguments).tree (host.resolve path) taken location entry ∧
          Delivered taken entry (run host arguments).output ∧
          ((∀ device, entry ≠ .device device) →
            (run host arguments).output = [] ∧
            (run host arguments).tree.readBytes (host.resolve path) = .ok taken) := by
  rw [run_of_asks hasks]
  rcases failed_or_delivered host request with
    ⟨hproduct, report, hfailed⟩ | ⟨product, hproduct, hdelivered⟩
  · rw [hfailed, hproduct]
    exact ⟨fun _ => ⟨rfl, rfl, rfl⟩, by simp⟩
  · rw [hdelivered, hproduct]
    refine ⟨by simp, ?_⟩
    rintro other ⟨⟩
    refine ⟨fun houtput => by rw [houtput, deliver], fun path houtput => ?_⟩
    rw [houtput, deliver]
    rcases hwrite : host.tree.writeBytes (host.resolve path) (encode product) with
      ⟨after, _ | cause⟩
    all_goals
      rcases exists_written_of_writeBytes hreceived hshared hwrite with
        ⟨rfl, hfails⟩ | ⟨location, entry, taken, htaken, hall, hwritten⟩
    · exact absurd rfl hfails
    · exact .inr ⟨location, entry, taken, .inl ⟨rfl, hall rfl⟩, hwritten, hwritten.delivered,
        readBytes_of_written hwritten hwritten.delivered⟩
    · exact .inl ⟨rfl, hreceived, rfl⟩
    · exact .inr ⟨location, entry, taken, .inr ⟨rfl, htaken⟩, hwritten, hwritten.delivered,
        readBytes_of_written hwritten hwritten.delivered⟩

end Running

section Sample

/-- A table with one vertex, and a path of the standard output. -/
def sampleHost : Host where
  workingFolder := "/"
  home := "/"
  tree := .ofEntries [(["table.csv"], .file (encode "v0.x\n1\n")), (["dev"], .folder),
    (["dev", "stdout"], .device (.stream 1 []))]

/-- The host calls for this table. -/
def sampleCalls : String := "  host_.SetVertex(1);\n\n"

/-- The arguments that ask for these calls to be written by a path. -/
def sampleArguments (path : String) : List String :=
  ["mesh-to-vertices", "--", "table.csv", path]

theorem sampleHost_sharesFiles : sampleHost.tree.SharesFiles := by
  rintro group ⟨⟩

theorem product?_sampleHost (output : Option String) :
    (Request.hostCalls "table.csv" output).product? sampleHost =
      some sampleCalls := by
  have hpath : EndsIn "/table.csv" [] "table.csv" := ⟨by decide, by decide, by decide⟩
  have hresolved : sampleHost.resolve "table.csv" = "/table.csv" := by decide
  have hvalid : pathFault? "/table.csv" = none := by decide
  have hfile : sampleHost.tree.get? ([] ++ ["table.csv"]) = some (.file (encode "v0.x\n1\n")) :=
    rfl
  have hread : sampleHost.readText "table.csv" = .ok "v0.x\n1\n" := by
    rw [Host.readText, hresolved, readText,
      readBytes_of_leaf hpath (.done rfl) (Nat.zero_le _) hfile trivial, hvalid]
    dsimp only
    rw [Entry.read]
    dsimp only
    rw [decode_encode]
    rfl
  rw [Request.product?, Request.input, hread]
  change (Mesh.hostCalls "v0.x\n1\n".toList).toOption = _
  decide +kernel

/-- What is asked of the command is delivered to the path of an entry that takes it. -/
theorem run_sampleHost
    {path : String}
    {location : Location}
    {old new : Entry}
    (hvalid : pathFault? (sampleHost.resolve path) = none)
    (hwalk : sampleHost.tree.walk .create linkLimit [] (route (sampleHost.resolve path).toList) =
      .ok (.found location old))
    (hwrite : old.write (encode sampleCalls) = .ok new) :
    run sampleHost (sampleArguments path) =
      .done (sampleHost.tree.overwrite location new)
        ((sampleHost.tree.overwrite location new).received 1) := by
  have hrun := run_of_asks (asks_hostCalls "table.csv" (some path)) sampleHost
  rcases failed_or_delivered sampleHost (.hostCalls "table.csv" (some path)) with
    ⟨hproduct, -⟩ | ⟨product, hproduct, hdelivered⟩
  · rw [product?_sampleHost] at hproduct
    cases hproduct
  · rw [product?_sampleHost] at hproduct
    cases hproduct
    have hwritten : sampleHost.tree.writeBytes (sampleHost.resolve path) (encode sampleCalls) =
        (sampleHost.tree.overwrite location new, none) :=
      writeBytes_of_walk hvalid hwalk rfl hwrite
    rw [hdelivered, Request.output?, deliver, hwritten] at hrun
    exact hrun

theorem sampleHost_walk_table :
    sampleHost.tree.walk .create linkLimit [] (route "/table.csv".toList) =
      .ok (.found ["table.csv"] (.file (encode "v0.x\n1\n"))) := by
  have hroute : route "/table.csv".toList = ["table.csv"] := by decide
  have hroot : sampleHost.tree.get? [] = some .folder := rfl
  have hentry : sampleHost.tree.get? ["table.csv"] = some (.file (encode "v0.x\n1\n")) := rfl
  have hshort : ¬ nameLimit < "table.csv".utf8ByteSize := by decide
  rw [hroute]
  simp [walk, hroot, hentry, hshort]

theorem sampleHost_walk_stream :
    sampleHost.tree.walk .create linkLimit [] (route "/dev/stdout".toList) =
      .ok (.found ["dev", "stdout"] (.device (.stream 1 []))) := by
  have hroute : route "/dev/stdout".toList = ["dev", "stdout"] := by decide
  have hroot : sampleHost.tree.get? [] = some .folder := rfl
  have hfolder : sampleHost.tree.get? ["dev"] = some .folder := rfl
  have hentry : sampleHost.tree.get? ["dev", "stdout"] = some (.device (.stream 1 [])) := rfl
  have hshort : ¬ nameLimit < "dev".utf8ByteSize := by decide
  have hshort' : ¬ nameLimit < "stdout".utf8ByteSize := by decide
  rw [hroute]
  simp [walk, hroot, hfolder, hentry, hshort, hshort']

/-- The calls for a table can be written to the file of the table itself. -/
theorem all_or_nothing_sampleHost :
    Asks (sampleArguments "table.csv") (.hostCalls "table.csv" (some "table.csv")) ∧
    sampleHost.tree.received 1 = [] ∧ sampleHost.tree.SharesFiles ∧
    (run sampleHost (sampleArguments "table.csv")).exit = 0 ∧
    ∃ location entry,
      Written sampleHost.tree (run sampleHost (sampleArguments "table.csv")).tree
        (sampleHost.resolve "table.csv") (encode sampleCalls) location entry ∧
      Delivered (encode sampleCalls) entry
        (run sampleHost (sampleArguments "table.csv")).output := by
  have hasks : Asks (sampleArguments "table.csv") (.hostCalls "table.csv" (some "table.csv")) :=
    asks_hostCalls "table.csv" (some "table.csv")
  have hresolved : sampleHost.resolve "table.csv" = "/table.csv" := by decide
  have hvalid : pathFault? "/table.csv" = none := by decide
  have hrun := run_sampleHost (hresolved.symm ▸ hvalid) (hresolved.symm ▸ sampleHost_walk_table) rfl
  refine ⟨hasks, rfl, sampleHost_sharesFiles, by rw [hrun]; rfl, ?_⟩
  obtain ⟨-, hproduct⟩ := all_or_nothing hasks rfl sampleHost_sharesFiles
  rcases (hproduct _ (product?_sampleHost _)).2 "table.csv" rfl with
    hrefused | ⟨location, entry, taken, ⟨-, rfl⟩ | ⟨hexit, -⟩, hwritten, hdelivered, -⟩
  · have hexit := hrefused.exit
    rw [hrun] at hexit
    cases hexit
  · exact ⟨location, entry, hwritten, hdelivered⟩
  · rw [hrun] at hexit
    cases hexit

/-- Calls that are written by a path are not always kept from the standard output. -/
theorem calls_printed_by_path :
    ¬ ∀ (host : Host) (arguments : List String) (table path product : String),
      Asks arguments (.hostCalls table (some path)) →
      host.tree.received 1 = [] →
      host.tree.SharesFiles →
      (Request.hostCalls table (some path)).product? host = some product →
      (run host arguments).output = [] := by
  intro h
  have hsilent := h sampleHost _ _ _ _ (asks_hostCalls "table.csv" (some "/dev/stdout")) rfl
    sampleHost_sharesFiles (product?_sampleHost _)
  have hresolved : sampleHost.resolve "/dev/stdout" = "/dev/stdout" := by decide
  have hvalid : pathFault? "/dev/stdout" = none := by decide
  have hrun :=
    run_sampleHost (hresolved.symm ▸ hvalid) (hresolved.symm ▸ sampleHost_walk_stream) rfl
  have hprinted : (run sampleHost (sampleArguments "/dev/stdout")).output =
      encode sampleCalls := by
    rw [hrun]
    rfl
  exact absurd (hprinted.symm.trans hsilent) (by decide)

end Sample

end Captures
end CommandLine
end CaptureKit
