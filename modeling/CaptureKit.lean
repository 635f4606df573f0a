import CaptureKit.Main
import CaptureKit.Proofs.Log.Composition
import CaptureKit.Proofs.Log.DumpRoundTrip
import CaptureKit.Proofs.Log.TraceRoundTrip
import CaptureKit.Proofs.Log.TraceGroups
import CaptureKit.Proofs.Log.RefusedLoads
import CaptureKit.Proofs.Log.RefusedSlots
import CaptureKit.Proofs.Log.DistinctPrograms
import CaptureKit.Proofs.Log.Occurrence
import CaptureKit.Proofs.Log.LineEnds
import CaptureKit.Proofs.Microcode.History
import CaptureKit.Proofs.Log.InterruptedConversion
import CaptureKit.Proofs.Draw.EventGroups
import CaptureKit.Proofs.Texture.Deduplication
import CaptureKit.Proofs.Csv.Writing
import CaptureKit.Proofs.Csv.OctetReading
import CaptureKit.Proofs.Draw.OverviewRoundTrip
import CaptureKit.Proofs.Mesh.TableRoundTrip
import CaptureKit.Proofs.Listing.Reading
import CaptureKit.Proofs.Texture.Comparisons
import CaptureKit.Proofs.Log.RaggedGroups
import CaptureKit.Proofs.Texture.Kinds
import CaptureKit.Proofs.Texture.FailedReplacement
import CaptureKit.Proofs.Texture.NameGrammar
import CaptureKit.Proofs.Mesh.ColumnOrder
import CaptureKit.Proofs.Mesh.CallReading
import CaptureKit.Proofs.Mesh.RecordRows
import CaptureKit.Proofs.Draw.EntryForms
import CaptureKit.Proofs.Listing.ToolExchange
import CaptureKit.Proofs.Storage.Resolving
import CaptureKit.Proofs.CommandLine.CaptureRuns
import CaptureKit.Proofs.CommandLine.TextureRuns
