import FlowBundle.Archive.ZipReader
import FlowBundle.Builder.Command
import FlowBundle.Http.Exchange
import FlowBundle.Main
import FlowBundle.Proofs.Archive.Packing
import FlowBundle.Proofs.Blueprint.Rendering
import FlowBundle.Proofs.Shelf.Capacity
import FlowBundle.Proofs.Builder.Publication
import FlowBundle.Proofs.Chat.History
import FlowBundle.Proofs.Chat.Trace
import FlowBundle.Proofs.Chat.Window
import FlowBundle.Proofs.Simulation.Transcript
import FlowBundle.Proofs.Binary64.Rounding
import FlowBundle.Proofs.Binary64.Shortest
import FlowBundle.Proofs.Json.Numeral
import FlowBundle.Proofs.Json.Quoted
import FlowBundle.Proofs.Json.ReadBack
import FlowBundle.Proofs.Builder.Reimport
import FlowBundle.Proofs.Archive.Directories
import FlowBundle.Proofs.Archive.FileTree
import FlowBundle.Proofs.Archive.Recovery
import FlowBundle.Proofs.Blueprint.Cutting
import FlowBundle.Proofs.Blueprint.Substitution
import FlowBundle.Proofs.Chat.Locks
import FlowBundle.Proofs.Shelf.Survival
import FlowBundle.Proofs.Workflow.Acceptance
import FlowBundle.Proofs.Builder.Relevance
import FlowBundle.Proofs.Archive.Extraction
import FlowBundle.Proofs.Builder.Credential
import FlowBundle.Proofs.Builder.Isolation
import FlowBundle.Proofs.Simulation.Ledger
import FlowBundle.Proofs.Simulation.Pairing
import FlowBundle.Proofs.Builder.Refusal
import FlowBundle.Proofs.Workflow.Readings
import FlowBundle.Proofs.Text.LetterCase
import FlowBundle.Proofs.Text.Lines
import FlowBundle.Proofs.Blueprint.Adapter
import FlowBundle.Proofs.Files
import FlowBundle.Proofs.Builder.Catalog
import FlowBundle.Proofs.CommandLine.Run
import FlowBundle.Proofs.Binary64.Order
import FlowBundle.Proofs.Settings.Range
import FlowBundle.Proofs.Text.Trim
import FlowBundle.Proofs.Settings.Environment
import FlowBundle.Proofs.Settings.Origins
import FlowBundle.Proofs.Blueprint.Lines
import FlowBundle.Proofs.Builder.Lines
