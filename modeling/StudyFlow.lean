import StudyFlow.Main
import StudyFlow.Monitor
import StudyFlow.Proofs.Text.Decimal
import StudyFlow.Proofs.Status.Line
import StudyFlow.Proofs.FileTree.Entries
import StudyFlow.Proofs.FileTree.Routes
import StudyFlow.Proofs.FileTree.Files
import StudyFlow.Proofs.Status.File
import StudyFlow.Proofs.Expansion.Instances
import StudyFlow.Proofs.Lifecycle.Operations
import StudyFlow.Proofs.Lifecycle.StatusLine
import StudyFlow.Pool
import StudyFlow.Proofs.Drive.Course
import StudyFlow.Proofs.Drive.History
import StudyFlow.Proofs.Drive.Causes
import StudyFlow.Proofs.Drive.Limit
import StudyFlow.Proofs.Drive.Reference
import StudyFlow.Proofs.Pool.Ledger
import StudyFlow.Proofs.Pool.Schedule
import StudyFlow.Proofs.Pool.Settlement
import StudyFlow.Proofs.Study.Check
import StudyFlow.Proofs.Path.Components
import StudyFlow.Proofs.Expansion.Workspaces
import StudyFlow.Proofs.Drive.Isolation
import StudyFlow.Proofs.Lifecycle.Persistence
import StudyFlow.Proofs.Path.Ordinary
import StudyFlow.Proofs.Pool.Alone
import StudyFlow.Proofs.Pool.Independence
import StudyFlow.Proofs.Study.Queues
import StudyFlow.Proofs.Study.Names
import StudyFlow.Proofs.Path.Below
import StudyFlow.Proofs.Study.Containment
import StudyFlow.Proofs.Drive.Footprint
import StudyFlow.Proofs.Drive.Rehearsal
import StudyFlow.Proofs.Pool.Rehearsal
import StudyFlow.Proofs.Pool.Turns
import StudyFlow.Proofs.Runner.Rehearsal
import StudyFlow.Proofs.Monitor.Sample
import StudyFlow.Proofs.Monitor.Release
import StudyFlow.Proofs.FirstFault
import StudyFlow.Proofs.Parameter.Validation
import StudyFlow.Proofs.Text.ByteOrder
import StudyFlow.Proofs.Expansion.Outcomes
import StudyFlow.Proofs.Study.QueueListing
import StudyFlow.Proofs.Pool.Success
import StudyFlow.Proofs.Runner.Success
import StudyFlow.Proofs.CommandLine.Verdict
import StudyFlow.Proofs.Status.Reading
import StudyFlow.Proofs.Text.Occurrences
import StudyFlow.Proofs.Expansion.Insertion
import StudyFlow.Proofs.Drive.Requests
import StudyFlow.Proofs.Lifecycle.Family
import StudyFlow.Proofs.Lifecycle.Labels
import StudyFlow.Proofs.Lifecycle.RestartBudget
import StudyFlow.Proofs.Text.Folded
import StudyFlow.Proofs.Lifecycle.Samples
import StudyFlow.Proofs.Lifecycle.Copies
import StudyFlow.Proofs.Runner.Legs
import StudyFlow.Proofs.Path.Children
import StudyFlow.Proofs.FileTree.Listing
import StudyFlow.Proofs.Status.Collection
import StudyFlow.Proofs.FileTree.Regularity
import StudyFlow.Proofs.Runner.Regularity
import StudyFlow.Proofs.Path.Immediate
import StudyFlow.Proofs.Lifecycle.SetUp
import StudyFlow.Proofs.Study.Placement
import StudyFlow.Proofs.Monitor.Polling
import StudyFlow.Proofs.CommandLine.Grammar
import StudyFlow.Proofs.LocalAdapter.Capture
import StudyFlow.Proofs.LocalAdapter.Marker
import StudyFlow.Proofs.Parameter.Decoding
import StudyFlow.Proofs.Text.Replacement
