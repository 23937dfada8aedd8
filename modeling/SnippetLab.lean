import SnippetLab.Main
import SnippetLab.Batch.Worker
import SnippetLab.Proofs.Batch.Input
import SnippetLab.Proofs.Batch.Lockstep
import SnippetLab.Proofs.Batch.Memory
import SnippetLab.Proofs.Batch.Threads
import SnippetLab.Proofs.Expression.Sums
import SnippetLab.Proofs.Fix.KeyFix
import SnippetLab.Proofs.Fix.ControlLines
import SnippetLab.Proofs.Fix.Formatting
import SnippetLab.Proofs.Host.Frames
import SnippetLab.Proofs.Host.Replies
import SnippetLab.Proofs.Host.Independence
import SnippetLab.Proofs.Host.Refusals
import SnippetLab.Proofs.Session.Locals
import SnippetLab.Proofs.Stepper.Resume
import SnippetLab.Proofs.Stepper.View
import SnippetLab.Proofs.Statement.Written
import SnippetLab.Proofs.Session.Effects
import SnippetLab.Proofs.Source.Rows
import SnippetLab.Proofs.Host.Messages
import SnippetLab.Proofs.Source.Remarks
import SnippetLab.Proofs.Stepper.Machine
import SnippetLab.Proofs.Stepper.Soundness
import SnippetLab.Proofs.Fix.EditDistance
import SnippetLab.Proofs.Fix.Containment
import SnippetLab.Proofs.Expression.Parentheses
import SnippetLab.Proofs.Stepper.BlockEnd
import SnippetLab.Proofs.Fix.FirstDifference
import SnippetLab.Proofs.Expression.Unknown
import SnippetLab.Proofs.Statement.Annotated
import SnippetLab.Proofs.Source.Stripping
import SnippetLab.Proofs.Check.Pairing
import SnippetLab.Proofs.Check.Indentation
import SnippetLab.Proofs.Check.Bounds
import SnippetLab.Proofs.Session.Windows
import SnippetLab.Proofs.Check.LoopUpdates
import SnippetLab.Proofs.Check.Overruns
import SnippetLab.Proofs.Session.Records
import SnippetLab.Proofs.Session.Frames
import SnippetLab.Proofs.Session.Steps
import SnippetLab.Proofs.Host.Patches
import SnippetLab.Proofs.Source.Pieces
import SnippetLab.Proofs.Source.Depths
import SnippetLab.Proofs.Batch.Stopped
import SnippetLab.Proofs.Check.Blocks
import SnippetLab.Proofs.Check.WordPlaces
import SnippetLab.Proofs.Console.Session
