import StatementShell.Execution.Subscription
import StatementShell.Grammar.Cursor
import StatementShell.Main
import StatementShell.Proofs.Grammar.Derivation
import StatementShell.Proofs.Grammar.Recognition
import StatementShell.Proofs.Grammar.Embedding
import StatementShell.Proofs.Grammar.Segments
import StatementShell.Proofs.Acceptance
import StatementShell.Proofs.Token.Scanning
import StatementShell.Proofs.Execution.Course
import StatementShell.Proofs.Execution.Schedule
import StatementShell.Proofs.Dispatch.Disturbed
import StatementShell.Proofs.Dispatch.CutShort
import StatementShell.Proofs.Dispatch.Cancelled
import StatementShell.Proofs.Dispatch.History
import StatementShell.Proofs.Dispatch.Endings
import StatementShell.Proofs.Table.Drawing
import StatementShell.Proofs.Token.Literals
import StatementShell.Proofs.CompiledPrograms
import StatementShell.Proofs.Execution.Compiled
import StatementShell.Proofs.Console.Taking
import StatementShell.Proofs.Console.Splitting
import StatementShell.Proofs.Console.Interrupts
import StatementShell.Proofs.Token.Segments
import StatementShell.Proofs.Execution.Relocation
import StatementShell.Proofs.Batch.Compilation
import StatementShell.Proofs.Batch.Agreement
import StatementShell.Proofs.Token.Spelling
import StatementShell.Proofs.Grammar.Faults
import StatementShell.Proofs.Grammar.Recovery
import StatementShell.Proofs.Messages
import StatementShell.Proofs.Console.SingleInstructions
import StatementShell.Proofs.Console.Endurance
import StatementShell.Proofs.Text.Classes
import StatementShell.Proofs.Token.Rescanning
import StatementShell.Proofs.Token.LexicalFaults
import StatementShell.Proofs.Grammar.Places
import StatementShell.Proofs.Spacing
import StatementShell.Proofs.Table.Widths
import StatementShell.Proofs.Table.Reading
import StatementShell.Proofs.Files.Opening
import StatementShell.Proofs.CommandLine
import StatementShell.Proofs.Table.Alignment
import StatementShell.Proofs.Dispatch.Boxes
import StatementShell.Proofs.Dispatch.ErrorLines
import StatementShell.Proofs.RoundTrip
import StatementShell.Proofs.Console.Transcripts
import StatementShell.Proofs.Console.Calls
import StatementShell.Proofs.Execution.Subscriptions
import StatementShell.Proofs.Grammar.Cursors
import StatementShell.Proofs.ReservedWords
