import RingTape.Bracketing
import RingTape.Demonstration
import RingTape.FileTree
import RingTape.History
import RingTape.Main
import RingTape.Program.Symmetry
import RingTape.Session
import RingTape.Straight
import RingTape.Tape.Line
import RingTape.Tape.Symmetry
import RingTape.Tree
import RingTape.Proofs.Matching
import RingTape.Proofs.StackPass
import RingTape.Proofs.Scans
import RingTape.Proofs.Lockstep
import RingTape.Proofs.UnmatchedBrackets
import RingTape.Proofs.Exchanges
import RingTape.Proofs.Structured
import RingTape.Proofs.Interpretation
import RingTape.Proofs.EndlessTape
import RingTape.Proofs.InRange
import RingTape.Proofs.Streams
import RingTape.Proofs.Deliveries
import RingTape.Proofs.BrokenStreams
import RingTape.Proofs.Insertion
import RingTape.Proofs.Replacement
import RingTape.Proofs.Relocation
import RingTape.Proofs.Sequence
import RingTape.Proofs.Comments
import RingTape.Proofs.Symmetries
import RingTape.Proofs.Sessions
import RingTape.Proofs.StraightCode
import RingTape.Proofs.CountingLoops
import RingTape.Proofs.Rewrites
import RingTape.Proofs.Encoding
import RingTape.Proofs.ProgramFiles
import RingTape.Proofs.Literals
import RingTape.Proofs.Invocations
import RingTape.Proofs.Calls
import RingTape.Proofs.Negation
import RingTape.Proofs.Reports
import RingTape.Proofs.Refusals
import RingTape.Proofs.UnreadableFiles
import RingTape.Proofs.CopyLoop
import RingTape.Proofs.Greetings
