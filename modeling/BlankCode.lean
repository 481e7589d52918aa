import BlankCode.Command.Writing
import BlankCode.Comparison
import BlankCode.Console.Script
import BlankCode.Main
import BlankCode.Proofs.Grammar
import BlankCode.Proofs.Interpreter
import BlankCode.Proofs.Linker
import BlankCode.Proofs.Linking
import BlankCode.Proofs.Simulation
import BlankCode.Proofs.Viability
import BlankCode.Proofs.RoundTrip
import BlankCode.Proofs.Confinement
import BlankCode.Proofs.Record
import BlankCode.Proofs.WordRange
import BlankCode.Proofs.Exposure
import BlankCode.Proofs.Foreseen
import BlankCode.Proofs.Exposure.Replies
import BlankCode.Proofs.Finality
import BlankCode.Proofs.Telling
import BlankCode.Proofs.Limits
import BlankCode.Proofs.Aftermath
import BlankCode.Proofs.Encoding
import BlankCode.Proofs.Agreement
import BlankCode.Proofs.Canonical
import BlankCode.Proofs.Concatenation
import BlankCode.Proofs.Frame
import BlankCode.Proofs.Likeness
import BlankCode.Proofs.DenseHeap
import BlankCode.Proofs.Halting
import BlankCode.Proofs.Relabeling
import BlankCode.Proofs.Decimal
import BlankCode.Proofs.Readback
import BlankCode.Proofs.Lookahead
import BlankCode.Proofs.Unbounded
import BlankCode.Proofs.Division
import BlankCode.Proofs.Chunking
import BlankCode.Proofs.OneLine
import BlankCode.Proofs.Tally
import BlankCode.Proofs.OneLine.Running
import BlankCode.Proofs.Verbosity
import BlankCode.Proofs.Independence
import BlankCode.Proofs.Listing
