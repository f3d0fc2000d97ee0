import DeltaSignature.Main
import DeltaSignature.Proofs.Command.Inspecting
import DeltaSignature.Proofs.Command.Sizes
import DeltaSignature.Proofs.Command.Signing
import DeltaSignature.Proofs.Index.Equality
import DeltaSignature.Proofs.Index.Lookup
import DeltaSignature.Proofs.Signing.Files
import DeltaSignature.Proofs.Signing.Finding
import DeltaSignature.Proofs.Signing.Interrupted
import DeltaSignature.Proofs.SlidingWindow.Counters
import DeltaSignature.Proofs.SlidingWindow.Recovery
import DeltaSignature.Proofs.SlidingWindow.Refusals
import DeltaSignature.Proofs.Stream.Accounting
import DeltaSignature.Proofs.Stream.Conservation
import DeltaSignature.Proofs.Stream.Finality
import DeltaSignature.Proofs.Stream.LimitedRoom
import DeltaSignature.Proofs.Stream.Loading
import DeltaSignature.Proofs.Stream.Reports
import DeltaSignature.Proofs.Stream.Termination
import DeltaSignature.Proofs.Text.Numerals
