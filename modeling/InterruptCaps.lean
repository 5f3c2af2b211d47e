import InterruptCaps.Gic.Distributor
import InterruptCaps.Irq.Bitmap
import InterruptCaps.Kernel.Invoke
import InterruptCaps.Log.Logger
import InterruptCaps.Proofs.Gic.Programming
import InterruptCaps.Proofs.Gic.Rewiring
import InterruptCaps.Proofs.Gic.Refinement
import InterruptCaps.Proofs.Gic.Recorder
import InterruptCaps.Proofs.Irq.LineSet
import InterruptCaps.Proofs.Space.Path
import InterruptCaps.Proofs.Space.Window
import InterruptCaps.Proofs.Space.Rounds
import InterruptCaps.Proofs.Space.WellFormed
import InterruptCaps.Proofs.Message.Codec
import InterruptCaps.Proofs.Kernel.Failure
import InterruptCaps.Proofs.Kernel.Checks
import InterruptCaps.Proofs.Kernel.Success
import InterruptCaps.Proofs.Kernel.Registered
import InterruptCaps.Proofs.Kernel.Matched
import InterruptCaps.Proofs.Kernel.SingleCore
import InterruptCaps.Proofs.Kernel.Growth
import InterruptCaps.Proofs.Kernel.Wiring
import InterruptCaps.Proofs.Kernel.Recorded
import InterruptCaps.Proofs.Kernel.Handover
import InterruptCaps.Proofs.Kernel.Cluster
import InterruptCaps.Proofs.Kernel.Provenance
import InterruptCaps.Proofs.Kernel.Signals
import InterruptCaps.Proofs.Kernel.Confinement
import InterruptCaps.Proofs.Kernel.Undisturbed
import InterruptCaps.Proofs.Kernel.Declared
import InterruptCaps.Proofs.Kernel.Independence
import InterruptCaps.Proofs.Kernel.Ownership
import InterruptCaps.Proofs.Kernel.Release
import InterruptCaps.Proofs.Kernel.Reply
import InterruptCaps.Proofs.Log.Accounts
import InterruptCaps.Proofs.Log.Drain
import InterruptCaps.Log.Room
import InterruptCaps.Proofs.Text.Boundary
import InterruptCaps.Proofs.Log.Stored
import InterruptCaps.Proofs.Log.Drafts
import InterruptCaps.Kernel.Audit
import InterruptCaps.Proofs.Kernel.Audited
