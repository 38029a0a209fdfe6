import BatchTraversal.Main
import BatchTraversal.Rehearsal.Detection
import BatchTraversal.Rehearsal.Play
import BatchTraversal.Rehearsal.SoloTraverser
import BatchTraversal.Proofs.Connector.Paging
import BatchTraversal.Proofs.Detection.Announcements
import BatchTraversal.Proofs.Detection.Agenda
import BatchTraversal.Proofs.Detection.InOrder
import BatchTraversal.Proofs.Pool.LifeCycle
import BatchTraversal.Proofs.Pool.Shutdown
import BatchTraversal.Proofs.Schedule.Canonical
import BatchTraversal.Proofs.Schedule.Hours
import BatchTraversal.Proofs.Schedule.RoundTrip
import BatchTraversal.Proofs.Schedule.Windows
import BatchTraversal.Proofs.Store.Histories
import BatchTraversal.Proofs.Throttle.Tumbling
import BatchTraversal.Proofs.Throttle.Window
import BatchTraversal.Proofs.Pool.Reclaiming
import BatchTraversal.Proofs.Traverser.Cancelling
import BatchTraversal.Proofs.Traverser.Codes
import BatchTraversal.Proofs.Traverser.Resuming
import BatchTraversal.Proofs.World.Alone
import BatchTraversal.Proofs.World.Accounting
import BatchTraversal.Proofs.World.Backoff
import BatchTraversal.Proofs.World.Coverage
import BatchTraversal.Proofs.World.DelayedChanges
import BatchTraversal.Proofs.World.Fences
import BatchTraversal.Proofs.World.Figures
import BatchTraversal.Proofs.World.Interruption
import BatchTraversal.Proofs.World.Isolation
import BatchTraversal.Proofs.World.LoadCeiling
import BatchTraversal.Proofs.World.OwnCheckpoints
import BatchTraversal.Proofs.World.Passes
import BatchTraversal.Proofs.World.Provenance
import BatchTraversal.Proofs.World.Rejections
import BatchTraversal.Proofs.World.RepeatedConfiguration
import BatchTraversal.Proofs.World.RepeatedRemoval
import BatchTraversal.Proofs.World.Restarting
