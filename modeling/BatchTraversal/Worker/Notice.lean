import BatchTraversal.Batch.Result
import BatchTraversal.Document.Shapes

/-!
# What a worker tells

The notices that a worker writes to its log, with the level, the target and the fields by which a filter
chooses among them.
-/

namespace BatchTraversal

/-- The importance of a notice, from the highest. -/
inductive Level where
  | error
  | warn
  | info
  | debug
  | trace
  deriving DecidableEq, Repr

/-- The rank of a level, which is higher for less important ones. -/
def Level.rank : Level → Nat
  | error => 1
  | warn => 2
  | info => 3
  | debug => 4
  | trace => 5

/-- Something a worker tells. -/
inductive Notice where
  | manifestMissing (path : String)
  | manifestLoaded (path : String) (connectors : Nat)
  | starting (connectors workers : Nat)
  /-- A single pass was made and started so many batches. -/
  | passSubmitted (started : Nat)
  | batchFinished (connector : String) (result : BatchResult)
  /-- A single pass has batches that did not end in time. -/
  | stillRunning
  | interrupted
  /-- The scheduler has shut down and all batches have ended. -/
  | drained
  /-- The scheduler has shut down with batches that did not end in time. -/
  | undrained (timeout : Duration)
  /-- The worker ends. -/
  | exited (drained : Bool)
  deriving DecidableEq

/-- A stretch of work with a name, during which notices are told. -/
structure Span where
  name : String
  target : String
  /-- The values by which the stretch is told from others. -/
  fields : List (String × String)
  deriving DecidableEq, Repr

/-- The number that stands for those of all batches, which are drawn at random. -/
def Span.anyBatchId : String := "7d9f2b4e-1c35-4a68-9e0b-d3f1856c27a4"

/-- The span of a batch. -/
def Span.batch (connector : String) : Span :=
  { name := "batch", target := "conduit_scheduler::coordinator::batch",
    fields := [("connector", connector), ("batch_id", Span.anyBatchId)] }

namespace Notice

def level : Notice → Level
  | manifestMissing _ | stillRunning | undrained _ | exited false => .warn
  | _ => .info

/-- The part of the program that tells a notice, as filters name it. -/
def target : Notice → String
  | drained | undrained _ => "conduit_scheduler::runner::execution"
  | _ => "traversal_worker"

/-- The span within which a notice is told. -/
def span? : Notice → Option Span
  | batchFinished connector _ => some (.batch connector)
  | _ => none

def text : Notice → String
  | manifestMissing _ => "manifest not found, starting with no connectors"
  | manifestLoaded _ _ => "loaded manifest"
  | starting _ _ => "traversal-worker starting"
  | passSubmitted _ => "single pass submitted"
  | batchFinished _ _ => "batch finished"
  | stillRunning => "batches still running after shutdown timeout"
  | interrupted => "shutdown signal received"
  | drained => "All in-flight batches finished"
  | undrained _ => "Shutdown timed out with batches still running"
  | exited true => "traversal-worker exited cleanly"
  | exited false => "traversal-worker exited with batches still running"

/-- The fields of a notice with their values. -/
def fields : Notice → List (String × String)
  | manifestMissing path => [("path", path)]
  | manifestLoaded path connectors => [("path", path), ("connectors", toString connectors)]
  | starting connectors workers =>
    [("connectors", toString connectors), ("workers", toString workers)]
  | passSubmitted started => [("started", toString started)]
  | batchFinished connector result =>
    [("connector", connector), ("count", toString result.count), ("policy", result.policy.name),
      ("elapsed_ms", toString result.elapsed.millis)]
  | undrained timeout => [("timeout_ms", toString timeout.millis)]
  | stillRunning | interrupted | drained | exited _ => []

/-- The names of the fields of a notice, that of its text included. -/
def fieldNames (n : Notice) : List String := "message" :: n.fields.map (·.1)

/-- The value of a field, empty if there is none. -/
def field (n : Notice) (name : String) : String := (n.fields.lookup name).getD ""

end Notice

end BatchTraversal
