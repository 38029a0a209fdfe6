import BatchTraversal.Metrics
import BatchTraversal.Pool.Basic
import BatchTraversal.Settings.Scheduler
import BatchTraversal.Throttle
import BatchTraversal.Traverser.Run

/-!
# Scheduling processes

A process schedules batches of traversal work for the connectors it knows. Each connector has a
`Coordinator` with its live configuration and schedule, the traverser that runs its batches, and the
handle of the one batch that is in flight. A batch carries the generation of the coordinator it was
started under; interrupting a connector moves the generation on, so that a batch which ends later is
recognised as superseded.

The coordinators, traversers and batches of a process are known by their places among all that were
ever made; nothing is taken off these lists. `Scheduler.journal` tells what the process did, in order.
-/

namespace BatchTraversal

abbrev CoordinatorId := Nat
abbrev TraverserId := Nat

/-- What a process keeps of one connector. -/
structure Coordinator where
  /-- The connector's checkpoint. -/
  cell : CheckpointCell
  config : Option ConnectorConfig := none
  schedule : Option Schedule := none
  /-- The traverser for the next batch. -/
  traverser : Option TraverserId := none
  /-- The batch in flight. -/
  handle : Option TaskId := none
  /-- Moves on with every batch and every interruption. -/
  generation : Nat := 0
  /-- Whether the connector was removed. -/
  removed : Bool := false
  /-- Whether nobody refers to the coordinator any more, so that its batches report to nobody. -/
  released : Bool := false
  deriving DecidableEq

/-- The connector's name. -/
def Coordinator.name (c : Coordinator) : String := c.cell.connector

/-- What a coordinator is doing. -/
inductive Phase where
  | idle
  | running
  | removed
  deriving DecidableEq, Repr

def Phase.name : Phase → String
  | idle => "Idle"
  | running => "Running"
  | removed => "Removed"

/-- One batch submitted to the worker pool. -/
structure Batch where
  coordinator : CoordinatorId
  /-- The generation it was started under. -/
  generation : Nat
  maxItems : Nat
  traverser : TraverserId
  /-- Whether its result counts in the metrics. -/
  metered : Bool
  stage : RunStage := .entering
  deriving DecidableEq

/-- Something a process did. -/
inductive Occurrence where
  /-- A traverser was made for a connector from a configuration. -/
  | instantiated (traverser : TraverserId) (connector : String) (config : ConnectorConfig)
  /-- A batch was submitted. -/
  | submitted (task : TaskId) (connector : String)
  /-- A batch called its adapter, to start or to resume from a checkpoint. -/
  | called (task : TaskId) (connector : String) (maxItems : Nat) (checkpoint : Option String)
  /-- An adapter answered a batch. -/
  | answered (task : TaskId) (connector : String) (answer : Answer)
  /-- A batch saved a checkpoint. -/
  | saved (task : TaskId) (connector : String) (checkpoint : String)
  /-- The items of an ended batch were counted by the throttle. -/
  | folded (task : TaskId) (connector : String) (count : Nat)
  /-- The result of a batch was delivered. -/
  | delivered (task : TaskId) (connector : String) (result : BatchResult)
  deriving DecidableEq

/-- A scheduling process. -/
structure Scheduler where
  settings : SchedulerSettings
  kinds : KindRegistry
  pool : Pool Batch
  throttle : Throttle
  /-- Every coordinator ever made. -/
  coordinators : List Coordinator := []
  /-- The live coordinators. -/
  registry : NameMap CoordinatorId := .empty
  /-- Every traverser ever made. -/
  traversers : List Traverser := []
  /-- The listing of the last run of the change detector. -/
  inventory : NameMap TaskStamps := .empty
  metrics : Metrics := {}
  /-- Whether the scheduling loop has been told to stop. -/
  stopped : Bool := false
  journal : List Occurrence := []

namespace Scheduler

/-- A process that knows no connector yet. -/
def start (settings : SchedulerSettings) (pool : PoolSettings) (kinds : KindRegistry) :
    Except Error Scheduler :=
  match Pool.start pool with
  | .error e => .error e
  | .ok pool => .ok
      { settings, kinds, pool, throttle := .make settings.loadPeriod settings.maxBatchSize }

def modifyCoordinator (p : Scheduler) (c : CoordinatorId) (f : Coordinator → Coordinator) : Scheduler :=
  { p with coordinators := p.coordinators.modify c f }

def withThrottle (p : Scheduler) (throttle : Throttle) : Scheduler := { p with throttle }

/-- Adds to the journal. -/
def note (p : Scheduler) (o : Occurrence) : Scheduler := { p with journal := p.journal ++ [o] }

/-- The batch of a task. -/
def batch? (p : Scheduler) (t : TaskId) : Option Batch := p.pool.payload? t

/-- The live coordinator of a name. -/
def coordinator? (p : Scheduler) (name : String) : Option CoordinatorId := p.registry.find? name

/-- The names of the live coordinators. -/
def names (p : Scheduler) : List String := p.registry.keys

/-! ## Cancelling batches -/

/-- The token that the cancel hook of a batch trips: that of the run its traverser takes to be under
way. -/
def hook (p : Scheduler) (b : Batch) : Option TaskId :=
  (p.traversers[b.traverser]?).bind (·.current)

/-- Cancels a batch. -/
def cancelTask (p : Scheduler) (t : TaskId) : Scheduler := { p with pool := p.pool.cancel p.hook t }

/-- Applies `f` to a coordinator, moves its generation on and cancels the batch in flight, which is
thereby superseded. -/
def interrupt (p : Scheduler) (c : CoordinatorId) (f : Coordinator → Coordinator) : Scheduler :=
  match p.coordinators[c]? with
  | none => p
  | some k =>
    let p := p.modifyCoordinator c fun k =>
      { f k with generation := k.generation + 1, handle := none }
    match k.handle with
    | none => p
    | some t => p.cancelTask t

/-! ## Backing off -/

/-- Arms the backoff after an error. -/
def backOff (p : Scheduler) (name : String) (now : Instant) : Scheduler :=
  p.withThrottle (p.throttle.finish name (some p.settings.errorBackoff) now).2

/-- A batch in flight whose task is done has ended without reporting back: its worker was abandoned
or died, or it was dropped from the queue, or it crashed. It is given up together with its traverser,
which it may still be using, and the connector backs off. -/
def reap (p : Scheduler) (c : CoordinatorId) (now : Instant) : Scheduler :=
  match p.coordinators[c]? with
  | none => p
  | some k =>
    match k.handle with
    | none => p
    | some t =>
      if p.pool.isDone t then
        (p.modifyCoordinator c fun k =>
          { k with generation := k.generation + 1, handle := none, traverser := none }).backOff
            k.name now
      else p

/-- What a coordinator is doing, after it was reaped. -/
def phase (p : Scheduler) (c : CoordinatorId) (now : Instant) : Phase × Scheduler :=
  let p := p.reap c now
  match p.coordinators[c]? with
  | none => (.removed, p)
  | some k =>
    if k.removed then (.removed, p)
    else if k.handle.any fun t => !p.pool.isDone t then (.running, p)
    else (.idle, p)

end Scheduler

/-- A process with what it shares with the others. -/
structure Site where
  scheduler : Scheduler
  backend : Backend
  clock : Clock

namespace Site

def now (s : Site) : Instant := s.clock.now

def withScheduler (s : Site) (scheduler : Scheduler) : Site := { s with scheduler }

end Site

end BatchTraversal
