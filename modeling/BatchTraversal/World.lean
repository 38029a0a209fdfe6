import BatchTraversal.Scheduler.BatchRun
import BatchTraversal.Scheduler.Pass
import BatchTraversal.Scheduler.Registry

/-!
# Processes that share a store

A world is a number of processes with one store and one clock. What happens in it is a sequence of
single actions, of its processes and of their surroundings, in any order (`World.step`): an
administrative call, a scheduling pass, a run of the change detector; a worker that takes a batch, an
action of a batch, an answer of an adapter, each by itself or as far as it leads; a look of a monitor,
a shutdown; a movement of the clock, a write by somebody else, a decision which calls of the store will
fail.
-/

namespace BatchTraversal

/-- What can happen in one process. -/
inductive Action where
  | setConfig (name : String) (config : ConnectorConfig)
  | setSchedule (name : String) (text : String)
  | remove (name : String)
  | restart (name : String)
  /-- A scheduling pass that visits the live coordinators in this order. -/
  | pass (order : List CoordinatorId)
  | detect
  /-- Somebody asks a coordinator for its phase. -/
  | askPhase (coordinator : CoordinatorId)
  /-- Somebody asks a coordinator for a batch, outside of a pass. -/
  | start (coordinator : CoordinatorId) (maxItems : Nat) (metered : Bool)
  /-- A worker takes the next batch. -/
  | fetch (worker : WorkerId)
  /-- A batch does what it does next. -/
  | advance (task : TaskId)
  /-- The adapter that a batch has called answers. -/
  | answer (task : TaskId) (answer : Answer)
  /-- A worker takes the next batch and drives it to its call of the adapter. -/
  | take (worker : WorkerId)
  /-- A batch goes on as far as it can by itself. -/
  | proceed (task : TaskId)
  /-- The adapter answers a batch, which goes on to its end. -/
  | conclude (task : TaskId) (answer : Answer)
  /-- The pool's time passes. -/
  | tick (d : Duration)
  /-- The deadline monitor looks at the running batches. -/
  | scan
  /-- The liveness monitor replaces an idle worker that died. -/
  | revive (worker : WorkerId)
  /-- The pool is shut down. -/
  | shutDown (interrupt : Bool)

namespace Scheduler

/-- Applies an operation on the pool that calls cancel hooks. -/
def onPool (p : Scheduler) (f : (Batch → Option TaskId) → Pool Batch → Pool Batch) : Scheduler :=
  { p with pool := f p.hook p.pool }

/-- The deadline monitor looks at the running batches. -/
def scan (p : Scheduler) : Scheduler := p.onPool Pool.scan

/-- The scheduling loop is told to stop and the pool is shut down. -/
def shutDown (p : Scheduler) (interrupt : Bool) : Scheduler :=
  p.onPool fun hook pool => pool.shutDown hook interrupt

end Scheduler

namespace Site

/-- A worker takes the next batch and drives it as far as it goes by itself. -/
def begin (s : Site) (w : WorkerId) : Site :=
  match s.scheduler.pool.take? w with
  | none => s
  | some (t, _) => (s.take w).drive t

/-- What an action does to a process and to what it shares with the others. -/
def act (s : Site) : Action → Site
  | .setConfig name config => (s.setConfig name config).2
  | .setSchedule name text => (s.setSchedule name text).2
  | .remove name => (s.removeConnector name).2
  | .restart name => (s.restartConnector name).2
  | .pass order => s.withScheduler (s.scheduler.passInOrder s.clock order).2
  | .detect => s.detect.2
  | .askPhase c => s.withScheduler (s.scheduler.phase c s.now).2
  | .start c maxItems metered =>
    s.withScheduler (s.scheduler.startBatch c maxItems metered s.clock).2
  | .fetch w => s.take w
  | .advance t => s.advance t
  | .answer t a => s.answer t a
  | .take w => s.begin w
  | .proceed t => s.drive t
  | .conclude t a => s.conclude t a
  | .tick d => s.withScheduler { s.scheduler with pool := s.scheduler.pool.tick d }
  | .scan => s.withScheduler s.scheduler.scan
  | .revive w => s.withScheduler { s.scheduler with pool := s.scheduler.pool.revive w }
  | .shutDown interrupt => s.withScheduler (s.scheduler.shutDown interrupt)

end Site

/-- A number of processes with the store and the clock they share. -/
structure World where
  backend : Backend := {}
  clock : Clock
  schedulers : List Scheduler

/-- Something that happens in a world. -/
inductive Event where
  /-- An action of the process at a place. -/
  | act (scheduler : Nat) (action : Action)
  /-- The clock is set. -/
  | setClock (t : Instant)
  /-- The clock moves on. -/
  | advanceClock (d : Duration)
  /-- It is decided which of the next calls of a method fail. -/
  | fate (method : StoreMethod) (fate : List Bool)
  /-- Somebody else writes to the store. -/
  | write (edit : Store → Store)

namespace World

/-- The process at a place, with what it shares with the others. -/
def site? (w : World) (i : Nat) : Option Site :=
  w.schedulers[i]?.map fun scheduler => { scheduler, backend := w.backend, clock := w.clock }

/-- The world after something happened to the process at a place. -/
def withSite (w : World) (i : Nat) (s : Site) : World :=
  { backend := s.backend, clock := s.clock, schedulers := w.schedulers.set i s.scheduler }

/-- The world after an event. Events that are not possible leave it as it is. -/
def step (w : World) : Event → World
  | .act i action =>
    match w.site? i with
    | none => w
    | some s => w.withSite i (s.act action)
  | .setClock t => { w with clock := w.clock.set t }
  | .advanceClock d => { w with clock := (w.clock.advance? d).getD w.clock }
  | .fate m fate => { w with backend := w.backend.withFaults m fate }
  | .write edit => { w with backend := { w.backend with store := edit w.backend.store } }

/-- The world after a sequence of events. -/
def run (w : World) (events : List Event) : World := events.foldl step w

end World

end BatchTraversal
