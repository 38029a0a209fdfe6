import BatchTraversal.Scheduler.Basic

/-!
# Calls on a coordinator

The calls that change one connector of a process. A coordinator that was removed refuses all of them.
A new configuration, a restart, a removal and a checkpoint written by another process give up the
traverser and interrupt the batch in flight; a new schedule interrupts it and keeps the traverser. An
equal value changes nothing.
-/

namespace BatchTraversal

namespace Scheduler

/-- The coordinator, unless it was removed. -/
def live (p : Scheduler) (c : CoordinatorId) : Except Error Coordinator :=
  match p.coordinators[c]? with
  | none => .error (.connectorNotFound "")
  | some k => if k.removed then .error (.connectorNotFound k.name) else .ok k

/-- Replaces the configuration. Tells whether that changed anything. -/
def setConfiguration (p : Scheduler) (c : CoordinatorId) (config : ConnectorConfig) :
    Except Error Bool × Scheduler :=
  match p.live c with
  | .error e => (.error e, p)
  | .ok k =>
    if k.config = some config then (.ok false, p)
    else (.ok true, p.interrupt c fun k => { k with config := some config, traverser := none })

/-- Replaces the schedule. Tells whether that changed anything. -/
def setSchedule (p : Scheduler) (c : CoordinatorId) (schedule : Schedule) :
    Except Error Bool × Scheduler :=
  match p.live c with
  | .error e => (.error e, p)
  | .ok k =>
    if k.schedule = some schedule then (.ok false, p)
    else (.ok true, p.interrupt c fun k => { k with schedule := some schedule })

/-- Removes the connector and everything held for it. -/
def remove (p : Scheduler) (c : CoordinatorId) : Scheduler :=
  match p.coordinators[c]? with
  | none => p
  | some k =>
    if k.removed then p
    else
      let p := p.interrupt c fun k =>
        { k with removed := true, config := none, schedule := none, traverser := none }
      p.withThrottle (p.throttle.remove k.name)

/-- A checkpoint was found in the store. Unless it is what this process saw last, the batch in flight
is interrupted, so that the next one resumes from the stored position. -/
def checkpointChanged (p : Scheduler) (c : CoordinatorId) (checkpoint : Option String) :
    Except Error Unit × Scheduler :=
  match p.live c with
  | .error e => (.error e, p)
  | .ok k =>
    if k.cell.matchesSeen checkpoint then (.ok (), p)
    else (.ok (), p.interrupt c fun k => { k with traverser := none })

/-- The traverser for the next batch of a coordinator: the one it has, or a new one made from its
configuration. -/
def traverserFor (p : Scheduler) (c : CoordinatorId) (k : Coordinator) :
    Except Error TraverserId × Scheduler :=
  match k.traverser with
  | some r => (.ok r, p)
  | none =>
    match k.config with
    | none => (.error (.connectorNotFound k.name), p)
    | some config =>
      match p.kinds.instantiate k.name config with
      | .error e => (.error e, p)
      | .ok adapter =>
        let r := p.traversers.length
        let traverser : Traverser := { connector := k.name, config, adapter }
        let p := { p with traversers := p.traversers ++ [traverser] }
        (.ok r, (p.modifyCoordinator c fun k => { k with traverser := some r }).note
          (.instantiated r k.name config))

/-- Submits a batch of at most `maxItems` items under the next generation. -/
def submit (p : Scheduler) (c : CoordinatorId) (k : Coordinator) (r : TraverserId) (maxItems : Nat)
    (metered : Bool) : Except Error Bool × Scheduler :=
  let generation := k.generation + 1
  let p := p.modifyCoordinator c fun k => { k with generation }
  let batch : Batch := { coordinator := c, generation, maxItems, traverser := r, metered }
  match p.pool.submit batch with
  | (none, pool) => (.error .poolShutDown, { p with pool })
  | (some t, pool) =>
    (.ok true, (({ p with pool }).modifyCoordinator c fun k => { k with handle := some t }).note
      (.submitted t k.name))

/-- Starts a batch if none is in flight, the schedule allows it at this hour and the connector is not
backing off. Tells whether one was started. A traverser that cannot be made arms the backoff. -/
def startBatch (p : Scheduler) (c : CoordinatorId) (maxItems : Nat) (metered : Bool) (clock : Clock) :
    Except Error Bool × Scheduler :=
  match p.live c with
  | .error e => (.error e, p)
  | .ok _ =>
    let p := p.reap c clock.now
    match p.coordinators[c]? with
    | none => (.ok false, p)
    | some k =>
      match k.schedule with
      | none => (.ok false, p)
      | some schedule =>
        if k.handle.isSome || !schedule.allows clock.hour ||
            p.throttle.delays k.name clock.now || maxItems == 0 then (.ok false, p)
        else
          match p.traverserFor c k with
          | (.error _, p) => (.ok false, p.backOff k.name clock.now)
          | (.ok r, p) => p.submit c k r maxItems metered

end Scheduler

namespace Site

/-- Interrupts the batch in flight and clears the checkpoint, so that the next batch starts the
traversal afresh. -/
def restart (s : Site) (c : CoordinatorId) : Except Error Unit × Site :=
  match s.scheduler.live c with
  | .error e => (.error e, s)
  | .ok _ =>
    let p := s.scheduler.interrupt c fun k => { k with traverser := none }
    match p.coordinators[c]? with
    | none => (.ok (), s.withScheduler p)
    | some k =>
      let (r, cell, backend) := k.cell.write none s.backend
      (r, { s with scheduler := p.modifyCoordinator c fun k => { k with cell }, backend })

end Site

end BatchTraversal
