import BatchTraversal.Scheduler.Basic

/-!
# Batches on their workers

A worker takes a batch from the queue and runs it on its traverser. When the run is over the
coordinator is told: the items count for the throttle even if the batch was superseded, everything
else only if it was not. A cancelled batch makes the connector back off; any other one arms the
backoff of its policy, and its result is delivered. Where the schedule says that the connector is not
polled, a batch that found nothing new disables the schedule, in the store too.
-/

namespace BatchTraversal

namespace Scheduler

/-- The wait that a policy asks for; none turns polling off. -/
def delayOf (p : Scheduler) (k : Coordinator) : DelayPolicy → Option Duration
  | .immediate => some .zero
  | .poll => match k.schedule with
    | none => some .zero
    | some schedule => schedule.retryDelay.duration?
  | .error => some p.settings.errorBackoff

/-- Hands a result over to the sink, and to the metrics if it counts there. -/
def deliver (p : Scheduler) (t : TaskId) (b : Batch) (name : String) (result : BatchResult) :
    Scheduler :=
  let metrics := if b.metered then p.metrics.record name result else p.metrics
  ({ p with metrics }).note (.delivered t name result)

/-- Replaces the stage of a batch. -/
def withStage (p : Scheduler) (t : TaskId) (stage : RunStage) : Scheduler :=
  { p with pool := p.pool.modifyTask t fun task =>
      { task with payload := { task.payload with stage } } }

end Scheduler

namespace Site

/-- Disables the schedule of a connector, in the store as far as it can be reached. -/
def disableSchedule (s : Site) (c : CoordinatorId) (k : Coordinator) : Site :=
  match k.schedule with
  | none => s
  | some schedule =>
    let schedule := schedule.withDisabled true
    { s with
      backend := (s.backend.storeSchedule k.name schedule).2
      scheduler := s.scheduler.modifyCoordinator c fun k => { k with schedule := some schedule } }

/-- A batch that is the current one of its coordinator has ended. -/
def settleBatch (s : Site) (t : TaskId) (b : Batch) (k : Coordinator) (result : BatchResult) :
    Site :=
  let s := s.withScheduler (s.scheduler.modifyCoordinator b.coordinator fun k =>
    { k with handle := none })
  if s.scheduler.pool.isTripped t then s.withScheduler (s.scheduler.backOff k.name s.now)
  else
    let (action, throttle) :=
      s.scheduler.throttle.finish k.name (s.scheduler.delayOf k result.policy) s.now
    let s := s.withScheduler (s.scheduler.withThrottle throttle)
    let s := match action with
      | .proceed => s
      | .disableSchedule => s.disableSchedule b.coordinator k
    s.withScheduler (s.scheduler.deliver t b k.name result)

/-- Tells the coordinator of a batch how its run ended. If the items cannot be counted, because the
throttle's period has no end, the batch ends there as if it had crashed. -/
def report (s : Site) (t : TaskId) (b : Batch) (result : BatchResult) : Site :=
  match s.scheduler.coordinators[b.coordinator]? with
  | none => s
  | some k =>
    if k.removed || k.released then s
    else
      let (counted, throttle) := s.scheduler.throttle.fold k.name result.count s.now
      let s := s.withScheduler (s.scheduler.withThrottle throttle)
      if !counted then s
      else
        let s := s.withScheduler (s.scheduler.note (.folded t k.name result.count))
        if b.generation = k.generation then s.settleBatch t b k result else s

/-- The worker of a task is free again. -/
def freeWorker (s : Site) (t : TaskId) : Site :=
  s.withScheduler { s.scheduler with pool := s.scheduler.pool.finish t }

/-- What a batch works on. -/
def workbench? (s : Site) (b : Batch) : Option Workbench :=
  match s.scheduler.traversers[b.traverser]?, s.scheduler.coordinators[b.coordinator]? with
  | some traverser, some k => some { traverser, cell := k.cell, backend := s.backend }
  | _, _ => none

/-- Puts back what a batch worked on. -/
def withWorkbench (s : Site) (b : Batch) (w : Workbench) : Site :=
  { s with
    backend := w.backend
    scheduler :=
      { s.scheduler.modifyCoordinator b.coordinator fun k => { k with cell := w.cell } with
        traversers := s.scheduler.traversers.set b.traverser w.traverser } }

/-- What the journal says of an action of a run. -/
def occurrenceOf (t : TaskId) (b : Batch) (connector : String) : RunEvent → Occurrence
  | .called checkpoint => .called t connector b.maxItems checkpoint
  | .saved checkpoint => .saved t connector checkpoint

/-- The next action of a batch that is being executed. When its run is over it reports, and its
worker is free again; a batch whose adapter crashed does not report. -/
def advance (s : Site) (t : TaskId) : Site :=
  if !s.scheduler.pool.isExecuting t then s
  else
    match s.scheduler.batch? t with
    | none => s
    | some b =>
      match b.stage with
      | .coded code => (s.report t b (.ofCode code)).freeWorker t
      | .crashed => s.freeWorker t
      | stage =>
        match s.workbench? b with
        | none => s
        | some w =>
          let (stage, w, event) := stage.advance t (s.scheduler.pool.isTripped t) w
          let s := s.withWorkbench b w
          let p := s.scheduler.withStage t stage
          s.withScheduler <| match event with
            | none => p
            | some e => p.note (occurrenceOf t b w.traverser.connector e)

/-- The actions of a batch up to where it waits for something outside or has ended. -/
def drive (s : Site) (t : TaskId) : Site := (((s.advance t).advance t).advance t).advance t

/-- The adapter that a batch has called answers. -/
def answer (s : Site) (t : TaskId) (a : Answer) : Site :=
  match s.scheduler.batch? t with
  | none => s
  | some b =>
    match s.scheduler.traversers[b.traverser]?, b.stage with
    | some traverser, .calling checkpoint =>
      let (stage, traverser) := RunStage.answer a traverser (.calling checkpoint)
      let p := { s.scheduler with traversers := s.scheduler.traversers.set b.traverser traverser }
      s.withScheduler ((p.withStage t stage).note (.answered t traverser.connector a))
    | _, _ => s

/-- The adapter answers a batch, which goes on to its end. -/
def conclude (s : Site) (t : TaskId) (a : Answer) : Site := (s.answer t a).drive t

/-- A free worker takes the next batch of the queue. -/
def take (s : Site) (w : WorkerId) : Site :=
  match s.scheduler.pool.take? w with
  | none => s
  | some (_, pool) => s.withScheduler { s.scheduler with pool }

end Site

end BatchTraversal
