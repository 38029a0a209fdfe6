import BatchTraversal.Scheduler.Coordination

/-!
# Scheduling passes

One pass looks at every live coordinator once and starts a batch where one may run now, as large as
the throttle allows. What goes wrong with one connector does not concern the others. At the end of a
pass the metrics are taken.
-/

namespace BatchTraversal

namespace Scheduler

/-- Starts a batch of one connector if it is idle, its schedule allows it, it is not backing off and
the throttle's budget is not spent. Tells whether one was started. -/
def scheduleOne (p : Scheduler) (c : CoordinatorId) (clock : Clock) : Bool × Scheduler :=
  let (phase, p) := p.phase c clock.now
  match phase, p.coordinators[c]? with
  | .idle, some k =>
    match k.schedule with
    | none => (false, p)
    | some schedule =>
      if !schedule.allows clock.hour || p.throttle.delays k.name clock.now then (false, p)
      else
        match p.throttle.hint k.name schedule.load clock.now with
        | (none, throttle) | (some 0, throttle) => (false, p.withThrottle throttle)
        | (some hint, throttle) =>
          let (r, p) := (p.withThrottle throttle).startBatch c hint true clock
          (r.toOption.getD false, p)
  | _, _ => (false, p)

/-- Looks at the coordinators in the order given and counts the batches started. -/
def scheduleAll (p : Scheduler) (clock : Clock) : List CoordinatorId → Nat × Scheduler
  | [] => (0, p)
  | c :: rest =>
    let (started, p) := p.scheduleOne c clock
    let (count, p) := p.scheduleAll clock rest
    ((if started then 1 else 0) + count, p)

/-- The number of coordinators with a batch in flight, after each was reaped. -/
def countRunning (p : Scheduler) (now : Instant) : List CoordinatorId → Nat × Scheduler
  | [] => (0, p)
  | c :: rest =>
    let (phase, p) := p.phase c now
    let (count, p) := p.countRunning now rest
    ((if phase = .running then 1 else 0) + count, p)

/-- The schedule of a coordinator. -/
def schedule? (p : Scheduler) (c : CoordinatorId) : Option Schedule :=
  (p.coordinators[c]?).bind (·.schedule)

/-- Takes the metrics of a pass over some coordinators that started so many batches. What is noted of
connectors that are not among them is dropped. -/
def measure (p : Scheduler) (clock : Clock) (known : List (String × CoordinatorId)) (started : Nat) :
    Scheduler :=
  let (running, p) := p.countRunning clock.now (known.map (·.2))
  let busy := p.pool.busy
  let workers := max p.pool.settings.workers 1
  let m := { p.metrics with
    now := some clock.now
    passes := (p.metrics.passes + 1) % Numeral.size64
    known := known.length
    running
    started
    liveWorkers := p.pool.live
    busyWorkers := busy
    utilization := Metrics.nearestFloat busy / Metrics.nearestFloat workers
    throughput := .empty
    delayedUntil := .empty
    hoursUntilOpen := .empty }
  let m := known.foldl (fun m (name, c) =>
    m.observe name (p.throttle.throughput? name) (p.throttle.delayedUntil? name clock.now)
      ((p.schedule? c).bind (·.hoursUntilOpen clock.hour))) m
  let gone := m.completed.keys.filter fun name => !(known.map (·.1)).contains name
  { p with metrics := gone.foldl Metrics.forget m }

/-- One pass over the live coordinators, visited in the order given. Answers how many batches were
started. -/
def passInOrder (p : Scheduler) (clock : Clock) (order : List CoordinatorId) : Nat × Scheduler :=
  let known := p.registry.entries
  let (started, p) := p.scheduleAll clock order
  (started, p.measure clock known started)

/-- One pass over the live coordinators, in ascending order of their names. -/
def pass (p : Scheduler) (clock : Clock) : Nat × Scheduler :=
  p.passInOrder clock p.registry.values

end Scheduler

end BatchTraversal
