import BatchTraversal.Settling
import BatchTraversal.Scheduler.BatchRun
import BatchTraversal.Scheduler.Pass
import BatchTraversal.Worker.Startup
import BatchTraversal.World

/-!
# The work of a worker

A worker either makes a single scheduling pass and waits for its batches, or it makes passes in turn
until it is interrupted. In both cases the scheduler is shut down in the end. Its connectors generate
their content, so its time can be counted: a call takes the delay of its page, passes are an interval
apart, and nothing else takes any time.
-/

namespace BatchTraversal.Worker

/-- A process at work. -/
structure Session where
  site : Site
  /-- The calls under way, with the moments at which their pages are ready. -/
  calls : List (TaskId × Nat) := []

namespace Session

def pool (s : Session) : Pool Batch := s.site.scheduler.pool

/-- The session after `d`. -/
def after (s : Session) (d : Duration) : Session :=
  let site := s.site.withScheduler { s.site.scheduler with pool := s.pool.tick d }
  { s with site := { site with clock := (site.clock.advance? d).getD site.clock } }

/-- The session at a moment, or now if that is later. -/
def passTo (s : Session) (moment : Nat) : Session := s.after ⟨moment - s.pool.now⟩

/-- A call of an adapter that generates content goes on: it is answered as soon as its page is ready, or
as it is cancelled. -/
def reply? (s : Session) (t : TaskId) (b : Batch) (params : SyntheticParams)
    (checkpoint : Option String) : Option Session :=
  let tripped := s.pool.isTripped t
  let conclude : Session :=
    { s with site := s.site.conclude t (params.answer checkpoint b.maxItems tripped) }
  match params.answer checkpoint b.maxItems false with
  | .page _ =>
    if params.delay.isZero || tripped then some conclude
    else match s.calls.lookup t with
      | none => some { s with calls := s.calls ++ [(t, s.pool.now + params.delay.nanos)] }
      | some moment => if moment ≤ s.pool.now then some conclude else none
  | _ => some conclude

/-- A batch that is being executed goes on, if it can. -/
def goOn? (s : Session) (t : TaskId) : Option Session :=
  match s.site.scheduler.batch? t with
  | none => none
  | some b =>
    match s.site.scheduler.traversers[b.traverser]? with
    | none => none
    | some r =>
      match b.stage, r.adapter with
      | .calling checkpoint, .synthetic params => s.reply? t b params checkpoint
      | .calling _, .external => none
      | .waiting _, _ => if r.holder.isSome then none else some { s with site := s.site.drive t }
      | _, _ => some { s with site := s.site.drive t }

/-- The next moment at which a page is ready or a running batch is past its deadline. -/
def nextMoment? (s : Session) : Option Nat :=
  let pages := s.calls.filterMap fun c => if s.pool.isExecuting c.1 then some c.2 else none
  let deadlines := if s.pool.down then [] else s.pool.running.filterMap fun a =>
    if a.cancelledAt.isSome then none else s.pool.tasks[a.task]?.bind (·.deadline)
  (pages ++ deadlines).min?

/-- The next step that is taken before a moment is over. -/
def step? (horizon : Nat) (s : Session) : Option Session :=
  match s.pool.executing.findSome? fun e => s.goOn? e.2 with
  | some s => some s
  | none =>
    match s.pool.freeWorkers.head?, s.pool.queue with
    | some w, _ :: _ => some { s with site := s.site.take w }
    | _, _ =>
      match s.nextMoment? with
      | none => none
      | some moment =>
        if horizon < moment then none
        else
          let s := s.passTo moment
          some { s with site := s.site.withScheduler s.site.scheduler.scan }

/-- The session when no more steps are taken before a moment is over. A batch takes few steps: it is
taken, goes on to its call, waits for its page, may be cancelled, and goes on to its end. -/
def settled (s : Session) (horizon : Nat) : Session :=
  settle (step? horizon) (8 * s.pool.tasks.length + 1) s

/-- The notices of the results delivered so far. -/
def results (s : Session) : List Notice :=
  s.site.scheduler.journal.filterMap fun
    | .delivered _ connector result => some (.batchFinished connector result)
    | _ => none

/-- One scheduling pass. Answers how many batches it started. -/
def pass (s : Session) : Nat × Session :=
  let (started, scheduler) := s.site.scheduler.pass s.site.clock
  (started, { s with site := s.site.withScheduler scheduler })

/-- One pass, after which the batches that need no time have ended and the change detector has looked at
the store. -/
def turn (s : Session) : Session :=
  let (_, s) := s.pass
  let s := s.settled s.pool.now
  { s with site := s.site.detect.2 }

/-- The moment of the next pass. Even passes without an interval between them take a millisecond. -/
def nextPass (s : Session) : Nat :=
  s.pool.now + max 1000000 s.site.scheduler.settings.passInterval.nanos

/-- How many of the results delivered so far count. -/
def countOf (s : Session) (counts : Notice → Bool) : Nat := (s.results.filter counts).length

/-- Passes in turn, until so many results that count were delivered; at most `fuel` of them. -/
def loop (counts : Notice → Bool) (results : Nat) : (fuel : Nat) → Session → Session
  | 0, s => s
  | fuel + 1, s =>
    let s := s.turn
    if results ≤ s.countOf counts then s
    else
      let next := s.nextPass
      let s := s.settled next
      if results ≤ s.countOf counts then s else loop counts results fuel (s.passTo next)

/-- Shuts the scheduler down and waits for the batches in flight. Answers whether all ended. -/
def shutDown (s : Session) : Bool × Session :=
  let scheduler := { s.site.scheduler with stopped := true }.shutDown true
  let s := { s with site := s.site.withScheduler scheduler }
  let s := s.settled (s.pool.now + s.site.scheduler.settings.shutdownTimeout.nanos)
  (s.pool.isIdle, s)

/-- Whether a batch is in flight. -/
def isBusy (s : Session) : Bool := !s.pool.isIdle || !s.pool.queue.isEmpty

/-- The notice of a shutdown. -/
def shutdownNotice (s : Session) (drained : Bool) : Notice :=
  if drained then .drained else .undrained s.site.scheduler.settings.shutdownTimeout

/-- A single pass: what is told of it. -/
def once (s : Session) : List Notice :=
  let (started, s) := s.pass
  let s := s.settled (s.pool.now + s.site.scheduler.settings.shutdownTimeout.nanos)
  let late := if s.isBusy then [.stillRunning] else []
  let (drained, s) := s.shutDown
  .passSubmitted started :: (s.results ++ late ++ [s.shutdownNotice drained])

/-- Passes in turn until an interruption after so many results that count: what is told of them. -/
def interruptedAfter (s : Session) (counts : Notice → Bool) (results fuel : Nat) : List Notice :=
  let s := s.loop counts results fuel
  let (drained, s) := s.shutDown
  s.results ++ [.interrupted, s.shutdownNotice drained, .exited drained]

end Session

/-! ## From the start to the end -/

/-- What a worker finds where it runs. -/
structure Surroundings where
  environment : Environment
  /-- What is found under a path. -/
  look : String → Found
  /-- The number of processors of the machine. -/
  processors : Nat := 1
  clock : Clock

/-- How a worker ended. -/
structure Outcome where
  code : Nat
  /-- What it showed of its work, in order. -/
  shown : List Notice := []
  /-- What went wrong, from the outermost error to the innermost one. -/
  errors : List String := []

/-- The number of passes after which a worker that waits for results gives up. -/
def patience : Nat := 20000

/-- The environment with the variables of the file `.env`. -/
def Surroundings.variables (w : Surroundings) : Environment :=
  match w.look ".env" with
  | .file text => EnvironmentFile.load w.environment text
  | _ => w.environment

/-- What a worker tells until it begins to work, and what it begins with or why it does not. -/
def begin (duty : Duty) (w : Surroundings) : List Notice × Except Failure Session :=
  match manifestOf duty.manifestPath (w.look duty.manifestPath) with
  | .error failure => ([], .error failure)
  | .ok (m, notice) =>
    match siteOf (m.override duty.settings) w.processors w.clock with
    | .error failure => ([notice], .error failure)
    | .ok site => ([notice, startNotice site], .ok { site })

/-- A worker from the start to the end. Without the option for a single pass it is interrupted after so
many results that it showed. -/
def run (arguments : List String) (w : Surroundings) (interruptAfter : Nat) : Outcome :=
  match Duty.of w.variables arguments with
  | .error dismissal => { code := dismissal.code }
  | .ok duty =>
    let shown (notices : List Notice) : List Notice := notices.filter duty.filter.shows
    match begin duty w with
    | (notices, .error failure) => { code := 1, shown := shown notices, errors := failure.chain }
    | (notices, .ok session) =>
      let told := if duty.once then session.once
        else session.interruptedAfter duty.filter.shows interruptAfter patience
      { code := 0, shown := shown (notices ++ told) }

end BatchTraversal.Worker
