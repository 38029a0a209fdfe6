import BatchTraversal.Error
import BatchTraversal.Pool.Settings
import BatchTraversal.Text.Quoted

/-!
# The worker pool

A fixed number of workers take tasks from a queue, first come first served. A task can be cancelled:
its token is tripped and its cancel hook is called, once, and a task that had not begun leaves the
queue. Cancelling is cooperative, a task that has begun ends when it returns. Two monitors look after
the pool: one cancels tasks past their deadline and, when a cancelled task has kept its worker for
longer than the grace period, abandons that worker for a new one; the other replaces workers that
died. An abandoned worker that comes back retires.

A pool counts its own time, which never goes back. A task is known by its place among all tasks ever
accepted. The cancel hook of a task may trip the token of another task; which one is told by the
argument `hook` of every operation that cancels.
-/

namespace BatchTraversal

abbrev TaskId := Nat
abbrev WorkerId := Nat

/-- A task that the pool has accepted. -/
structure Task (β : Type) where
  payload : β
  /-- When the task is to be cancelled. -/
  deadline : Option Nat := none
  /-- Whether the cancellation token is tripped. -/
  tripped : Bool := false
  /-- Whether cancellation has been requested. -/
  requested : Bool := false
  /-- How often the cancel hook was called. -/
  hooks : Nat := 0
  /-- Whether the task's worker is free again, or the task will never begin. -/
  done : Bool := false

/-- A task that occupies a worker. -/
structure Assignment where
  task : TaskId
  worker : WorkerId
  /-- When the task was cancelled. -/
  cancelledAt : Option Nat := none
  deriving DecidableEq, Repr

/-- A worker pool. -/
structure Pool (β : Type) where
  settings : PoolSettings
  /-- The pool's time, in nanoseconds. -/
  now : Nat := 0
  /-- Every task ever accepted. -/
  tasks : List (Task β) := []
  /-- The tasks that have not begun, the next one first. -/
  queue : List TaskId := []
  /-- The tasks that occupy a worker. -/
  running : List Assignment := []
  /-- The workers the pool counts on. -/
  workers : List WorkerId
  /-- The tasks being executed, on abandoned workers too. -/
  executing : List (WorkerId × TaskId) := []
  /-- The number of workers ever started. -/
  spawned : Nat
  /-- Whether the pool is shut down. -/
  down : Bool := false

namespace Pool

variable {β : Type}

/-- A pool with all its workers idle. A pool without workers is refused. -/
def start (settings : PoolSettings) : Except Error (Pool β) :=
  if settings.workers = 0 then .error (.invalidWorkerCount 0)
  else .ok { settings, workers := List.range settings.workers, spawned := settings.workers }

/-- The pool `d` later. -/
def tick (p : Pool β) (d : Duration) : Pool β := { p with now := p.now + d.nanos }

/-- Applies `f` to one task. -/
def modifyTask (p : Pool β) (t : TaskId) (f : Task β → Task β) : Pool β :=
  { p with tasks := p.tasks.modify t f }

def payload? (p : Pool β) (t : TaskId) : Option β := p.tasks[t]?.map (·.payload)

/-- Whether the token of a task is tripped. -/
def isTripped (p : Pool β) (t : TaskId) : Bool := p.tasks[t]?.any (·.tripped)

/-- Whether the worker of a task is free again, or the task will never begin. -/
def isDone (p : Pool β) (t : TaskId) : Bool := p.tasks[t]?.any (·.done)

/-- Whether cancellation of a task has been requested. -/
def isRequested (p : Pool β) (t : TaskId) : Bool := p.tasks[t]?.any (·.requested)

/-- Whether a task occupies a worker. -/
def isRunning (p : Pool β) (t : TaskId) : Bool := p.running.any (·.task == t)

/-- Whether a task is being executed, on an abandoned worker too. -/
def isExecuting (p : Pool β) (t : TaskId) : Bool := p.executing.any (·.2 == t)

def trip (p : Pool β) (t : TaskId) : Pool β := p.modifyTask t fun task => { task with tripped := true }

def markDone (p : Pool β) (t : TaskId) : Pool β := p.modifyTask t fun task => { task with done := true }

/-! ## The life of a task -/

/-- Queues a task, unless the pool is shut down. -/
def submit (p : Pool β) (payload : β) : Option TaskId × Pool β :=
  if p.down then (none, p)
  else
    let deadline := p.settings.lifetime.map (p.now + ·.nanos)
    (some p.tasks.length,
      { p with tasks := p.tasks ++ [{ payload, deadline }], queue := p.queue ++ [p.tasks.length] })

/-- Whether a worker can take a task. -/
def isFree (p : Pool β) (w : WorkerId) : Bool :=
  p.workers.contains w && !p.executing.any (·.1 == w)

/-- The workers that can take a task. -/
def freeWorkers (p : Pool β) : List WorkerId := p.workers.filter p.isFree

/-- A free worker takes the next task of the queue. -/
def take? (p : Pool β) (w : WorkerId) : Option (TaskId × Pool β) :=
  match p.queue with
  | [] => none
  | t :: rest =>
    if p.isFree w then
      some (t, { p with
        queue := rest
        running := p.running ++ [{ task := t, worker := w }]
        executing := p.executing ++ [(w, t)] })
    else none

/-- A task returns or crashes: its worker is free again, or retires if it was abandoned. -/
def finish (p : Pool β) (t : TaskId) : Pool β :=
  { p.markDone t with
    running := p.running.filter (·.task ≠ t)
    executing := p.executing.filter (·.2 ≠ t) }

/-! ## Cancelling -/

/-- The first request to cancel a task trips its token and calls its hook. Tells whether this was the
first request. -/
def request (hook : β → Option TaskId) (p : Pool β) (t : TaskId) : Bool × Pool β :=
  match p.tasks[t]? with
  | none => (false, p)
  | some task =>
    if task.requested then (false, p)
    else
      let p := p.modifyTask t fun task =>
        { task with tripped := true, requested := true, hooks := task.hooks + 1 }
      (true, match hook task.payload with
        | none => p
        | some u => p.trip u)

/-- Notes when a task was cancelled, unless that is known. -/
def noteCancelled (p : Pool β) (t : TaskId) : Pool β :=
  { p with running := p.running.map fun a =>
      if a.task = t then { a with cancelledAt := a.cancelledAt.or (some p.now) } else a }

/-- Cancels a task by its handle: one that has not begun is dropped from the queue. -/
def cancel (hook : β → Option TaskId) (p : Pool β) (t : TaskId) : Pool β :=
  let (first, p) := p.request hook t
  if !first then p
  else if p.queue.contains t then { p.markDone t with queue := p.queue.filter (· ≠ t) }
  else p.noteCancelled t

/-- Cancels several tasks without looking at the queue. -/
def requestAll (hook : β → Option TaskId) (p : Pool β) (ts : List TaskId) : Pool β :=
  ts.foldl (fun p t => (p.request hook t).2) p

/-! ## Monitors -/

/-- Whether a running task is past its deadline and not cancelled. -/
def isExpired (p : Pool β) (a : Assignment) : Bool :=
  a.cancelledAt.isNone && (p.tasks[a.task]?.bind (·.deadline)).any (· ≤ p.now)

/-- Whether a running task was cancelled and has kept its worker for longer than the grace
period. -/
def isStuck (p : Pool β) (a : Assignment) : Bool :=
  a.cancelledAt.any (· + p.settings.grace.nanos ≤ p.now)

/-- Starts a worker in the place of `w`. -/
def replaceWorker (p : Pool β) (w : WorkerId) : Pool β :=
  { p with workers := p.workers.filter (· ≠ w) ++ [p.spawned], spawned := p.spawned + 1 }

/-- Gives up the worker of a stuck task. -/
def abandon (p : Pool β) (a : Assignment) : Pool β :=
  ({ p.markDone a.task with running := p.running.filter (·.task ≠ a.task) }).replaceWorker a.worker

/-- One look of the deadline monitor: workers of stuck tasks are abandoned, then tasks past their
deadline are cancelled. A pool that is shut down is not looked at. -/
def scan (hook : β → Option TaskId) (p : Pool β) : Pool β :=
  if p.down then p
  else
    let stuck := p.running.filter p.isStuck
    let expired := (p.running.filter p.isExpired).map (·.task)
    let p := expired.foldl noteCancelled p
    let p := stuck.foldl abandon p
    p.requestAll hook expired

/-- One look of the liveness monitor at an idle worker that died. A pool that is shut down is not
looked at. -/
def revive (p : Pool β) (w : WorkerId) : Pool β :=
  if p.down || !p.isFree w then p else p.replaceWorker w

/-! ## Shutting down -/

/-- Stops the pool: the queue is dropped, and with `interrupt` the running tasks are cancelled. -/
def shutDown (hook : β → Option TaskId) (p : Pool β) (interrupt : Bool) : Pool β :=
  let queued := p.queue
  let running := if interrupt then p.running.map (·.task) else []
  let p := running.foldl noteCancelled { p with down := true, queue := [] }
  let p := queued.foldl (fun p t => (p.request hook t).2.markDone t) p
  p.requestAll hook running

/-! ## Views -/

/-- The number of tasks that occupy a worker. -/
def busy (p : Pool β) : Nat := p.running.length

/-- The number of tasks that have not begun. -/
def queued (p : Pool β) : Nat := p.queue.length

/-- The number of workers the pool counts on. -/
def live (p : Pool β) : Nat := p.workers.length

/-- Whether no task occupies a worker. -/
def isIdle (p : Pool β) : Bool := p.running.isEmpty

/-- The pool in words. -/
def shown (p : Pool β) : String :=
  Text.labelled "WorkerPool" [("name", Text.quoted p.settings.name),
    ("workers", toString p.settings.workers), ("shut_down", Text.truth p.down)]

/-- A handle to a task in words, the task being called `label`. Handles are numbered from one. -/
def shownHandle (p : Pool β) (t : TaskId) (label : String) : String :=
  Text.labelled "TaskHandle" [("id", toString (t + 1)), ("task", Text.quoted label),
    ("done", Text.truth (p.isDone t))]

end Pool

end BatchTraversal
