import BatchTraversal.Pool.Basic
import BatchTraversal.Settling

/-!
# Rehearsing a pool

A pool of jobs of known behaviour: some end at once, some wait until they are let go. After every
step the pool settles: free workers take jobs, jobs that can end do, and the deadline monitor looks
whenever a deadline or a grace period is due that comes within reach (`reach`).
-/

namespace BatchTraversal.Rehearsal

/-- How a job behaves. -/
inductive JobKind where
  /-- Ends at once. -/
  | quick
  /-- Waits until it is let go or cancelled. -/
  | coop
  /-- Waits until it is let go. -/
  | stubborn
  /-- Crashes at once. -/
  | crashing
  /-- Ends at once, says nothing and has no cancel hook. -/
  | plain
  deriving DecidableEq, Repr

structure Job where
  label : String
  kind : JobKind

/-- The label under which a job shows itself. -/
def Job.shownLabel (j : Job) : String := if j.kind = .plain then "task" else j.label

/-- A pool of jobs. -/
structure Jobs where
  pool : Pool Job
  /-- The waiting jobs that were let go. -/
  letGo : List TaskId := []
  /-- What the jobs said. -/
  log : List String := []

/-- The grace periods that are waited for: those up to a second. -/
def reach : Duration := .ofSeconds 1

/-- When the deadline monitor next has something to do that is waited for. -/
def nextLook? {β : Type} (p : Pool β) : Option Nat :=
  if p.down then none
  else
    let moments := p.running.filterMap fun a =>
      match a.cancelledAt with
      | none => p.tasks[a.task]?.bind (·.deadline)
      | some at_ =>
        if p.settings.grace.nanos ≤ reach.nanos then some (at_ + p.settings.grace.nanos) else none
    moments.min?

/-- The pool at a moment, or now if that is later. -/
def passTo {β : Type} (p : Pool β) (moment : Nat) : Pool β := p.tick ⟨moment - p.now⟩

namespace Jobs

def start (settings : PoolSettings) : Except Error Jobs :=
  match Pool.start settings with
  | .error e => .error e
  | .ok pool => .ok { pool }

/-- Whether a job that is being executed can end. -/
def canEnd (s : Jobs) (t : TaskId) : Bool :=
  match s.pool.payload? t with
  | none => false
  | some j =>
    match j.kind with
    | .quick | .crashing | .plain => true
    | .coop => s.letGo.contains t || s.pool.isTripped t
    | .stubborn => s.letGo.contains t

/-- Something a job says. A plain one says nothing. -/
def say (s : Jobs) (t : TaskId) (text : String) : Jobs :=
  match s.pool.payload? t with
  | none => s
  | some j => if j.kind = .plain then s else { s with log := s.log ++ [j.label ++ " " ++ text] }

/-- The next step that the jobs take by themselves. -/
def step? (s : Jobs) : Option Jobs :=
  match s.pool.executing.find? fun e => s.canEnd e.2 with
  | some (_, t) =>
    let s := if (s.pool.payload? t).any (·.kind = .crashing) then s
      else s.say t (if s.pool.isTripped t then "cancelled" else "done")
    some { s with pool := s.pool.finish t }
  | none =>
    match s.pool.freeWorkers.head?.bind s.pool.take? with
    | some (t, pool) => some (({ s with pool }).say t "begins")
    | none => (nextLook? s.pool).map fun moment =>
        { s with pool := (passTo s.pool moment).scan fun _ => none }

/-- Settles. Every step begins, ends, cancels or abandons a job, each of which happens at most once
to it. -/
def settled (s : Jobs) : Jobs := settle step? (4 * s.pool.tasks.length + 1) s

def submit (s : Jobs) (job : Job) : Option TaskId × Jobs :=
  let (t, pool) := s.pool.submit job
  (t, settled { s with pool })

/-- The jobs with a label. -/
def labelled (s : Jobs) (label : String) : List TaskId :=
  (List.range s.pool.tasks.length).filter fun t =>
    (s.pool.payload? t).any (·.label = label)

/-- Cancels every job with a label. -/
def cancel (s : Jobs) (label : String) : Jobs :=
  settled { s with
    pool := (s.labelled label).foldl (fun p t => p.cancel (fun _ => none) t) s.pool }

/-- Lets the waiting jobs with a label go. Answers how many there were. -/
def release (s : Jobs) (label : String) : Nat × Jobs :=
  let waiting := (s.labelled label).filter fun t => s.pool.isExecuting t
  (waiting.length, settled { s with letGo := s.letGo ++ waiting })

/-- Shuts the pool down. Answers whether all jobs ended. -/
def shutDown (s : Jobs) (interrupt : Bool) : Bool × Jobs :=
  let s := settled { s with pool := s.pool.shutDown (fun _ => none) interrupt }
  (s.pool.isIdle, s)

end Jobs

end BatchTraversal.Rehearsal
