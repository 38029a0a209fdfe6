import BatchTraversal.Proofs.Pool.Runs

/-!
# Cancelling in small steps

A handle, the deadline monitor and a shutdown cancel tasks at the same time, and none of them has the pool to
itself while it does so. A request is made in steps: cancellation is asked for, which only the first to ask goes
on with, then the token is tripped, then the hook is called; what the one who cancels does next is a step of its
own. `Pool.Errand` is one task that somebody has still to cancel, `Pool.Supervised` a pool with all the threads
that have such errands, the deadline monitor among them, and `Supervised.Act` what can happen to it. The clock is
read at any moment and does not go back; a submission may have read it before others had the pool.

What nothing comes between does what the operation of the pool does (`Supervised.cancel_undisturbed`,
`Supervised.look_undisturbed`, `Supervised.drain_undisturbed`, `submitAt_now`).
-/

namespace BatchTraversal

namespace Pool

variable {β : Type} {p q : Pool β} {t u : TaskId}

/-! ## The steps of a request -/

/-- The first step of a request: cancellation is asked for. -/
def ask (p : Pool β) (t : TaskId) : Pool β := p.modifyTask t fun task => { task with requested := true }

/-- The last step of a request: the hook is called. It may trip the token of a task. -/
def callHook (hook : β → Option TaskId) (p : Pool β) (t : TaskId) : Pool β :=
  let q := p.modifyTask t fun task => { task with hooks := task.hooks + 1 }
  match (p.payload? t).bind hook with
  | none => q
  | some u => q.trip u

/-- Whether a request goes on: it is the first one. -/
def IsFirst (p : Pool β) (t : TaskId) : Prop := t < p.tasks.length ∧ p.isRequested t = false

instance (p : Pool β) (t : TaskId) : Decidable (p.IsFirst t) := inferInstanceAs (Decidable (_ ∧ _))

/-- A request that nothing comes between, if it is the first one. -/
theorem request_of_isFirst (hook : β → Option TaskId) (h : p.IsFirst t) :
    p.request hook t = (true, ((p.ask t).trip t).callHook hook t) := by
  obtain ⟨hlt, hreq⟩ := h
  obtain ⟨task, ht⟩ : ∃ task, p.tasks[t]? = some task := ⟨_, List.getElem?_eq_getElem hlt⟩
  have hnew : task.requested = false := by simpa [isRequested, ht] using hreq
  have hpayload : ((p.ask t).trip t).payload? t = some task.payload := by
    rw [payload?_trip, ask, payload?_modifyTask p t t (by intro task; rfl), payload?, ht]
    rfl
  simp only [request, ht, hnew, callHook, hpayload, Option.bind_some]
  simp only [ask, trip, modifyTask, List.modify_modify_eq]
  cases hook task.payload <;> rfl

/-- Nothing comes of a request that is not the first one. -/
theorem request_of_not_isFirst (hook : β → Option TaskId) (h : ¬ p.IsFirst t) :
    p.request hook t = (false, p) := by
  rcases request_cases hook p t with ⟨he, -⟩ | ⟨hlt, hreq, -⟩
  · exact he
  · exact absurd ⟨hlt, hreq⟩ h

/-! ## Errands -/

/-- What is done once the cancellation of a task was requested. -/
inductive Sequel
  | nothing
  /-- A handle records the cancellation, if its request was the first. -/
  | record
  /-- A task that a shutdown has taken from the queue is done. -/
  | markDone
  deriving DecidableEq, Repr

/-- What a request is followed by, depending on whether it was the first one. -/
def Sequel.apply : Sequel → Bool → Pool β → TaskId → Pool β
  | .nothing, _, p, _ => p
  | .record, first, p, t => if first then p.record t else p
  | .markDone, _, p, t => p.markDone t

/-- How far the cancellation of a task has come. -/
inductive Progress
  | due
  /-- It was asked for, for the first time. -/
  | asked
  | tripped
  /-- The request is over. -/
  | requested (first : Bool)
  deriving DecidableEq, Repr

/-- A task that somebody has still to cancel. -/
structure Errand where
  task : TaskId
  sequel : Sequel := .nothing
  progress : Progress := .due
  deriving DecidableEq, Repr

namespace Errand

/-- The next step of an errand. Only the first request for a task goes on with tripping its token. -/
def proceed (hook : β → Option TaskId) (p : Pool β) (e : Errand) : Pool β × Option Errand :=
  match e.progress with
  | .due =>
    if p.IsFirst e.task then (p.ask e.task, some { e with progress := .asked })
    else (p, some { e with progress := .requested false })
  | .asked => (p.trip e.task, some { e with progress := .tripped })
  | .tripped => (p.callHook hook e.task, some { e with progress := .requested true })
  | .requested first => (e.sequel.apply first p e.task, none)

/-- An errand from its beginning to its end. -/
def whole (hook : β → Option TaskId) (p : Pool β) (e : Errand) : Pool β :=
  e.sequel.apply (p.request hook e.task).1 (p.request hook e.task).2 e.task

end Errand

/-! ## Submissions -/

/-- A submission whose deadline goes by an earlier reading of the clock. -/
def submitAt (p : Pool β) (read : Nat) (b : β) : Option TaskId × Pool β :=
  let (t, q) := { p with now := read }.submit b
  (t, { q with now := p.now })

/-- A submission is refused, or the task waits at the end of the queue. -/
theorem submitAt_cases (p : Pool β) (read : Nat) (b : β) :
    p.submitAt read b = (none, p) ∨
      p.submitAt read b = (some p.tasks.length,
        { p with
          tasks := p.tasks ++ [{ payload := b, deadline := p.settings.lifetime.map (read + ·.nanos) }]
          queue := p.queue ++ [p.tasks.length] }) := by
  unfold submitAt submit
  cases p with
  | mk settings now tasks queue running workers executing spawned down =>
    cases down with
    | false => exact .inr rfl
    | true => exact .inl rfl

/-- A submission that reads the clock when it has the pool is that of the pool. -/
@[simp] theorem submitAt_now (p : Pool β) (b : β) : p.submitAt p.now b = p.submit b := by
  unfold submitAt submit
  cases p with
  | mk settings now tasks queue running workers executing spawned down => cases down <;> rfl

/-! ## Threads -/

/-- A pool with the threads that cancel its tasks. -/
structure Supervised (β : Type) where
  pool : Pool β
  /-- The errands of every thread. The first thread is the deadline monitor, the others are callers that cancel by
  a handle or shut the pool down. -/
  threads : List (List Errand) := [[]]

namespace Supervised

variable {f g : Supervised β} {i : Nat} {e : Errand} {l rest : List Errand}

/-- What can happen to a pool with its threads. -/
inductive Act (β : Type)
  | tick (d : Duration)
  /-- A caller that has read the clock before submits a task. -/
  | submit (payload : β) (read : Nat)
  | take (w : WorkerId)
  /-- A task returns or panics. Its worker has still to leave it. -/
  | returns (t : TaskId)
  | finish (t : TaskId)
  | revive (w : WorkerId)
  /-- A handle begins to cancel its task. -/
  | cancel (t : TaskId)
  /-- The deadline monitor looks at the running tasks. -/
  | look
  /-- A shutdown raises its flag. -/
  | raise
  /-- A shutdown takes the queue, and with `interrupt` the running tasks, for cancelling them. -/
  | drain (interrupt : Bool)
  /-- The thread with this number goes on with its errands. -/
  | proceed (hook : β → Option TaskId) (i : Nat)

/-- What the deadline monitor has still to do. -/
def monitor (f : Supervised β) : List Errand := f.threads[0]?.getD []

/-- Whether the deadline monitor looks at the pool: it has cancelled all that it found at its last look, and the
pool is not shut down. -/
def IsWatching (f : Supervised β) : Prop := f.pool.down = false ∧ f.monitor = []

instance (f : Supervised β) : Decidable f.IsWatching := inferInstanceAs (Decidable (_ ∧ _))

/-- A pool with its threads after one act. -/
def step (f : Supervised β) : Act β → Supervised β
  | .tick d => { f with pool := f.pool.tick d }
  | .submit b read => if read ≤ f.pool.now then { f with pool := (f.pool.submitAt read b).2 } else f
  | .take w => { f with pool := f.pool.step (.take w) }
  | .returns t => if f.pool.isExecuting t then { f with pool := f.pool.markDone t } else f
  | .finish t => { f with pool := f.pool.step (.finish t) }
  | .revive w => { f with pool := f.pool.revive w }
  | .cancel t =>
    if t < f.pool.tasks.length then { f with threads := f.threads ++ [[{ task := t, sequel := .record }]] }
    else f
  | .look =>
    if f.IsWatching then
      { pool := f.pool.look, threads := f.threads.set 0 (f.pool.expiredTasks.map ({ task := · })) }
    else f
  | .raise => { f with pool := f.pool.raise }
  | .drain interrupt =>
    { pool := f.pool.drain interrupt
      threads := f.threads ++ [f.pool.queue.map ({ task := ·, sequel := .markDone }) ++
        (f.pool.stopped interrupt).map ({ task := · })] }
  | .proceed hook i =>
    match f.threads[i]? with
    | some (e :: rest) =>
      { pool := (e.proceed hook f.pool).1
        threads := f.threads.set i ((e.proceed hook f.pool).2.toList ++ rest) }
    | _ => f

/-- A pool with its threads after some acts. -/
def run (f : Supervised β) (as : List (Act β)) : Supervised β := as.foldl step f

@[simp] theorem run_nil (f : Supervised β) : f.run [] = f := rfl

@[simp] theorem run_cons (f : Supervised β) (a : Act β) (as : List (Act β)) :
    f.run (a :: as) = (f.step a).run as := rfl

theorem run_append (f : Supervised β) (as bs : List (Act β)) : f.run (as ++ bs) = (f.run as).run bs :=
  List.foldl_append

/-- The step of a thread does what its errand does, and the thread goes on with the rest. -/
theorem step_proceed (hook : β → Option TaskId) (h : f.threads[i]? = some (e :: rest)) :
    f.step (.proceed hook i) =
      { pool := (e.proceed hook f.pool).1
        threads := f.threads.set i ((e.proceed hook f.pool).2.toList ++ rest) } := by
  simp only [step, h]

/-- The errand that a thread is at. -/
def errand? (f : Supervised β) (i : Nat) : Option Errand := f.threads[i]?.bind List.head?

/-- The errand of a thread is its first one. -/
theorem errand?_of_threads (h : f.threads[i]? = some (e :: rest)) : f.errand? i = some e := by
  rw [errand?, h]
  rfl

/-- A thread without errands does nothing. -/
theorem step_proceed_cases (f : Supervised β) (hook : β → Option TaskId) (i : Nat) :
    (f.errand? i = none ∧ f.step (.proceed hook i) = f) ∨ ∃ e rest, f.threads[i]? = some (e :: rest) := by
  cases h : f.threads[i]? with
  | none => exact .inl (by simp [errand?, step, h])
  | some l =>
    cases l with
    | nil => exact .inl (by simp [errand?, step, h])
    | cons e rest => exact .inr ⟨e, rest, rfl⟩

/-! ## Threads that nothing comes between -/

/-- A thread that was given errands does the first of them. -/
theorem step_proceed_set (hook : β → Option TaskId) (p : Pool β) {ts : List (List Errand)} (hi : i < ts.length)
    (e : Errand) (rest : List Errand) :
    step { pool := p, threads := ts.set i (e :: rest) } (.proceed hook i) =
      { pool := (e.proceed hook p).1, threads := ts.set i ((e.proceed hook p).2.toList ++ rest) } := by
  have h : (ts.set i (e :: rest))[i]? = some (e :: rest) := by simp [hi]
  rw [step_proceed hook h, List.set_set]

/-- A thread that is let go on with a due errand carries it out, in four steps or in two. -/
theorem exists_errand_undisturbed (hook : β → Option TaskId) (p : Pool β) {ts : List (List Errand)}
    (hi : i < ts.length) (hdue : e.progress = .due) (rest : List Errand) :
    ∃ n, run { pool := p, threads := ts.set i (e :: rest) } (List.replicate n (.proceed hook i)) =
      { pool := e.whole hook p, threads := ts.set i rest } := by
  by_cases hfirst : p.IsFirst e.task
  · refine ⟨4, ?_⟩
    simp [List.replicate, step_proceed_set, hi, Errand.proceed, hdue, hfirst, Errand.whole,
      request_of_isFirst hook hfirst]
  · refine ⟨2, ?_⟩
    simp [List.replicate, step_proceed_set, hi, Errand.proceed, hdue, hfirst, Errand.whole,
      request_of_not_isFirst hook hfirst]

/-- A thread that is let go on with due errands carries them out, one after the other. -/
theorem exists_errands_undisturbed (hook : β → Option TaskId) (p : Pool β) {ts : List (List Errand)}
    (hi : i < ts.length) (hdue : ∀ e ∈ l, e.progress = .due) :
    ∃ n, run { pool := p, threads := ts.set i l } (List.replicate n (.proceed hook i)) =
      { pool := l.foldl (Errand.whole hook) p, threads := ts.set i [] } := by
  induction l generalizing p with
  | nil => exact ⟨0, rfl⟩
  | cons e rest ih =>
    obtain ⟨n, hn⟩ := exists_errand_undisturbed hook p hi (hdue e List.mem_cons_self) rest
    obtain ⟨m, hm⟩ := ih (e.whole hook p) fun e he => hdue e (List.mem_cons_of_mem _ he)
    refine ⟨n + m, ?_⟩
    rw [List.replicate_add, run_append, hn, hm]
    rfl

/-- The errands of a thread that was just added. -/
theorem exists_appended_undisturbed (hook : β → Option TaskId) (p : Pool β) (ts : List (List Errand))
    (hdue : ∀ e ∈ l, e.progress = .due) :
    ∃ n, (run { pool := p, threads := ts ++ [l] } (List.replicate n (.proceed hook ts.length))).pool =
      l.foldl (Errand.whole hook) p := by
  have hset : (ts ++ [[]]).set ts.length l = ts ++ [l] := by simp
  have hlast : ts.length < (ts ++ [[]]).length := by simp
  obtain ⟨n, hn⟩ := exists_errands_undisturbed hook p hlast hdue
  exact ⟨n, by rw [← hset, hn]⟩

/-- Errands without a sequel, one after the other, are the requests. -/
theorem foldl_whole_requestAll (hook : β → Option TaskId) (ts : List TaskId) (p : Pool β) :
    (ts.map ({ task := · })).foldl (Errand.whole hook) p = p.requestAll hook ts := by
  rw [List.foldl_map]
  rfl

/-- A cancel by a handle that nothing comes between. -/
theorem cancel_undisturbed (f : Supervised β) (hook : β → Option TaskId) (ht : t < f.pool.tasks.length) :
    ∃ n, ((f.step (.cancel t)).run (List.replicate n (.proceed hook f.threads.length))).pool =
      f.pool.cancel hook t := by
  obtain ⟨n, hn⟩ := exists_appended_undisturbed hook f.pool f.threads
    (l := [{ task := t, sequel := .record }]) (by simp)
  refine ⟨n, ?_⟩
  rw [step, if_pos ht, hn, cancel_eq]
  by_cases hfirst : f.pool.IsFirst t
  · simp [Errand.whole, Sequel.apply, request_of_isFirst hook hfirst]
  · simp [Errand.whole, Sequel.apply, request_of_not_isFirst hook hfirst]

/-- A shutdown that nothing comes between. -/
theorem drain_undisturbed (f : Supervised β) (hook : β → Option TaskId) (interrupt : Bool) :
    ∃ n, ((f.step (.drain interrupt)).run (List.replicate n (.proceed hook f.threads.length))).pool =
      f.pool.shutDown hook interrupt := by
  obtain ⟨n, hn⟩ := exists_appended_undisturbed hook (f.pool.drain interrupt) f.threads
    (l := f.pool.queue.map ({ task := ·, sequel := .markDone }) ++
      (f.pool.stopped interrupt).map ({ task := · })) (by simp [or_imp, forall_and])
  refine ⟨n, ?_⟩
  rw [step, hn, List.foldl_append, foldl_whole_requestAll, List.foldl_map, shutDown_eq]
  rfl

/-- A look of the deadline monitor, with the requests that follow, that nothing comes between. -/
theorem look_undisturbed (f : Supervised β) (hook : β → Option TaskId) (h : f.IsWatching)
    (hmonitor : 0 < f.threads.length) :
    ∃ n, ((f.step .look).run (List.replicate n (.proceed hook 0))).pool = f.pool.scan hook := by
  obtain ⟨n, hn⟩ := exists_errands_undisturbed hook f.pool.look hmonitor
    (l := f.pool.expiredTasks.map ({ task := · })) (by simp)
  refine ⟨n, ?_⟩
  rw [step, if_pos h, hn, foldl_whole_requestAll, scan_eq_look hook h.1]

end Supervised

end Pool

end BatchTraversal
