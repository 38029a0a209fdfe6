import BatchTraversal.Proofs.Pool.Tasks

/-!
# The parts of a cancel and of a shutdown

A cancel by a handle is a request and some bookkeeping, and a shutdown takes the queue and then
requests one task after the other (`Pool.cancel_eq`, `Pool.shutDown_eq`). What these parts have in
common is said once: they cancel tasks or take them from the queue, and leave all others and the
workers alone (`Pool.Eases`).
-/

namespace BatchTraversal

namespace Pool

variable {β : Type} {p q r : Pool β} {t u : TaskId}

/-- Whom a pool counts on, and how many workers were ever started. -/
def roster (p : Pool β) : PoolSettings × List WorkerId × Nat := (p.settings, p.workers, p.spawned)

/-- Pools of the same roster count on the same workers. -/
theorem workers_eq (h : q.roster = p.roster) : q.workers = p.workers := congrArg (·.2.1) h

/-- A request hires nobody and gives nobody up. -/
@[simp] theorem roster_request (hook : β → Option TaskId) (p : Pool β) (t : TaskId) :
    (p.request hook t).2.roster = p.roster := by
  obtain ⟨tasks, h⟩ := request_eq hook p t
  rw [h]
  rfl

/-- What a cancel by a handle does after its request: a task that has not begun is dropped from the
queue, for a running one it is noted when it was cancelled. -/
def record (p : Pool β) (t : TaskId) : Pool β :=
  if p.queue.contains t then { p.markDone t with queue := p.queue.filter (· ≠ t) }
  else p.noteCancelled t

/-- The running tasks that a shutdown cancels. -/
def stopped (p : Pool β) (interrupt : Bool) : List TaskId :=
  if interrupt then p.running.map (·.task) else []

/-- The first step of a shutdown: nothing is accepted any more. -/
def raise (p : Pool β) : Pool β := { p with down := true }

/-- The step of a shutdown that takes the queue, and notes when the running tasks are cancelled. -/
def drain (p : Pool β) (interrupt : Bool) : Pool β :=
  (p.stopped interrupt).foldl noteCancelled { p with down := true, queue := [] }

/-- Cancels a task that was taken from the queue. -/
def drop (hook : β → Option TaskId) (p : Pool β) (t : TaskId) : Pool β :=
  (p.request hook t).2.markDone t

/-- A cancel by a handle does its bookkeeping only if its request was the first one. -/
theorem cancel_eq (hook : β → Option TaskId) (p : Pool β) (t : TaskId) :
    p.cancel hook t = if (p.request hook t).1 then (p.request hook t).2.record t else p := by
  rcases request_cases hook p t with ⟨h, -⟩ | ⟨-, -, h | ⟨_, _, -, -, h⟩⟩ <;>
    simp [cancel, record, h]

/-- A shutdown drains the pool, drops what was queued, and requests what it means to stop. -/
theorem shutDown_eq (hook : β → Option TaskId) (p : Pool β) (interrupt : Bool) :
    p.shutDown hook interrupt =
      (p.queue.foldl (drop hook) (p.drain interrupt)).requestAll hook (p.stopped interrupt) := rfl

/-- What the parts of a cancel and of a shutdown have in common: tasks are cancelled or taken from the
queue, and none is added, given up or forgotten. -/
structure Eases (p q : Pool β) : Prop extends p.Keeps q where
  queue : q.queue.Sublist p.queue
  running : q.running.map (·.task) = p.running.map (·.task)
  roster : q.roster = p.roster
  down : p.down → q.down
  marked : (∀ t, p.isRequested t → p.isTripped t) → ∀ t, q.isRequested t → q.isTripped t

/-- A pool that is left alone is eased. -/
theorem Eases.refl (p : Pool β) : p.Eases p := ⟨.refl p, .refl _, rfl, rfl, id, id⟩

/-- Easing a pool in two steps eases it. -/
theorem Eases.trans (h : p.Eases q) (h' : q.Eases r) : p.Eases r where
  toKeeps := h.toKeeps.trans h'.toKeeps
  queue := h'.queue.trans h.queue
  running := h'.running.trans h.running
  roster := h'.roster.trans h.roster
  down hd := h'.down (h.down hd)
  marked hm := h'.marked (h.marked hm)

/-- What eases a pool for every item of a list eases it for all of them in a row. -/
theorem Eases.foldl {α : Type} {f : Pool β → α → Pool β} (h : ∀ (p : Pool β) (a : α), p.Eases (f p a))
    (l : List α) (p : Pool β) : p.Eases (l.foldl f p) := by
  induction l generalizing p with
  | nil => exact .refl p
  | cons a l ih => exact (h p a).trans (ih _)

/-- A pool with the same tasks, of which perhaps fewer are queued. -/
theorem Eases.of_tasks (ht : q.tasks = p.tasks) (hq : q.queue.Sublist p.queue)
    (hr : q.running.map (·.task) = p.running.map (·.task)) (hs : q.roster = p.roster)
    (hd : p.down → q.down) : p.Eases q := by
  refine ⟨.of_tasks ht, hq, hr, hs, hd, fun hm => ?_⟩
  simpa only [isRequested, isTripped, ht] using hm

/-- A note leaves the running tasks as they are. -/
theorem eases_noteCancelled (p : Pool β) (t : TaskId) : p.Eases (p.noteCancelled t) := by
  obtain ⟨running, h, hmap, -⟩ := noteCancelled_eq p t
  rw [h]
  exact .of_tasks rfl (.refl _) hmap rfl id

/-- A task that is done has its flags of cancellation as before. -/
theorem eases_markDone (p : Pool β) (t : TaskId) : p.Eases (p.markDone t) := by
  refine ⟨keeps_markDone p t, .refl _, rfl, rfl, id, fun hm u hu => ?_⟩
  rw [isRequested_markDone] at hu
  rw [isTripped_markDone]
  exact hm u hu

/-- A pool that accepts nothing more has lost nothing yet. -/
theorem eases_raise (p : Pool β) : p.Eases p.raise :=
  .of_tasks rfl (.refl _) rfl rfl fun _ => rfl

/-- The queue is taken as a whole, and what runs goes on. -/
theorem eases_drain (p : Pool β) (interrupt : Bool) : p.Eases (p.drain interrupt) := by
  have htake : p.Eases { p with down := true, queue := [] } :=
    .of_tasks rfl (List.nil_sublist _) rfl rfl fun _ => rfl
  exact htake.trans (.foldl eases_noteCancelled _ _)

/-- The bookkeeping of a cancel takes at most its task from the queue. -/
theorem eases_record (p : Pool β) (t : TaskId) : p.Eases (p.record t) := by
  unfold record
  split
  · exact (eases_markDone p t).trans (.of_tasks rfl List.filter_sublist rfl rfl id)
  · exact eases_noteCancelled p t

section
variable (hook : β → Option TaskId)

/-- A request trips the token of the task that it marks, so what is requested is tripped afterwards if it was
before. -/
theorem eases_request (p : Pool β) (t : TaskId) : p.Eases (p.request hook t).2 := by
  obtain ⟨tasks, h⟩ := request_eq hook p t
  refine ⟨keeps_request hook p t, ?_, congrArg _ (running_request hook p t), roster_request hook p t,
    fun hd => ?_, fun hm u hu => isTripped_request hook t hm hu⟩
  · exact (queue_request hook p t).symm ▸ List.Sublist.refl p.queue
  · rw [h]
    exact hd

/-- A task that was taken from the queue is cancelled and done. -/
theorem eases_drop (p : Pool β) (t : TaskId) : p.Eases (p.drop hook t) :=
  (eases_request hook p t).trans (eases_markDone _ t)

/-- A cancel by a handle is a request with its bookkeeping, or nothing. -/
theorem eases_cancel (p : Pool β) (t : TaskId) : p.Eases (p.cancel hook t) := by
  rw [cancel_eq]
  split
  · exact (eases_request hook p t).trans (eases_record _ t)
  · exact .refl p

/-- A shutdown only eases the pool: it drains it, drops the queue and requests what is to stop. -/
theorem eases_shutDown (p : Pool β) (interrupt : Bool) : p.Eases (p.shutDown hook interrupt) := by
  rw [shutDown_eq]
  exact ((eases_drain p interrupt).trans (.foldl (eases_drop hook) _ _)).trans
    (.foldl (eases_request hook) _ _)

end

end Pool

end BatchTraversal
