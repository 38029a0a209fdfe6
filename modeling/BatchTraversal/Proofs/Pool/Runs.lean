import BatchTraversal.Proofs.Pool.Cancelling
import BatchTraversal.Proofs.Pool.Staffing

/-!
# Runs of a pool

A pool is used by several threads: callers submit and cancel tasks and shut the pool down, workers
take tasks and come back from them, two monitors look after both. Each of these is one step
(`Pool.Event`), and a run is any list of them. Of every run: a pool stays sound and staffed, what is
done stays done, and a task enters the queue only once, when it is submitted. So a task that has left
the queue is never taken again (`Sound.notMem_begun`), and no task is taken twice
(`Sound.nodup_begun`).
-/

namespace BatchTraversal

namespace Pool

variable {β : Type} {p : Pool β} {t : TaskId}

/-- What can happen to a pool. -/
inductive Event (β : Type)
  | submit (payload : β)
  /-- A worker looks for a task. -/
  | take (w : WorkerId)
  /-- A task returns or panics, which is the same to the pool. -/
  | finish (t : TaskId)
  | cancel (hook : β → Option TaskId) (t : TaskId)
  | scan (hook : β → Option TaskId)
  /-- A worker that died idle is found. -/
  | revive (w : WorkerId)
  | shutDown (hook : β → Option TaskId) (interrupt : Bool)
  | tick (d : Duration)

/-- The pool after something happened. Only a task that is being executed can end. -/
def step (p : Pool β) : Event β → Pool β
  | .submit b => (p.submit b).2
  | .take w =>
    match p.take? w with
    | some (_, q) => q
    | none => p
  | .finish t => if p.isExecuting t then p.finish t else p
  | .cancel hook t => p.cancel hook t
  | .scan hook => p.scan hook
  | .revive w => p.revive w
  | .shutDown hook interrupt => p.shutDown hook interrupt
  | .tick d => p.tick d

variable {e : Event β} {es : List (Event β)}

/-- A pool after some events. -/
def run (p : Pool β) (es : List (Event β)) : Pool β := es.foldl step p

/-- The task whose run is invoked. -/
def begun? (p : Pool β) : Event β → Option TaskId
  | .take w => (p.take? w).map (·.1)
  | _ => none

/-- The tasks whose runs are invoked along a run of the pool, in order. -/
def begun (p : Pool β) : List (Event β) → List TaskId
  | [] => []
  | e :: es => (p.begun? e).toList ++ (p.step e).begun es

/-- The task that enters the queue. -/
def submitted? (p : Pool β) : Event β → Option TaskId
  | .submit b => (p.submit b).1
  | _ => none

/-- The tasks that enter the queue along a run of the pool, in order. -/
def submitted (p : Pool β) : List (Event β) → List TaskId
  | [] => []
  | e :: es => (p.submitted? e).toList ++ (p.step e).submitted es

/-- The tasks that leave the queue without being taken, by a cancel or by a shutdown. -/
def discarded (p : Pool β) : List (Event β) → List TaskId
  | [] => []
  | .take w :: es => (p.step (.take w)).discarded es
  | e :: es => p.queue.filter (· ∉ (p.step e).queue) ++ (p.step e).discarded es

@[simp] theorem run_nil (p : Pool β) : p.run [] = p := rfl

@[simp] theorem run_cons (p : Pool β) (e : Event β) (es : List (Event β)) :
    p.run (e :: es) = (p.step e).run es := rfl

theorem run_append (p : Pool β) (es fs : List (Event β)) : p.run (es ++ fs) = (p.run es).run fs :=
  List.foldl_append

/-- A worker takes nothing, or the first task of the queue. -/
theorem step_take (p : Pool β) (w : WorkerId) :
    (p.take? w = none ∧ p.step (.take w) = p) ∨
      ∃ t, p.take? w = some (t, p.step (.take w)) := by
  cases h : p.take? w with
  | none => exact .inl ⟨rfl, by simp [step, h]⟩
  | some x => exact .inr ⟨x.1, by simp [step, h]⟩

/-- A submission is refused, or its task gets the next number. -/
theorem step_submit (p : Pool β) (b : β) :
    p.step (.submit b) = p ∨ p.submit b = (some p.tasks.length, p.step (.submit b)) := by
  cases h : p.submit b with
  | mk o q =>
    cases o with
    | none => exact .inl (by simp [step, h, (submit_eq_none h).1])
    | some t => exact .inr (by simp [step, h, (submit_eq_some h).1])

/-- Only a task that is executed can end. -/
theorem step_finish (p : Pool β) (t : TaskId) :
    p.step (.finish t) = if p.isExecuting t then p.finish t else p := rfl

/-! ## Invariants of a run -/

/-- Whatever happens to a pool, it stays sound. -/
theorem Sound.step (h : p.Sound) (e : Event β) : (p.step e).Sound := by
  cases e with
  | submit b =>
    rcases step_submit p b with hs | hs
    · rwa [hs]
    · exact h.submit hs
  | take w =>
    rcases step_take p w with ⟨-, hs⟩ | ⟨t, hs⟩
    · rwa [hs]
    · exact h.take? hs
  | finish t =>
    rw [step_finish]
    split
    · exact h.finish ‹_›
    · exact h
  | cancel hook t => exact h.cancel hook t
  | scan hook => exact h.scan hook
  | revive w => exact h.revive w
  | shutDown hook interrupt => exact h.shutDown hook interrupt
  | tick d => exact h.tick d

/-- Whatever happens to a pool, nobody gets a second task. -/
theorem Staffed.step (h : p.Staffed) (hs : p.Sound) (e : Event β) : (p.step e).Staffed := by
  cases e with
  | submit b => exact h.submit b
  | take w =>
    rcases step_take p w with ⟨-, ht⟩ | ⟨t, ht⟩
    · rwa [ht]
    · exact h.take? hs.apart ht
  | finish t =>
    rw [step_finish]
    split
    · exact h.finish t
    · exact h
  | cancel hook t => exact h.cancel hook t
  | scan hook => exact h.scan hook
  | revive w => exact h.revive w
  | shutDown hook interrupt => exact h.shutDown hook interrupt
  | tick d => exact h.congr rfl rfl rfl rfl

/-- A pool is sound at every moment of a run. -/
theorem Sound.run (h : p.Sound) (es : List (Event β)) : (p.run es).Sound :=
  List.foldlRecOn es _ h fun _ hp e _ => hp.step e

/-- A pool is well staffed at every moment of a run. -/
theorem Staffed.run : ∀ {p : Pool β}, p.Staffed → p.Sound → ∀ es : List (Event β), (p.run es).Staffed
  | _, h, _, [] => h
  | _, h, hs, e :: es => (h.step hs e).run (hs.step e) es

/-! ## What a step leaves of the tasks -/

/-- Accepted tasks stay accepted, and what is requested, tripped or done stays so. -/
structure Grows (p q : Pool β) : Prop where
  length : p.tasks.length ≤ q.tasks.length
  requested : ∀ t, p.isRequested t → q.isRequested t
  tripped : ∀ t, p.isTripped t → q.isTripped t
  done : ∀ t, p.isDone t → q.isDone t

theorem Grows.refl (p : Pool β) : p.Grows p :=
  ⟨Nat.le_refl _, fun _ h => h, fun _ h => h, fun _ h => h⟩

/-- What is not forgotten twice is not forgotten. -/
theorem Grows.trans {q r : Pool β} (h : p.Grows q) (h' : q.Grows r) : p.Grows r where
  length := Nat.le_trans h.length h'.length
  requested t ht := h'.requested t (h.requested t ht)
  tripped t ht := h'.tripped t (h.tripped t ht)
  done t ht := h'.done t (h.done t ht)

/-- A pool that keeps its tasks may be taken for one that grows. -/
theorem Keeps.grows {q : Pool β} (h : p.Keeps q) : p.Grows q :=
  ⟨Nat.le_of_eq h.length.symm, h.requested, h.tripped, h.done⟩

/-- A look of the deadline monitor forgets no task. -/
theorem keeps_scan (hook : β → Option TaskId) (p : Pool β) : p.Keeps (p.scan hook) := by
  cases hd : p.down with
  | true => rw [scan, hd]; exact .refl p
  | false =>
    obtain ⟨_, q, he, -, -, -, hk, -⟩ := scan_eq hook p hd
    rw [he]
    exact hk.trans (keeps_requestAll hook _ q)

/-- No event forgets a task or takes a flag back, and a submission adds one task. -/
theorem grows_step (p : Pool β) (e : Event β) : p.Grows (p.step e) := by
  cases e with
  | submit b =>
    rcases step_submit p b with hs | hs
    · rw [hs]; exact .refl p
    · obtain ⟨-, -, -, -, -, _, ht⟩ := submit_eq_some hs
      refine ⟨by simp [ht], fun t h => ?_, fun t h => ?_, fun t h => ?_⟩
      · rw [isRequested, ht]
        exact (any_append rfl p.tasks t).trans h
      · rw [isTripped, ht]
        exact (any_append rfl p.tasks t).trans h
      · rw [isDone, ht]
        exact (any_append rfl p.tasks t).trans h
  | take w =>
    rcases step_take p w with ⟨-, ht⟩ | ⟨t, ht⟩
    · rw [ht]; exact .refl p
    · obtain ⟨rest, -, hq⟩ := take?_eq_some ht
      rw [hq]
      exact Keeps.grows (.of_tasks rfl)
  | finish t =>
    rw [step_finish]
    split
    · exact ((keeps_markDone p t).trans (.of_tasks (by rfl))).grows
    · exact .refl p
  | cancel hook t => exact (eases_cancel hook p t).toKeeps.grows
  | scan hook => exact (keeps_scan hook p).grows
  | revive w =>
    show p.Grows (p.revive w)
    unfold revive
    split
    · exact .refl p
    · exact Keeps.grows (.of_tasks rfl)
  | shutDown hook interrupt => exact (eases_shutDown hook p interrupt).toKeeps.grows
  | tick d => exact Keeps.grows (.of_tasks rfl)

/-- No task is forgotten along a run. -/
theorem grows_run (es : List (Event β)) (p : Pool β) : p.Grows (p.run es) := by
  induction es generalizing p with
  | nil => exact .refl p
  | cons e es ih => exact (grows_step p e).trans (ih _)

/-! ## The queue -/

/-- The deadline monitor looks at running tasks only. -/
theorem queue_scan (hook : β → Option TaskId) (p : Pool β) : (p.scan hook).queue = p.queue := by
  cases hd : p.down with
  | true => rw [scan, hd, if_pos rfl]
  | false =>
    obtain ⟨_, q, he, hq, -⟩ := scan_eq hook p hd
    rw [he, queue_requestAll, hq]

/-- A replaced worker leaves the queue. -/
theorem queue_revive (p : Pool β) (w : WorkerId) : (p.revive w).queue = p.queue := by
  unfold revive
  split <;> rfl

/-- A shutdown leaves nothing queued. -/
theorem queue_shutDown (hook : β → Option TaskId) (p : Pool β) (interrupt : Bool) :
    (p.shutDown hook interrupt).queue = [] := by
  obtain ⟨r, hr, -⟩ := foldl_noteCancelled_eq (if interrupt then p.running.map (·.task) else [])
    { p with down := true, queue := [] }
  rw [shutDown, queue_requestAll, hr, (foldl_drop_eq hook p.queue _).1]

/-- A task enters the queue at its end, when it is submitted, and begins at its head. Whatever else
happens, tasks are only taken out. -/
theorem queue_step (p : Pool β) (e : Event β) :
    ((p.begun? e).toList ++ (p.step e).queue).Sublist (p.queue ++ (p.submitted? e).toList) := by
  cases e with
  | submit b =>
    rcases step_submit p b with hs | hs
    · rw [hs]
      exact List.sublist_append_left _ _
    · obtain ⟨-, -, hq, -⟩ := submit_eq_some hs
      rw [hq, submitted?, hs]
      exact .refl _
  | take w =>
    rcases step_take p w with ⟨hn, ht⟩ | ⟨u, ht⟩
    · rw [ht, begun?, hn]
      exact List.sublist_append_left _ _
    · obtain ⟨rest, hq, he⟩ := take?_eq_some ht
      rw [begun?, ht, he, hq]
      exact List.sublist_append_left _ _
  | finish t =>
    rw [step_finish]
    split <;> exact List.sublist_append_left _ _
  | cancel hook t => exact (eases_cancel hook p t).queue.trans (List.sublist_append_left _ _)
  | scan hook => exact (queue_scan hook p).symm ▸ List.sublist_append_left _ _
  | revive w => exact (queue_revive p w).symm ▸ List.sublist_append_left _ _
  | shutDown hook interrupt => exact (queue_shutDown hook p interrupt).symm ▸ List.nil_sublist _
  | tick d => exact List.sublist_append_left _ _

/-- A task that is submitted gets the next number. -/
theorem submitted?_eq_some (h : p.submitted? e = some t) : t = p.tasks.length := by
  cases e with
  | submit b => exact (submit_eq_some (Prod.ext h rfl)).1
  | _ => cases h

/-- A task comes into the queue when it is submitted, and not later. -/
theorem mem_queue_step (h : t ∈ (p.step e).queue) : t ∈ p.queue ∨ t = p.tasks.length := by
  have hmem := (queue_step p e).subset (List.mem_append_right _ h)
  exact (List.mem_append.1 hmem).imp_right fun ht => submitted?_eq_some (Option.mem_toList.1 ht)

/-- Tasks begin in the order in which they were submitted, and before what is still queued. -/
theorem queue_run (p : Pool β) (es : List (Event β)) :
    (p.begun es ++ (p.run es).queue).Sublist (p.queue ++ p.submitted es) := by
  induction es generalizing p with
  | nil => simp [begun, submitted]
  | cons e es ih =>
    have hstep := (queue_step p e).append_right ((p.step e).submitted es)
    have hrest := (ih (p.step e)).append_left (p.begun? e).toList
    simp only [begun, submitted, run_cons, List.append_assoc] at hstep ⊢
    exact hrest.trans hstep

/-- A task that has left the queue never comes back to it. -/
theorem notMem_queue_run (ht : t < p.tasks.length) (hq : t ∉ p.queue) (es : List (Event β)) :
    t ∉ (p.run es).queue := by
  induction es generalizing p with
  | nil => exact hq
  | cons e es ih =>
    refine ih (Nat.lt_of_lt_of_le ht (grows_step p e).length) fun h => ?_
    rcases mem_queue_step h with h | rfl
    · exact hq h
    · exact Nat.lt_irrefl _ ht

/-! ## What begins -/

/-- A task that begins was the next one of the queue, and is not in the queue any more. -/
theorem Sound.begun?_eq_some (h : p.Sound) (hb : p.begun? e = some t) :
    t ∈ p.queue ∧ t ∉ (p.step e).queue := by
  cases e with
  | take w =>
    rcases step_take p w with ⟨ht, -⟩ | ⟨u, ht⟩
    · simp [begun?, ht] at hb
    · obtain rfl : u = t := by simpa [begun?, ht] using hb
      obtain ⟨rest, hq, he⟩ := take?_eq_some ht
      rw [he, hq]
      exact ⟨List.mem_cons_self, (List.nodup_cons.1 (hq ▸ h.queue_nodup)).1⟩
  | _ => cases hb

/-- What begins in a run begins in its first part or in the rest of it. -/
theorem begun_append (p : Pool β) (es fs : List (Event β)) :
    p.begun (es ++ fs) = p.begun es ++ (p.run es).begun fs := by
  induction es generalizing p with
  | nil => rfl
  | cons e es ih => rw [List.cons_append, begun, ih, begun, List.append_assoc, run_cons]

/-- A task that has left the queue never begins after that. -/
theorem Sound.notMem_begun (h : p.Sound) (ht : t < p.tasks.length) (hq : t ∉ p.queue)
    (es : List (Event β)) : t ∉ p.begun es := by
  induction es generalizing p with
  | nil => exact List.not_mem_nil
  | cons e es ih =>
    rw [begun, List.mem_append, not_or]
    refine ⟨fun hb => hq (h.begun?_eq_some (Option.mem_toList.1 hb)).1, ?_⟩
    exact ih (h.step e) (Nat.lt_of_lt_of_le ht (grows_step p e).length)
      (notMem_queue_run ht hq [e])

/-- No task begins twice. -/
theorem Sound.nodup_begun (h : p.Sound) (es : List (Event β)) : (p.begun es).Nodup := by
  induction es generalizing p with
  | nil => exact .nil
  | cons e es ih =>
    have hrest := ih (h.step e)
    cases hb : p.begun? e with
    | none => simpa [begun, hb] using hrest
    | some t =>
      obtain ⟨hq, hleft⟩ := h.begun?_eq_some hb
      have hlt := Nat.lt_of_lt_of_le (h.queue_lt t hq) (grows_step p e).length
      simpa [begun, hb] using ⟨(h.step e).notMem_begun hlt hleft es, hrest⟩

/-- A discarded task was queued at some point of the run, and not any more one step later, a step in
which no task began. -/
theorem exists_of_mem_discarded {t : TaskId} : ∀ {es : List (Event β)} {p : Pool β}, t ∈ p.discarded es →
    ∃ before e after, es = before ++ e :: after ∧ (p.run before).begun? e = none ∧
      t ∈ (p.run before).queue ∧ t ∉ ((p.run before).step e).queue
  | e :: es, p, h => by
    have hlater (h : t ∈ (p.step e).discarded es) : ∃ before e' after,
        e :: es = before ++ e' :: after ∧ (p.run before).begun? e' = none ∧
          t ∈ (p.run before).queue ∧ t ∉ ((p.run before).step e').queue := by
      obtain ⟨before, e', after, rfl, hrest⟩ := exists_of_mem_discarded h
      exact ⟨e :: before, e', after, rfl, hrest⟩
    cases e with
    | take w => exact hlater h
    | _ =>
      rcases List.mem_append.1 h with h | h
      · obtain ⟨hq, hleft⟩ := List.mem_filter.1 h
        exact ⟨[], _, es, rfl, rfl, hq, by simpa using hleft⟩
      · exact hlater h

/-- A task that has begun is not queued any more. -/
theorem Sound.notMem_queue_of_begun (h : p.Sound) (hb : t ∈ p.begun es) : t ∉ (p.run es).queue := by
  induction es generalizing p with
  | nil => cases hb
  | cons e es ih =>
    rcases List.mem_append.1 hb with hb | hb
    · obtain ⟨hq, hleft⟩ := h.begun?_eq_some (Option.mem_toList.1 hb)
      have hlt := Nat.lt_of_lt_of_le (h.queue_lt t hq) (grows_step p e).length
      exact notMem_queue_run hlt hleft es
    · exact ih (h.step e) hb

/-- A task that was discarded never begins, before or after. -/
theorem Sound.notMem_begun_of_discarded (h : p.Sound) (hd : t ∈ p.discarded es) :
    t ∉ p.begun es := by
  obtain ⟨before, e, after, rfl, hnone, hq, hleft⟩ := exists_of_mem_discarded hd
  have hs := h.run before
  have hlt := Nat.lt_of_lt_of_le (hs.queue_lt t hq) (grows_step _ e).length
  rw [begun_append, begun, hnone, List.mem_append, List.mem_append, not_or, not_or]
  exact ⟨fun hb => h.notMem_queue_of_begun hb hq, List.not_mem_nil,
    (hs.step e).notMem_begun hlt hleft after⟩

end Pool

end BatchTraversal
