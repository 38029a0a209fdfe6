import BatchTraversal.Proofs.Pool.Workforce

/-!
# Shutting a pool down

A shutdown call raises a flag, then takes the whole queue in one step, then cancels what it took, one
task after the other, and with `interrupt` the running tasks; at last it waits for the running tasks
and answers whether none is left. Between these steps workers take and finish tasks, monitors look,
handles are cancelled, and other shutdown calls are at work. `Pool.Closing` is a pool with the
shutdown calls that are under way, and `Closing.Act` what can happen to it. A call that nothing comes
between does what `Pool.shutDown` does (`Closing.pool_undisturbed`).

From the moment on at which a call has taken the queue nothing is queued and nothing begins any more,
and who works for the pool does not change. A task that was queued then is neither lost nor run: it is
still to be cancelled by the call, or cancelled and done.
-/

namespace BatchTraversal

namespace Pool

variable {β : Type} {p q r : Pool β} {t u : TaskId}

/-! ## What a step leaves when the pool is shut down -/

/-- A pool that is shut down stays so. -/
theorem down_step (h : p.down) (e : Event β) : (p.step e).down := by
  cases e with
  | submit b =>
    rcases step_submit p b with hs | hs
    · rwa [hs]
    · rw [(submit_eq_some hs).2.1] at h
      cases h
  | take w =>
    rcases step_take p w with ⟨-, ht⟩ | ⟨t, ht⟩
    · rwa [ht]
    · obtain ⟨rest, -, he⟩ := take?_eq_some ht
      rw [he]
      exact h
  | finish t =>
    rw [step_finish]
    split <;> exact h
  | cancel hook t => exact (eases_cancel hook p t).down h
  | scan hook => simp [step, scan, h]
  | revive w => simp [step, revive, h]
  | shutDown hook interrupt => exact (eases_shutDown hook p interrupt).down h
  | tick d => exact h

/-- A running task was running before or has begun. -/
theorem running_step {e : Event β} (h : t ∈ (p.step e).running.map (·.task)) :
    t ∈ p.running.map (·.task) ∨ p.begun? e = some t := by
  cases e with
  | submit b =>
    rcases step_submit p b with hs | hs
    · exact .inl (hs ▸ h)
    · rw [(submit_eq_some hs).2.2.2.1] at h
      exact .inl h
  | take w =>
    rcases step_take p w with ⟨-, ht⟩ | ⟨u, ht⟩
    · exact .inl (ht ▸ h)
    · obtain ⟨rest, -, he⟩ := take?_eq_some ht
      rw [he, List.map_append] at h
      refine (List.mem_append.1 h).imp_right fun hu => ?_
      rw [begun?, ht, List.mem_singleton.1 hu]
      rfl
  | finish u =>
    rw [step_finish] at h
    split at h
    · exact .inl ((List.filter_sublist.map _).subset h)
    · exact .inl h
  | cancel hook u => exact .inl ((eases_cancel hook p u).running ▸ h)
  | scan hook =>
    have h : t ∈ (p.scan hook).running.map (·.task) := h
    cases hd : p.down with
    | true => exact .inl (by simpa [scan, hd] using h)
    | false =>
      obtain ⟨r, q, he, -, hr, -, -, -, -, -, hmap, -⟩ := scan_eq hook p hd
      rw [he, running_requestAll, hr] at h
      exact .inl (hmap ▸ (List.filter_sublist.map _).subset h)
  | revive w =>
    have h : t ∈ (p.revive w).running.map (·.task) := h
    unfold revive at h
    split at h <;> exact .inl h
  | shutDown hook interrupt => exact .inl ((eases_shutDown hook p interrupt).running ▸ h)
  | tick d => exact .inl h

/-- A requested task keeps its token tripped. -/
theorem marked_step (h : ∀ t, p.isRequested t → p.isTripped t) (e : Event β)
    (ht : (p.step e).isRequested t) : (p.step e).isTripped t := by
  cases e with
  | submit b =>
    rcases step_submit p b with hs | hs
    · rw [hs] at ht ⊢
      exact h t ht
    · obtain ⟨-, -, -, -, -, deadline, htasks⟩ := submit_eq_some hs
      rw [isRequested, htasks, any_append rfl] at ht
      rw [isTripped, htasks, any_append rfl]
      exact h t ht
  | take w =>
    rcases step_take p w with ⟨-, hs⟩ | ⟨u, hs⟩
    · rw [hs] at ht ⊢
      exact h t ht
    · obtain ⟨rest, -, he⟩ := take?_eq_some hs
      rw [he] at ht ⊢
      exact h t ht
  | finish u =>
    rw [step_finish] at ht ⊢
    split at ht
    · rw [if_pos ‹_›]
      exact (eases_markDone p u).marked h t ht
    · rw [if_neg ‹_›]
      exact h t ht
  | cancel hook u => exact (eases_cancel hook p u).marked h t ht
  | scan hook =>
    have ht : (p.scan hook).isRequested t := ht
    show (p.scan hook).isTripped t
    cases hd : p.down with
    | true =>
      rw [scan, hd, if_pos rfl] at ht ⊢
      exact h t ht
    | false =>
      obtain ⟨r, q, he, -, -, -, -, -, hreq, htri, -⟩ := scan_eq hook p hd
      rw [he] at ht ⊢
      refine isTripped_requestAll hook (fun u hu => ?_) ht
      rw [htri]
      exact h u (hreq u ▸ hu)
  | revive w =>
    have ht : (p.revive w).isRequested t := ht
    show (p.revive w).isTripped t
    unfold revive at ht ⊢
    split at ht
    · rw [if_pos ‹_›]
      exact h t ht
    · rw [if_neg ‹_›]
      exact h t ht
  | shutDown hook interrupt => exact (eases_shutDown hook p interrupt).marked h t ht
  | tick d => exact h t ht

/-! ## Shutdown calls under way -/

/-- A shutdown call that has taken the queue. -/
structure Call where
  /-- The tasks that it took from the queue and has still to cancel. -/
  drained : List TaskId
  /-- The running tasks that it has still to cancel. -/
  running : List TaskId
  /-- For how long it waits. -/
  timeout : Duration
  /-- When it stops waiting, once it waits. -/
  limit : Option Nat := none
  /-- What it has answered. -/
  answer : Option Bool := none
  deriving DecidableEq, Repr

/-- The next step of a shutdown call: it cancels one more task, or begins to wait, or looks whether it
is done, which it is when no task runs or its time is over. -/
def Call.proceed (hook : β → Option TaskId) (p : Pool β) (c : Call) : Pool β × Call :=
  match c.drained, c.running, c.limit with
  | t :: rest, _, _ => (p.drop hook t, { c with drained := rest })
  | [], t :: rest, _ => ((p.request hook t).2, { c with running := rest })
  | [], [], none => (p, { c with limit := some (p.now + c.timeout.nanos) })
  | [], [], some limit =>
    if p.isIdle || limit ≤ p.now then (p, { c with answer := c.answer.or (some p.isIdle) }) else (p, c)

/-- A pool with the shutdown calls that are under way or have answered. -/
structure Closing (β : Type) where
  pool : Pool β
  calls : List Call := []

namespace Closing

variable {f g : Closing β}

/-- What can happen to a pool that is being shut down. -/
inductive Act (β : Type)
  /-- What happens to a pool in one step, a cancel or a shutdown that nothing comes between too. -/
  | event (e : Event β)
  /-- The request of a cancel by a handle or by the deadline monitor. -/
  | request (hook : β → Option TaskId) (t : TaskId)
  /-- What a cancel by a handle does after its request. -/
  | record (t : TaskId)
  /-- A shutdown call raises the flag. -/
  | raise
  /-- A shutdown call takes the queue. -/
  | drain (interrupt : Bool) (timeout : Duration)
  /-- The shutdown call with this number goes on. -/
  | proceed (hook : β → Option TaskId) (i : Nat)

/-- A pool with its shutdown calls after one act. -/
def step (f : Closing β) : Act β → Closing β
  | .event e => { f with pool := f.pool.step e }
  | .request hook t => { f with pool := (f.pool.request hook t).2 }
  | .record t => { f with pool := f.pool.record t }
  | .raise => { f with pool := f.pool.raise }
  | .drain interrupt timeout =>
    { pool := f.pool.drain interrupt
      calls := f.calls ++ [{ drained := f.pool.queue, running := f.pool.stopped interrupt, timeout }] }
  | .proceed hook i =>
    match f.calls[i]? with
    | none => f
    | some c => { pool := (c.proceed hook f.pool).1, calls := f.calls.set i (c.proceed hook f.pool).2 }

/-- A pool with its shutdown calls after some acts. -/
def run (f : Closing β) (as : List (Act β)) : Closing β := as.foldl step f

/-- The task whose run is invoked. -/
def begun? (f : Closing β) : Act β → Option TaskId
  | .event e => f.pool.begun? e
  | _ => none

/-- The tasks whose runs are invoked, in order. -/
def begun (f : Closing β) : List (Act β) → List TaskId
  | [] => []
  | a :: as => (f.begun? a).toList ++ (f.step a).begun as

@[simp] theorem run_nil (f : Closing β) : f.run [] = f := rfl

@[simp] theorem run_cons (f : Closing β) (a : Act β) (as : List (Act β)) :
    f.run (a :: as) = (f.step a).run as := rfl

/-- What begins in a run begins in its first part or in the rest of it. -/
theorem begun_append (f : Closing β) (as bs : List (Act β)) :
    f.begun (as ++ bs) = f.begun as ++ (f.run as).begun bs := by
  induction as generalizing f with
  | nil => rfl
  | cons a as ih => rw [List.cons_append, begun, ih, begun, List.append_assoc, run_cons]

/-- The step of a call changes the pool and that call. -/
theorem step_proceed (hook : β → Option TaskId) {i : Nat} {c : Call} (h : f.calls[i]? = some c) :
    f.step (.proceed hook i) =
      { pool := (c.proceed hook f.pool).1, calls := f.calls.set i (c.proceed hook f.pool).2 } := by
  simp only [step, h]

end Closing

/-- A call cancels the next task that it took from the queue, then the next running task; when none is
left it sets its time, and after that it answers when no task runs or its time is over. -/
theorem Call.proceed_cases (hook : β → Option TaskId) (p : Pool β) (c : Call) :
    (∃ t rest, c.drained = t :: rest ∧
      c.proceed hook p = (p.drop hook t, { c with drained := rest })) ∨
    (∃ t rest, c.drained = [] ∧ c.running = t :: rest ∧
      c.proceed hook p = ((p.request hook t).2, { c with running := rest })) ∨
    c.drained = [] ∧ c.running = [] ∧
      ((c.limit = none ∧
          c.proceed hook p = (p, { c with limit := some (p.now + c.timeout.nanos) })) ∨
        ∃ limit, c.limit = some limit ∧
          (((p.isIdle ∨ limit ≤ p.now) ∧
              c.proceed hook p = (p, { c with answer := c.answer.or (some p.isIdle) })) ∨
            ¬ (p.isIdle ∨ limit ≤ p.now) ∧ c.proceed hook p = (p, c))) := by
  unfold Call.proceed
  split
  · next t rest hd => exact .inl ⟨t, rest, hd, rfl⟩
  · next t rest hd hr => exact .inr (.inl ⟨t, rest, hd, hr, rfl⟩)
  · next hd hr hl => exact .inr (.inr ⟨hd, hr, .inl ⟨hl, rfl⟩⟩)
  · next limit hd hr hl =>
    refine .inr (.inr ⟨hd, hr, .inr ⟨limit, hl, ?_⟩⟩)
    simp only [Bool.or_eq_true, decide_eq_true_eq]
    split
    · next hover => exact .inl ⟨hover, rfl⟩
    · next hover => exact .inr ⟨hover, rfl⟩

/-- No step of a call does more than to cancel tasks and to take them from the queue. -/
theorem Call.eases_proceed (hook : β → Option TaskId) (p : Pool β) (c : Call) :
    p.Eases (c.proceed hook p).1 := by
  rcases c.proceed_cases hook p with ⟨t, rest, -, h⟩ | ⟨t, rest, -, -, h⟩ |
    ⟨-, -, ⟨-, h⟩ | ⟨limit, -, ⟨-, h⟩ | ⟨-, h⟩⟩⟩ <;> rw [h]
  · exact eases_drop hook p t
  · exact eases_request hook p t
  all_goals exact .refl p

namespace Closing

variable {f g : Closing β}

/-- What is done for a shutdown or a cancel begins nothing. -/
theorem eases_step (f : Closing β) (a : Act β) :
    (∃ e, a = .event e ∧ (f.step a).pool = f.pool.step e) ∨
      f.begun? a = none ∧ f.pool.Eases (f.step a).pool := by
  cases a with
  | event e => exact .inl ⟨e, rfl, rfl⟩
  | request hook t => exact .inr ⟨rfl, eases_request hook f.pool t⟩
  | record t => exact .inr ⟨rfl, eases_record f.pool t⟩
  | raise => exact .inr ⟨rfl, eases_raise f.pool⟩
  | drain interrupt timeout => exact .inr ⟨rfl, eases_drain f.pool interrupt⟩
  | proceed hook i =>
    refine .inr ⟨rfl, ?_⟩
    cases h : f.calls[i]? with
    | none =>
      simp only [step, h]
      exact .refl f.pool
    | some c =>
      rw [step_proceed hook h]
      exact c.eases_proceed hook f.pool

/-- No act forgets a task. -/
theorem grows_step (f : Closing β) (a : Act β) : f.pool.Grows (f.step a).pool := by
  rcases eases_step f a with ⟨e, -, h⟩ | ⟨-, h⟩
  · rw [h]
    exact Pool.grows_step f.pool e
  · exact h.toKeeps.grows

end Closing

/-! ## What was begun and what is queued -/

/-- No task has begun twice or is queued again, what runs has begun, and a requested task has its token
tripped; `log` is what has begun. -/
structure Recorded (log : List TaskId) (p : Pool β) : Prop where
  nodup : (log ++ p.queue).Nodup
  lt : ∀ t ∈ log ++ p.queue, t < p.tasks.length
  running : ∀ t ∈ p.running.map (·.task), t ∈ log
  marked : ∀ t, p.isRequested t → p.isTripped t

variable {log : List TaskId}

/-- A pool that has just started has begun nothing and queues nothing. -/
theorem recorded_start {settings : PoolSettings} (h : Pool.start settings = .ok p) :
    Recorded [] p := by
  obtain rfl := start_eq_ok h
  constructor <;> simp [isRequested]

/-- Cancelling tasks and taking them from the queue begins nothing. -/
theorem Recorded.eases (h : Recorded log p) (he : p.Eases q) : Recorded log q := by
  have hsub : (log ++ q.queue).Sublist (log ++ p.queue) := he.queue.append_left log
  refine ⟨h.nodup.sublist hsub, fun t ht => ?_, fun t ht => h.running t (he.running ▸ ht),
    he.marked h.marked⟩
  rw [he.length]
  exact h.lt t (hsub.subset ht)

/-- A submitted task gets the next number, and is known from then on. -/
theorem lt_of_submitted? {e : Event β} (h : p.submitted? e = some t) :
    t = p.tasks.length ∧ t < (p.step e).tasks.length := by
  cases e with
  | submit b =>
    obtain ⟨rfl, -, -, -, -, deadline, ht⟩ := submit_eq_some (Prod.ext h rfl)
    refine ⟨rfl, ?_⟩
    show p.tasks.length < (p.submit b).2.tasks.length
    simp [ht]
  | _ => cases h

/-- A task that begins leaves the queue for the log, and a submitted one is in neither yet. -/
theorem Recorded.step (h : Recorded log p) (e : Event β) :
    Recorded (log ++ (p.begun? e).toList) (p.step e) := by
  have hsub : (log ++ (p.begun? e).toList ++ (p.step e).queue).Sublist
      (log ++ p.queue ++ (p.submitted? e).toList) := by
    rw [List.append_assoc, List.append_assoc]
    exact (queue_step p e).append_left log
  refine ⟨?_, fun t ht => ?_, fun t ht => ?_, fun t ht => marked_step h.marked e ht⟩
  · refine List.Nodup.sublist hsub ?_
    cases hnew : p.submitted? e with
    | none => simpa using h.nodup
    | some t =>
      have hfresh : t ∉ log ++ p.queue := fun hmem =>
        Nat.ne_of_lt (h.lt t hmem) (lt_of_submitted? hnew).1
      rw [Option.toList_some, ← List.concat_eq_append]
      exact h.nodup.concat hfresh
  · rcases List.mem_append.1 (hsub.subset ht) with ht | ht
    · exact Nat.lt_of_lt_of_le (h.lt t ht) (grows_step p e).length
    · exact (lt_of_submitted? (Option.mem_toList.1 ht)).2
  · rcases running_step ht with ht | ht
    · exact List.mem_append_left _ (h.running t ht)
    · exact List.mem_append_right _ (Option.mem_toList.2 ht)

namespace Closing

variable {f g : Closing β}

/-- The same of an act: what begins is logged. -/
theorem recorded_step (h : Recorded log f.pool) (a : Act β) :
    Recorded (log ++ (f.begun? a).toList) (f.step a).pool := by
  rcases eases_step f a with ⟨e, rfl, -⟩ | ⟨hb, he⟩
  · exact h.step e
  · rw [hb]
    exact (List.append_nil log).symm ▸ h.eases he

/-- Along a run nothing begins twice or is queued again. -/
theorem recorded_run (h : Recorded log f.pool) (as : List (Act β)) :
    Recorded (log ++ f.begun as) (f.run as).pool := by
  induction as generalizing f log with
  | nil => simpa [begun] using h
  | cons a as ih =>
    have hrest := ih (recorded_step h a)
    rwa [List.append_assoc] at hrest

/-! ## After the queue was taken -/

/-- The pool is shut down and its queue was taken. -/
structure Closed (f : Closing β) : Prop where
  down : f.pool.down
  queue : f.pool.queue = []

/-- Who takes the queue leaves the pool shut down and the queue empty. -/
theorem closed_drain (f : Closing β) (interrupt : Bool) (timeout : Duration) :
    (f.step (.drain interrupt timeout)).Closed := by
  obtain ⟨running, h, -⟩ := foldl_noteCancelled_eq (f.pool.stopped interrupt)
    { f.pool with down := true, queue := [] }
  constructor <;> simp only [step, drain, h]

/-- Nothing begins in a closed pool, whose workers stay, and it stays closed. -/
theorem Closed.step (h : f.Closed) (a : Act β) :
    (f.step a).Closed ∧ f.begun? a = none ∧ (f.step a).pool.roster = f.pool.roster := by
  rcases eases_step f a with ⟨e, rfl, -⟩ | ⟨hb, he⟩
  · have hnew : f.pool.submitted? e = none := by
      cases e with
      | submit b => simp [submitted?, submit, h.down]
      | _ => rfl
    have hsub := queue_step f.pool e
    rw [h.queue, hnew] at hsub
    obtain ⟨hb, hq⟩ := List.append_eq_nil_iff.1 (List.sublist_nil.1 hsub)
    refine ⟨⟨down_step h.down e, hq⟩, Option.toList_eq_nil_iff.1 hb, ?_⟩
    exact (roster_step f.pool e).resolve_right fun hup => by simp [h.down] at hup
  · exact ⟨⟨he.down h.down, List.sublist_nil.1 (h.queue ▸ he.queue)⟩, hb, he.roster⟩

/-- Once the queue was taken, nothing begins any more and the roster stays. -/
theorem Closed.run (h : f.Closed) (as : List (Act β)) :
    (f.run as).Closed ∧ f.begun as = [] ∧ (f.run as).pool.roster = f.pool.roster := by
  induction as generalizing f with
  | nil => exact ⟨h, rfl, rfl⟩
  | cons a as ih =>
    obtain ⟨hclosed, hnone, hroster⟩ := h.step a
    obtain ⟨hclosed', hbegun, hroster'⟩ := ih hclosed
    refine ⟨hclosed', ?_, hroster'.trans hroster⟩
    rw [begun, hnone, hbegun]
    rfl

end Closing

/-! ## What a shutdown call does -/

/-- How far a call has come that took the tasks `queued` from the queue and is to cancel the tasks
`running`: what is not among those it has still to cancel is cancelled, and it waits only when there
are none. -/
structure Call.Follows (queued running : List TaskId) (p : Pool β) (c : Call) : Prop where
  dropped : ∀ t ∈ queued, t ∈ c.drained ∨ p.isTripped t ∧ p.isDone t
  requested : ∀ t ∈ running, t ∈ c.running ∨ p.isRequested t
  drained : c.drained ⊆ queued
  stopped : c.running ⊆ running
  waiting : c.limit.isSome → c.drained = [] ∧ c.running = []
  answered : c.answer.isSome → c.limit.isSome

section
variable {queued running : List TaskId} {c : Call} (hook : β → Option TaskId)

/-- What a call has cancelled stays so, whatever others do. -/
theorem Call.Follows.grows (h : c.Follows queued running p) (hg : p.Grows q) :
    c.Follows queued running q where
  dropped t ht := (h.dropped t ht).imp_right fun hd => ⟨hg.tripped t hd.1, hg.done t hd.2⟩
  requested t ht := (h.requested t ht).imp_right (hg.requested t)
  drained := h.drained
  stopped := h.stopped
  waiting := h.waiting
  answered := h.answered

/-- A task that is dropped is requested, tripped and done. -/
theorem drop_marks (hm : ∀ t, p.isRequested t → p.isTripped t) (ht : t < p.tasks.length) :
    (p.drop hook t).isTripped t ∧ (p.drop hook t).isDone t := by
  have hreq := (isRequested_request_iff hook p t t).2 (.inr ⟨rfl, ht⟩)
  constructor
  · exact (isTripped_markDone (p.request hook t).2 t t).trans (isTripped_request hook t hm hreq)
  · exact (isDone_markDone_iff (p.request hook t).2 t t).2
      (.inr ⟨rfl, (keeps_request hook p t).length.symm ▸ ht⟩)

/-- A step of a call cancels the next task of its lists, and the call waits when both are empty. -/
theorem Call.Follows.proceed (h : c.Follows queued running p)
    (hm : ∀ t, p.isRequested t → p.isTripped t) (hlt : ∀ t ∈ queued ++ running, t < p.tasks.length) :
    (c.proceed hook p).2.Follows queued running (c.proceed hook p).1 := by
  have hnext := h.grows (c.eases_proceed hook p).toKeeps.grows
  rcases c.proceed_cases hook p with ⟨t, rest, hd, he⟩ | ⟨t, rest, hd, hr, he⟩ |
    ⟨hd, hr, ⟨hl, he⟩ | ⟨limit, hl, ⟨-, he⟩ | ⟨-, he⟩⟩⟩ <;> rw [he] at hnext ⊢
  · have ht : t ∈ queued := h.drained (hd ▸ List.mem_cons_self)
    refine { hnext with dropped := fun u hu => ?_, drained := fun u hu => ?_, waiting := fun hl => ?_ }
    · rcases hnext.dropped u hu with hmem | hdone
      · rcases List.mem_cons.1 (hd ▸ hmem) with rfl | hmem
        · exact .inr (drop_marks hook hm (hlt u (List.mem_append_left _ ht)))
        · exact .inl hmem
      · exact .inr hdone
    · exact h.drained (hd ▸ List.mem_cons_of_mem t hu)
    · cases hd.symm.trans (h.waiting hl).1
  · have ht : t ∈ running := h.stopped (hr ▸ List.mem_cons_self)
    refine { hnext with requested := fun u hu => ?_, stopped := fun u hu => ?_, waiting := fun hl => ?_ }
    · rcases hnext.requested u hu with hmem | hdone
      · rcases List.mem_cons.1 (hr ▸ hmem) with rfl | hmem
        · exact .inr ((isRequested_request_iff hook p u u).2
            (.inr ⟨rfl, hlt u (List.mem_append_right _ ht)⟩))
        · exact .inl hmem
      · exact .inr hdone
    · exact h.stopped (hr ▸ List.mem_cons_of_mem t hu)
    · cases hr.symm.trans (h.waiting hl).2
  · exact { hnext with waiting := fun _ => ⟨hd, hr⟩, answered := fun _ => rfl }
  · exact { hnext with answered := fun _ => by simp [hl] }
  · exact hnext

/-- A call requests only what it has still to cancel. -/
theorem Call.isRequested_proceed (hu : u ∉ c.drained ++ c.running) :
    (c.proceed hook p).1.isRequested u = p.isRequested u := by
  have hother {t : TaskId} (ht : t ∈ c.drained ++ c.running) :
      (p.request hook t).2.isRequested u = p.isRequested u := by
    have hne : t ≠ u := fun he => hu (he ▸ ht)
    rw [Bool.eq_iff_iff, isRequested_request_iff]
    exact or_iff_left fun h => hne h.1
  rcases c.proceed_cases hook p with ⟨t, rest, hd, he⟩ | ⟨t, rest, hd, hr, he⟩ |
    ⟨hd, hr, ⟨hl, he⟩ | ⟨limit, hl, ⟨-, he⟩ | ⟨-, he⟩⟩⟩ <;> rw [he]
  · exact (isRequested_markDone (p.request hook t).2 t u).trans (hother (by simp [hd]))
  · exact hother (by simp [hr])

/-- A call trips no token but of what it has still to cancel, and those that the hooks name. -/
theorem Call.isTripped_of_proceed (hu : u ∉ c.drained ++ c.running)
    (h : (c.proceed hook p).1.isTripped u) :
    p.isTripped u ∨ ∃ t ∈ c.drained ++ c.running, (p.payload? t).bind hook = some u := by
  have hother {t : TaskId} (ht : t ∈ c.drained ++ c.running)
      (h : (p.request hook t).2.isTripped u) :
      p.isTripped u ∨ ∃ t ∈ c.drained ++ c.running, (p.payload? t).bind hook = some u := by
    have hne : u ≠ t := fun he => hu (he ▸ ht)
    exact (isTripped_of_request hook t h).imp_right fun h => ⟨t, ht, h.resolve_left hne⟩
  rcases c.proceed_cases hook p with ⟨t, rest, hd, he⟩ | ⟨t, rest, hd, hr, he⟩ |
    ⟨hd, hr, ⟨hl, he⟩ | ⟨limit, hl, ⟨-, he⟩ | ⟨-, he⟩⟩⟩ <;> rw [he] at h
  · exact hother (by simp [hd]) ((isTripped_markDone (p.request hook t).2 t u).symm.trans h)
  · exact hother (by simp [hr]) h
  all_goals exact .inl h

/-- A call answers whether no task runs. -/
theorem Call.answer_proceed {b : Bool} (hnone : c.answer = none)
    (h : (c.proceed hook p).2.answer = some b) : b = p.isIdle := by
  rcases c.proceed_cases hook p with ⟨t, rest, hd, he⟩ | ⟨t, rest, hd, hr, he⟩ |
    ⟨hd, hr, ⟨hl, he⟩ | ⟨limit, hl, ⟨-, he⟩ | ⟨-, he⟩⟩⟩ <;> rw [he] at h
  all_goals simp [hnone] at h
  exact h.symm

end

namespace Closing

variable {f : Closing β} {queued running : List TaskId} {i : Nat} {c : Call}

/-- Nothing that happens takes a call back. -/
theorem follows_step (hlog : Recorded log f.pool) (hc : f.calls[i]? = some c)
    (hf : c.Follows queued running f.pool) (hlt : ∀ t ∈ queued ++ running, t < f.pool.tasks.length)
    (a : Act β) :
    ∃ c', (f.step a).calls[i]? = some c' ∧ c'.Follows queued running (f.step a).pool := by
  have hnext : c.Follows queued running (f.step a).pool := hf.grows (grows_step f a)
  cases a with
  | drain interrupt timeout =>
    refine ⟨c, ?_, hnext⟩
    show (f.calls ++ _)[i]? = some c
    rw [List.getElem?_append_left (List.getElem?_eq_some_iff.1 hc).1]
    exact hc
  | proceed hook j =>
    cases hj : f.calls[j]? with
    | none =>
      simp only [step, hj] at hnext ⊢
      exact ⟨c, hc, hnext⟩
    | some d =>
      rw [step_proceed hook hj] at hnext ⊢
      by_cases hji : j = i
      · subst hji
        cases hc.symm.trans hj
        refine ⟨(c.proceed hook f.pool).2, ?_, hf.proceed hook hlog.marked hlt⟩
        simp [(List.getElem?_eq_some_iff.1 hc).1]
      · refine ⟨c, ?_, hnext⟩
        simpa [List.getElem?_set_ne hji] using hc
  | _ => exact ⟨c, hc, hnext⟩

/-- Along a run a call comes ever further with the tasks that it took. -/
theorem follows_run (hlog : Recorded log f.pool) (hc : f.calls[i]? = some c)
    (hf : c.Follows queued running f.pool) (hlt : ∀ t ∈ queued ++ running, t < f.pool.tasks.length)
    (as : List (Act β)) :
    ∃ c', (f.run as).calls[i]? = some c' ∧ c'.Follows queued running (f.run as).pool := by
  induction as generalizing f c log with
  | nil => exact ⟨c, hc, hf⟩
  | cons a as ih =>
    obtain ⟨c', hc', hf'⟩ := follows_step hlog hc hf hlt a
    exact ih (recorded_step hlog a) hc' hf' fun t ht =>
      Nat.lt_of_lt_of_le (hlt t ht) (grows_step f a).length

/-- The step of a call leaves it where it is among the calls. -/
theorem calls_proceed (hook : β → Option TaskId) (hc : f.calls[i]? = some c) :
    (f.step (.proceed hook i)).calls[i]? = some (c.proceed hook f.pool).2 := by
  rw [step_proceed hook hc]
  simp [(List.getElem?_eq_some_iff.1 hc).1]

/-- Who takes the queue begins a call with what was queued and what it means to stop. -/
theorem calls_drain (f : Closing β) (interrupt : Bool) (timeout : Duration) :
    (f.step (.drain interrupt timeout)).calls[f.calls.length]? =
      some { drained := f.pool.queue, running := f.pool.stopped interrupt, timeout } := by
  show (f.calls ++ [_])[f.calls.length]? = _
  simp

/-- A call that nothing comes between cancels all that it has to cancel. -/
theorem pool_proceed (hook : β → Option TaskId) (hc : f.calls[i]? = some c) :
    (f.run (List.replicate (c.drained.length + c.running.length) (.proceed hook i))).pool =
      (c.drained.foldl (drop hook) f.pool).requestAll hook c.running := by
  obtain ⟨n, hn⟩ : ∃ n, c.drained.length + c.running.length = n := ⟨_, rfl⟩
  rw [hn]
  induction n generalizing f c with
  | zero =>
    obtain ⟨hd, hr⟩ : c.drained = [] ∧ c.running = [] := by simpa using hn
    rw [hd, hr]
    rfl
  | succ n ih =>
    have hstep := calls_proceed hook hc
    rw [List.replicate_succ, run_cons]
    rcases c.proceed_cases hook f.pool with ⟨t, rest, hd, he⟩ | ⟨t, rest, hd, hr, he⟩ | ⟨hd, hr, -⟩
    · rw [he] at hstep
      rw [hd, List.length_cons] at hn
      rw [ih hstep (by simp only; omega), step_proceed hook hc, he, hd]
      rfl
    · rw [he] at hstep
      rw [hr, List.length_cons] at hn
      rw [ih hstep (by simp only; omega), step_proceed hook hc, he, hd, hr]
      rfl
    · simp [hd, hr] at hn

/-- A shutdown that nothing comes between is the shutdown of the pool. -/
theorem pool_undisturbed (f : Closing β) (hook : β → Option TaskId) (interrupt : Bool)
    (timeout : Duration) :
    ((f.step (.drain interrupt timeout)).run (List.replicate
      (f.pool.queue.length + (f.pool.stopped interrupt).length)
        (.proceed hook f.calls.length))).pool = f.pool.shutDown hook interrupt := by
  rw [shutDown_eq]
  exact pool_proceed hook (calls_drain f interrupt timeout)

/-- A call that waits answers when its time is over. -/
theorem answer_of_limit (hook : β → Option TaskId) {limit : Nat} (hc : f.calls[i]? = some c)
    (hd : c.drained = []) (hr : c.running = []) (hl : c.limit = some limit) :
    ∃ c', (f.run [.event (.tick ⟨limit⟩), .proceed hook i]).calls[i]? = some c' ∧
      c'.answer.isSome := by
  have hnext := calls_proceed hook (f := f.step (.event (.tick ⟨limit⟩))) hc
  refine ⟨_, hnext, ?_⟩
  have hover : limit ≤ (f.pool.tick ⟨limit⟩).now := Nat.le_add_left limit f.pool.now
  show ((c.proceed hook (f.pool.tick ⟨limit⟩)).2.answer).isSome
  rcases c.proceed_cases hook (f.pool.tick ⟨limit⟩) with ⟨t, rest, hd', -⟩ | ⟨t, rest, -, hr', -⟩ |
    ⟨-, -, ⟨hl', -⟩ | ⟨limit', hl', ⟨-, he⟩ | ⟨hn, -⟩⟩⟩
  · cases hd.symm.trans hd'
  · cases hr.symm.trans hr'
  · cases hl.symm.trans hl'
  · rw [he]
    cases c.answer <;> rfl
  · cases hl.symm.trans hl'
    exact absurd (.inr hover) hn

/-- A call that is let go on returns, when its time is over at the latest. -/
theorem exists_answer (hook : β → Option TaskId) (hc : f.calls[i]? = some c) :
    ∃ as : List (Act β), (∀ a ∈ as, a = .proceed hook i ∨ ∃ d, a = .event (.tick d)) ∧
      ∃ c', (f.run as).calls[i]? = some c' ∧ c'.answer.isSome := by
  -- induction on the number of tasks that the call has still to cancel
  obtain ⟨n, hn⟩ : ∃ n, c.drained.length + c.running.length = n := ⟨_, rfl⟩
  induction n generalizing f c with
  | zero =>
    obtain ⟨hd, hr⟩ : c.drained = [] ∧ c.running = [] := by simpa using hn
    cases hl : c.limit with
    | some limit =>
      refine ⟨_, fun a ha => ?_, answer_of_limit hook hc hd hr hl⟩
      rcases List.mem_pair.1 ha with rfl | rfl
      · exact .inr ⟨_, rfl⟩
      · exact .inl rfl
    | none =>
      have hwait := calls_proceed hook hc
      rcases c.proceed_cases hook f.pool with ⟨t, rest, hd', -⟩ | ⟨t, rest, -, hr', -⟩ |
        ⟨-, -, ⟨-, he⟩ | ⟨limit, hl', -⟩⟩
      · cases hd.symm.trans hd'
      · cases hr.symm.trans hr'
      · rw [he] at hwait
        obtain ⟨c', hc', hans⟩ := answer_of_limit hook hwait hd hr rfl
        refine ⟨[.proceed hook i, .event (.tick _), .proceed hook i], fun a ha => ?_, c', hc', hans⟩
        simp only [List.mem_cons, List.not_mem_nil, or_false] at ha
        rcases ha with rfl | rfl | rfl
        · exact .inl rfl
        · exact .inr ⟨_, rfl⟩
        · exact .inl rfl
      · cases hl.symm.trans hl'
  | succ n ih =>
    have hstep := calls_proceed hook hc
    have hfewer : (c.proceed hook f.pool).2.drained.length +
        (c.proceed hook f.pool).2.running.length = n := by
      rcases c.proceed_cases hook f.pool with ⟨t, rest, hd, he⟩ | ⟨t, rest, hd, hr, he⟩ |
        ⟨hd, hr, -⟩
      · rw [he]
        rw [hd, List.length_cons] at hn
        show rest.length + c.running.length = n
        omega
      · rw [he]
        rw [hr, List.length_cons] at hn
        show c.drained.length + rest.length = n
        omega
      · simp [hd, hr] at hn
    obtain ⟨as, has, hans⟩ := ih hstep hfewer
    refine ⟨.proceed hook i :: as, fun a ha => ?_, hans⟩
    rcases List.mem_cons.1 ha with rfl | ha
    · exact .inl rfl
    · exact has a ha

/-- The call that took the queue, however much has happened since then. -/
theorem exists_follows (hlog : Recorded log f.pool) (interrupt : Bool) (timeout : Duration)
    (later : List (Act β)) :
    ∃ c, ((f.step (.drain interrupt timeout)).run later).calls[f.calls.length]? = some c ∧
      c.Follows f.pool.queue (f.pool.stopped interrupt)
        ((f.step (.drain interrupt timeout)).run later).pool := by
  have heases : f.pool.Eases (f.step (.drain interrupt timeout)).pool := eases_drain f.pool interrupt
  refine follows_run (hlog.eases heases)
    (calls_drain f interrupt timeout) ?_ ?_ later
  · constructor
    · exact fun _ ht => .inl ht
    · exact fun _ ht => .inl ht
    · exact fun _ ht => ht
    · exact fun _ ht => ht
    · exact fun hl => by simp at hl
    · exact fun ha => by simp at ha
  · intro t ht
    rw [heases.length]
    rcases List.mem_append.1 ht with ht | ht
    · exact hlog.lt t (List.mem_append_right _ ht)
    · unfold stopped at ht
      split at ht
      · exact hlog.lt t (List.mem_append_left _ (hlog.running t ht))
      · cases ht

/-- A call without tasks to interrupt leaves the running tasks to themselves. -/
theorem spares_running (hlog : Recorded log f.pool) (hapart : ∀ t ∈ queued, t ∉ log)
    (hc : f.calls[i]? = some c) (hf : c.Follows queued [] f.pool) (hook : β → Option TaskId)
    {a : Assignment} (ha : a ∈ f.pool.running) :
    (f.step (.proceed hook i)).pool.isRequested a.task = f.pool.isRequested a.task ∧
      ((f.step (.proceed hook i)).pool.isTripped a.task → f.pool.isTripped a.task ∨
        ∃ t ∈ queued, (f.pool.payload? t).bind hook = some a.task) := by
  have hnone : c.running = [] := List.subset_nil.1 hf.stopped
  have hu : a.task ∉ c.drained ++ c.running := by
    rw [hnone, List.append_nil]
    exact fun hmem => hapart _ (hf.drained hmem) (hlog.running _ (List.mem_map_of_mem ha))
  rw [step_proceed hook hc]
  refine ⟨c.isRequested_proceed hook hu, fun htr => ?_⟩
  refine (c.isTripped_of_proceed hook hu htr).imp_right fun ⟨t, ht, hhook⟩ => ⟨t, ?_, hhook⟩
  rw [hnone, List.append_nil] at ht
  exact hf.drained ht

end Closing

/-- **Shutdown is final.** Once a shutdown call has taken the queue, whatever happens between its steps
and after it, the queue stays empty, nothing is accepted and nothing begins, and the pool keeps its
workers. The tasks that were queued then never run: the call cancels one after the other, and before it
waits they all are cancelled and done. With `interrupt` it requests the same of the tasks that ran
then; without, it requests nothing of a running task, whose token is tripped at most by the hook of a
task that was queued. A call that is let go on returns, and every call answers whether no task runs. -/
theorem shutdown_final {settings : PoolSettings} (hp : Pool.start settings = .ok p)
    (before later : List (Closing.Act β)) (interrupt : Bool) (timeout : Duration) :
    let f := Closing.run { pool := p } before
    let g := f.step (.drain interrupt timeout)
    let h := g.run later
    h.pool.queue = [] ∧ (∀ b, (h.pool.submit b).1 = none) ∧ g.begun later = [] ∧
      h.pool.workers = f.pool.workers ∧
      (∀ t ∈ f.pool.queue,
        t ∉ Closing.begun { pool := p } (before ++ .drain interrupt timeout :: later)) ∧
      (∃ c, h.calls[f.calls.length]? = some c ∧
        (∀ t ∈ f.pool.queue, t ∈ c.drained ∨ h.pool.isTripped t ∧ h.pool.isDone t) ∧
        (interrupt → ∀ a ∈ f.pool.running, a.task ∈ c.running ∨ h.pool.isRequested a.task) ∧
        (c.limit.isSome ∨ c.answer.isSome → c.drained = [] ∧ c.running = [])) ∧
      (interrupt = false → g.pool.running = f.pool.running ∧ ∀ hook, ∀ a ∈ h.pool.running,
        let h' := h.step (.proceed hook f.calls.length)
        h'.pool.isRequested a.task = h.pool.isRequested a.task ∧
          (h'.pool.isTripped a.task → h.pool.isTripped a.task ∨
            ∃ t ∈ f.pool.queue, (h.pool.payload? t).bind hook = some a.task)) ∧
      (∀ hook, ∃ as : List (Closing.Act β),
        (∀ a ∈ as, a = .proceed hook f.calls.length ∨ ∃ d, a = .event (.tick d)) ∧
          ∃ c, (h.run as).calls[f.calls.length]? = some c ∧ c.answer.isSome) ∧
      ∀ hook i c c' b, h.calls[i]? = some c → c.answer = none →
        (h.step (.proceed hook i)).calls[i]? = some c' → c'.answer = some b →
          (b = true ↔ h.pool.running = []) := by
  intro f g h
  -- what had begun before the queue was taken is logged, and nothing queued is in that log
  have hlog : Recorded (Closing.begun { pool := p } before) f.pool :=
    Closing.recorded_run (recorded_start hp) before
  have heases : f.pool.Eases g.pool := eases_drain f.pool interrupt
  obtain ⟨hclosed, hbegun, hroster⟩ : h.Closed ∧ g.begun later = [] ∧ h.pool.roster = g.pool.roster :=
    (f.closed_drain interrupt timeout).run later
  have hlog' : Recorded (Closing.begun { pool := p } before) h.pool := by
    have hrun := Closing.recorded_run (hlog.eases heases : Recorded _ g.pool) later
    rwa [hbegun, List.append_nil] at hrun
  -- the call itself, which stays where it is among the calls
  obtain ⟨c, hc, hf⟩ := Closing.exists_follows hlog interrupt timeout later
  have hapart : ∀ t ∈ f.pool.queue, t ∉ Closing.begun { pool := p } before := fun t ht hb =>
    (List.nodup_append.1 hlog.nodup).2.2 t hb t ht rfl
  refine ⟨hclosed.queue, fun b => ?_, hbegun, ?_, fun t ht hb => ?_,
    ⟨c, hc, hf.dropped, fun hi a ha => hf.requested a.task ?_, fun hw => ?_⟩,
    fun hi => ⟨?_, fun hook a ha => ?_⟩, fun hook => Closing.exists_answer hook hc,
    fun hook i d d' b hd hnone hd' hb => ?_⟩
  · have hdown : h.pool.down := hclosed.down
    simp [submit, hdown]
  · exact (workers_eq hroster).trans (workers_eq heases.roster)
  · rw [Closing.begun_append] at hb
    rcases List.mem_append.1 hb with hb | hb
    · exact hapart t ht hb
    · exact List.not_mem_nil (hbegun ▸ hb)
  · rw [stopped, if_pos hi]
    exact List.mem_map_of_mem ha
  · exact hf.waiting (hw.elim id hf.answered)
  · subst hi
    rfl
  · have hnone : f.pool.stopped interrupt = [] := by simp [stopped, hi]
    rw [hnone] at hf
    exact Closing.spares_running hlog' hapart hc hf hook ha
  · cases hd'.symm.trans (Closing.calls_proceed hook hd)
    rw [d.answer_proceed hook hnone hb, isIdle, List.isEmpty_iff]

/-- One worker and two tasks: the first runs and the second waits when the queue is taken. While the
call cancels the second, the first returns. -/
theorem shutdown_final_interrupted :
    let settings : PoolSettings := { name := "pool", workers := 1 }
    let p : Pool Unit := { settings, workers := [0], spawned := 1 }
    let none : Unit → Option TaskId := fun _ => none
    let before : List (Closing.Act Unit) :=
      [.event (.submit ()), .event (.submit ()), .raise, .event (.take 0)]
    let later : List (Closing.Act Unit) :=
      [.proceed none 0, .event (.finish 0), .event (.take 0), .proceed none 0, .proceed none 0]
    let h := ((Closing.run { pool := p } before).step (.drain true (.ofSeconds 1))).run later
    Pool.start settings = .ok p ∧ (Closing.run { pool := p } before).pool.queue = [1] ∧
      h.pool.queue = [] ∧ h.pool.isDone 1 ∧ h.pool.isTripped 1 ∧ h.pool.isRequested 0 ∧
      ((h.step (.proceed none 0)).calls.map (·.answer)) = [some true] ∧
      ∀ b, (h.pool.submit b).1 = Option.none := by
  intro settings p none before later h
  have hp : Pool.start settings = .ok p := rfl
  have hfinal := shutdown_final hp before later true (.ofSeconds 1)
  exact ⟨hp, by decide, hfinal.1, by decide, by decide, by decide, by decide, hfinal.2.1⟩

end Pool

end BatchTraversal
