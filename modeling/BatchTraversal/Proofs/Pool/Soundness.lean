import BatchTraversal.Proofs.Pool.Tasks
import Mathlib.Tactic.Common

/-!
# The invariant of a pool

`Pool.Sound` ties the lists of a pool to the flags of its tasks: a task is done exactly when it is
neither queued nor running; what is queued was not cancelled; and what is executed without occupying a
worker, because the worker was given up, was cancelled before. Every operation of a pool keeps it.
-/

namespace BatchTraversal

namespace Pool

variable {β : Type} {p q : Pool β} {t u : TaskId}

/-- What holds of a pool at every moment. -/
structure Sound (p : Pool β) : Prop where
  queue_lt : ∀ t ∈ p.queue, t < p.tasks.length
  queue_nodup : p.queue.Nodup
  executing_lt : ∀ t, p.isExecuting t → t < p.tasks.length
  apart : ∀ t ∈ p.queue, ¬ p.isExecuting t
  running_executing : ∀ t, p.isRunning t → p.isExecuting t
  done_iff : ∀ t < p.tasks.length, p.isDone t ↔ t ∉ p.queue ∧ ¬ p.isRunning t
  unrequested : ∀ t ∈ p.queue, ¬ p.isRequested t
  given_up : ∀ t, p.isExecuting t → ¬ p.isRunning t → p.isRequested t
  cancelled : ∀ a ∈ p.running, a.cancelledAt.isSome → p.isRequested a.task
  tripped : ∀ t, p.isRequested t → p.isTripped t

/-- A task runs if it is among the running ones. -/
theorem isRunning_iff : p.isRunning t ↔ t ∈ p.running.map (·.task) := by
  simp [isRunning]

/-- A task is executed if some worker executes it. -/
theorem isExecuting_iff : p.isExecuting t ↔ t ∈ p.executing.map (·.2) := by
  simp [isExecuting]

theorem isRunning_congr (h : q.running.map (·.task) = p.running.map (·.task)) :
    q.isRunning t ↔ p.isRunning t := by
  rw [isRunning_iff, isRunning_iff, h]

theorem isExecuting_congr (h : q.executing = p.executing) : q.isExecuting t ↔ p.isExecuting t := by
  rw [isExecuting_iff, isExecuting_iff, h]

/-- A running task is not queued. -/
theorem Sound.notMem_queue (h : p.Sound) (ht : p.isExecuting t) : t ∉ p.queue :=
  fun hq => h.apart t hq ht

/-- A pool starts with its workers and nothing else. -/
theorem start_eq_ok {settings : PoolSettings} (h : Pool.start settings = .ok p) :
    p = { settings, workers := List.range settings.workers, spawned := settings.workers } := by
  unfold start at h
  split at h
  · cases h
  · exact (Except.ok.inj h).symm

/-- A pool that was just made is sound. -/
theorem sound_start {settings : PoolSettings} (h : Pool.start settings = .ok p) : p.Sound := by
  obtain rfl := start_eq_ok h
  constructor <;> simp [isRunning, isExecuting, isRequested]

/-- A pool with the same lists, in which perhaps more tasks were cancelled, none of them queued. -/
theorem Sound.of_lists (h : p.Sound) (hl : q.tasks.length = p.tasks.length)
    (hq : q.queue = p.queue) (hr : q.running = p.running) (he : q.executing = p.executing)
    (hdon : ∀ u, q.isDone u = p.isDone u) (hreq : ∀ u, p.isRequested u → q.isRequested u)
    (hun : ∀ u ∈ p.queue, ¬ q.isRequested u) (htri : ∀ u, q.isRequested u → q.isTripped u) :
    q.Sound := by
  have hrun (u : TaskId) : q.isRunning u = p.isRunning u := by rw [isRunning, hr]; rfl
  have hexe (u : TaskId) : q.isExecuting u = p.isExecuting u := by rw [isExecuting, he]; rfl
  constructor
  · rw [hq, hl]; exact h.queue_lt
  · rw [hq]; exact h.queue_nodup
  · simp only [hexe, hl]; exact h.executing_lt
  · simp only [hq, hexe]; exact h.apart
  · simp only [hrun, hexe]; exact h.running_executing
  · simp only [hl, hdon, hq, hrun]; exact h.done_iff
  · rw [hq]; exact hun
  · simp only [hrun, hexe]; exact fun u hu hn => hreq u (h.given_up u hu hn)
  · rw [hr]; exact fun a ha hc => hreq a.task (h.cancelled a ha hc)
  · exact htri

/-- A pool with the same lists and the same flags of tasks is as sound. -/
theorem Sound.of_flags (h : p.Sound) (hl : q.tasks.length = p.tasks.length)
    (hq : q.queue = p.queue) (hr : q.running = p.running) (he : q.executing = p.executing)
    (hreq : ∀ u, q.isRequested u = p.isRequested u) (htri : ∀ u, q.isTripped u = p.isTripped u)
    (hdon : ∀ u, q.isDone u = p.isDone u) : q.Sound := by
  refine h.of_lists hl hq hr he hdon ?_ ?_ ?_ <;> simp only [hreq, htri]
  exacts [fun u hu => hu, h.unrequested, h.tripped]

/-- A pool with the same tasks, queue, running and executing tasks is as sound. -/
theorem Sound.congr (h : p.Sound) (ht : q.tasks = p.tasks) (hq : q.queue = p.queue)
    (hr : q.running = p.running) (he : q.executing = p.executing) : q.Sound :=
  h.of_flags (by rw [ht]) hq hr he (fun _ => by rw [isRequested, ht]; rfl)
    (fun _ => by rw [isTripped, ht]; rfl) (fun _ => by rw [isDone, ht]; rfl)

/-- The time does not matter to soundness. -/
theorem Sound.tick (h : p.Sound) (d : Duration) : (p.tick d).Sound := h.congr rfl rfl rfl rfl

/-- A worker that is replaced had no task, so no list changes. -/
theorem Sound.revive (h : p.Sound) (w : WorkerId) : (p.revive w).Sound := by
  unfold Pool.revive
  split
  · exact h
  · exact h.congr rfl rfl rfl rfl

/-- Changing the payload of a task keeps a pool sound. -/
theorem Sound.modifyPayload (h : p.Sound) (t : TaskId) (f : β → β) :
    (p.modifyTask t fun task => { task with payload := f task.payload }).Sound :=
  h.of_flags (length_modifyTask ..) rfl rfl rfl
    (fun u => any_modifyTask p t u (by intro task; rfl))
    (fun u => any_modifyTask p t u (by intro task; rfl))
    (fun u => any_modifyTask p t u (by intro task; rfl))

/-! ## The life of a task -/

/-- A submitted task is the last one known and waits at the end of the queue. -/
theorem submit_eq_some {b : β} (h : p.submit b = (some t, q)) :
    t = p.tasks.length ∧ p.down = false ∧ q.queue = p.queue ++ [t] ∧ q.running = p.running ∧
      q.executing = p.executing ∧ ∃ deadline, q.tasks = p.tasks ++ [{ payload := b, deadline }] := by
  unfold submit at h
  split at h
  · cases h
  · next hd =>
    cases h
    exact ⟨rfl, by simpa using hd, rfl, rfl, rfl, _, rfl⟩

/-- A submission is refused only by a pool that is shut down, and leaves it as it was. -/
theorem submit_eq_none {b : β} (h : p.submit b = (none, q)) : q = p ∧ p.down = true := by
  unfold submit at h
  split at h
  · next hd => cases h; exact ⟨rfl, hd⟩
  · cases h

/-- A property of all tasks that fails of a new one holds afterwards of those it held of before. -/
theorem any_append {g : Task β → Bool} {task : Task β} (hg : g task = false)
    (l : List (Task β)) (u : TaskId) : (l ++ [task])[u]?.any g = l[u]?.any g := by
  rcases Nat.lt_trichotomy u l.length with hlt | rfl | hgt
  · rw [List.getElem?_append_left hlt]
  · simp [hg]
  · rw [List.getElem?_eq_none (by simpa using Nat.succ_le_of_lt hgt),
      List.getElem?_eq_none (Nat.le_of_lt hgt)]

/-- A submitted task has its payload, and the others have theirs. -/
theorem payload?_submit {b : β} (h : p.submit b = (some t, q)) (u : TaskId) :
    q.payload? u = if u = t then some b else p.payload? u := by
  obtain ⟨rfl, -, -, -, -, deadline, ht⟩ := submit_eq_some h
  simp only [payload?, ht]
  rcases Nat.lt_trichotomy u p.tasks.length with hlt | rfl | hgt
  · rw [List.getElem?_append_left hlt, if_neg (Nat.ne_of_lt hlt)]
  · simp
  · rw [List.getElem?_eq_none (by simpa using Nat.succ_le_of_lt hgt), if_neg (Nat.ne_of_gt hgt),
      List.getElem?_eq_none (Nat.le_of_lt hgt)]

/-- A new task is queued, neither requested nor done. -/
theorem Sound.submit (h : p.Sound) {b : β} (hs : p.submit b = (some t, q)) : q.Sound := by
  obtain ⟨rfl, -, hq, hr, he, deadline, ht⟩ := submit_eq_some hs
  -- the flags of the tasks there were, and what runs, are as before
  have hrun (u : TaskId) : q.isRunning u = p.isRunning u := by simp only [isRunning, hr]
  have hexe (u : TaskId) : q.isExecuting u = p.isExecuting u := by simp only [isExecuting, he]
  have hreq (u : TaskId) : q.isRequested u = p.isRequested u := by
    simp only [isRequested, ht]; exact any_append rfl ..
  have htri (u : TaskId) : q.isTripped u = p.isTripped u := by
    simp only [isTripped, ht]; exact any_append rfl ..
  have hdon (u : TaskId) : q.isDone u = p.isDone u := by
    simp only [isDone, ht]; exact any_append rfl ..
  have hlen : q.tasks.length = p.tasks.length + 1 := by simp [ht]
  have hnew : ¬ p.isExecuting p.tasks.length := fun hx => Nat.lt_irrefl _ (h.executing_lt _ hx)
  constructor
  · intro u hu
    rw [hq] at hu
    rcases List.mem_append.1 hu with hu | hu
    · exact hlen ▸ Nat.lt_succ_of_lt (h.queue_lt u hu)
    · rw [List.mem_singleton.1 hu, hlen]; exact Nat.lt_succ_self _
  · rw [hq]
    refine List.nodup_append.2 ⟨h.queue_nodup, by simp, fun u hu v hv huv => ?_⟩
    rw [List.mem_singleton.1 hv] at huv
    exact Nat.lt_irrefl _ (huv ▸ h.queue_lt u hu)
  · intro u hu
    exact hlen ▸ Nat.lt_succ_of_lt (h.executing_lt u (hexe u ▸ hu))
  · intro u hu
    rw [hexe]
    rw [hq] at hu
    rcases List.mem_append.1 hu with hu | hu
    · exact h.apart u hu
    · rw [List.mem_singleton.1 hu]; exact hnew
  · intro u hu
    rw [hexe]
    exact h.running_executing u (hrun u ▸ hu)
  · intro u hu
    rw [hdon, hrun, hq, List.mem_append, List.mem_singleton, not_or]
    rcases Nat.lt_or_eq_of_le (Nat.le_of_lt_succ (hlen ▸ hu)) with hlt | rfl
    · rw [h.done_iff u hlt]
      exact ⟨fun hd => ⟨⟨hd.1, Nat.ne_of_lt hlt⟩, hd.2⟩, fun hd => ⟨hd.1.1, hd.2⟩⟩
    · simp [isDone]
  · intro u hu
    rw [hreq]
    rw [hq] at hu
    rcases List.mem_append.1 hu with hu | hu
    · exact h.unrequested u hu
    · rw [List.mem_singleton.1 hu]
      exact fun hx => Nat.lt_irrefl _ (lt_of_isRequested hx)
  · intro u hu hn
    rw [hreq]
    exact h.given_up u (hexe u ▸ hu) (hrun u ▸ hn)
  · intro a ha hc
    rw [hreq]
    exact h.cancelled a (hr ▸ ha) hc
  · intro u hu
    rw [htri]
    exact h.tripped u (hreq u ▸ hu)

/-- A worker that takes a task takes the first one of the queue. -/
theorem take?_eq_some {w : WorkerId} (h : p.take? w = some (t, q)) :
    ∃ rest, p.queue = t :: rest ∧
      q = { p with queue := rest, running := p.running ++ [{ task := t, worker := w }],
                   executing := p.executing ++ [(w, t)] } := by
  unfold take? at h
  split at h
  · cases h
  · next hq =>
    split at h
    · cases h; exact ⟨_, hq, rfl⟩
    · cases h

/-- The task that is taken leaves the queue and runs. -/
theorem Sound.take? (h : p.Sound) {w : WorkerId} (ht : p.take? w = some (t, q)) : q.Sound := by
  obtain ⟨rest, hq, rfl⟩ := take?_eq_some ht
  have hmem {u : TaskId} (hu : u ∈ rest) : u ∈ p.queue := hq ▸ List.mem_cons_of_mem t hu
  have htq : t ∈ p.queue := hq ▸ List.mem_cons_self
  have hnd : t ∉ rest ∧ rest.Nodup := List.nodup_cons.1 (hq ▸ h.queue_nodup)
  -- the task goes over from the queue to the running and the executed ones
  have hrun (u : TaskId) : isRunning { p with
      queue := rest, running := p.running ++ [{ task := t, worker := w }],
      executing := p.executing ++ [(w, t)] } u ↔ p.isRunning u ∨ u = t := by
    simp [isRunning_iff]
  have hexe (u : TaskId) : isExecuting { p with
      queue := rest, running := p.running ++ [{ task := t, worker := w }],
      executing := p.executing ++ [(w, t)] } u ↔ p.isExecuting u ∨ u = t := by
    simp [isExecuting_iff]
  constructor
  · exact fun u hu => h.queue_lt u (hmem hu)
  · exact hnd.2
  · intro u hu
    rcases (hexe u).1 hu with hu | rfl
    · exact h.executing_lt u hu
    · exact h.queue_lt u htq
  · intro u hu hx
    rcases (hexe u).1 hx with hx | rfl
    · exact h.apart u (hmem hu) hx
    · exact hnd.1 hu
  · intro u hu
    refine (hexe u).2 ?_
    rcases (hrun u).1 hu with hu | rfl
    · exact .inl (h.running_executing u hu)
    · exact .inr rfl
  · intro u hu
    rw [hrun, not_or]
    refine (h.done_iff u hu).trans ?_
    rw [hq, List.mem_cons, not_or]
    exact ⟨fun hd => ⟨hd.1.2, hd.2, hd.1.1⟩, fun hd => ⟨⟨hd.2.2, hd.1⟩, hd.2.1⟩⟩
  · exact fun u hu => h.unrequested u (hmem hu)
  · intro u hu hn
    rw [hrun, not_or] at hn
    exact h.given_up u (((hexe u).1 hu).resolve_right hn.2) hn.1
  · intro a ha hc
    rcases List.mem_append.1 ha with ha | ha
    · exact h.cancelled a ha hc
    · rw [List.mem_singleton.1 ha] at hc; cases hc
  · exact h.tripped

/-- A task that has ended does not run any more, and the others do. -/
theorem isRunning_finish : (p.finish t).isRunning u ↔ p.isRunning u ∧ u ≠ t := by
  simp only [isRunning, finish, List.any_eq_true, List.mem_filter, decide_eq_true_eq, beq_iff_eq]
  exact ⟨fun ⟨a, ⟨ha, hn⟩, e⟩ => ⟨⟨a, ha, e⟩, e ▸ hn⟩, fun ⟨⟨a, ha, e⟩, hn⟩ => ⟨a, ⟨ha, e ▸ hn⟩, e⟩⟩

/-- A task that has ended is not executed any more, and the others are. -/
theorem isExecuting_finish : (p.finish t).isExecuting u ↔ p.isExecuting u ∧ u ≠ t := by
  simp only [isExecuting, finish, List.any_eq_true, List.mem_filter, decide_eq_true_eq, beq_iff_eq]
  exact ⟨fun ⟨a, ⟨ha, hn⟩, e⟩ => ⟨⟨a, ha, e⟩, e ▸ hn⟩, fun ⟨⟨a, ha, e⟩, hn⟩ => ⟨a, ⟨ha, e ▸ hn⟩, e⟩⟩

/-- A task that is being executed ends. -/
theorem Sound.finish (h : p.Sound) (ht : p.isExecuting t) : (p.finish t).Sound := by
  have hreq (u : TaskId) : (p.finish t).isRequested u = p.isRequested u :=
    isRequested_markDone p t u
  have htri (u : TaskId) : (p.finish t).isTripped u = p.isTripped u := isTripped_markDone p t u
  have hdon (u : TaskId) : (p.finish t).isDone u ↔ p.isDone u ∨ t = u ∧ u < p.tasks.length :=
    isDone_markDone_iff p t u
  have hlen : (p.finish t).tasks.length = p.tasks.length := length_markDone p t
  have htq := h.notMem_queue ht
  constructor
  · exact fun u hu => hlen ▸ h.queue_lt u hu
  · exact h.queue_nodup
  · exact fun u hu => hlen ▸ h.executing_lt u (isExecuting_finish.1 hu).1
  · exact fun u hu hx => h.apart u hu (isExecuting_finish.1 hx).1
  · intro u hu
    obtain ⟨hu, hut⟩ := isRunning_finish.1 hu
    exact isExecuting_finish.2 ⟨h.running_executing u hu, hut⟩
  · intro u hu
    rw [hlen] at hu
    rw [hdon, h.done_iff u hu, isRunning_finish]
    show _ ↔ u ∉ p.queue ∧ _
    by_cases hut : t = u
    · subst hut; simp [htq, hu]
    · simp [hut, Ne.symm hut]
  · exact fun u hu => by rw [hreq]; exact h.unrequested u hu
  · intro u hu hn
    obtain ⟨hu, hut⟩ := isExecuting_finish.1 hu
    rw [isRunning_finish, not_and, not_not] at hn
    rw [hreq]
    exact h.given_up u hu fun hr => hut (hn hr)
  · intro a ha hc
    rw [hreq]
    exact h.cancelled a (List.mem_filter.1 ha).1 hc
  · exact fun u hu => by rw [htri]; exact h.tripped u (hreq u ▸ hu)

/-! ## Cancelling -/

/-- Cancelling a task does nothing if it was requested before or never accepted; else a queued task
leaves the queue and is done, and for any other one it is noted when it was cancelled. -/
theorem cancel_cases (hook : β → Option TaskId) (p : Pool β) (t : TaskId) :
    (p.cancel hook t = p ∧ (t < p.tasks.length → p.isRequested t)) ∨
    (t < p.tasks.length ∧ ¬ p.isRequested t ∧
      ((t ∈ p.queue ∧ p.cancel hook t =
          { (p.request hook t).2.markDone t with queue := p.queue.filter (· ≠ t) }) ∨
        (t ∉ p.queue ∧ p.cancel hook t = (p.request hook t).2.noteCancelled t))) := by
  have hq := queue_request hook p t
  rcases request_cases hook p t with ⟨he, hr⟩ | ⟨hlt, hr, he⟩
  · exact .inl ⟨by simp [cancel, he], hr⟩
  · have hfirst : (p.request hook t).1 = true := by
      rcases he with he | ⟨_, _, -, -, he⟩ <;> rw [he]
    refine .inr ⟨hlt, by simp [hr], ?_⟩
    by_cases htq : t ∈ p.queue
    · exact .inl ⟨htq, by simp [cancel, hfirst, htq]⟩
    · exact .inr ⟨htq, by simp [cancel, hfirst, htq]⟩

/-- A request for a task that is not queued keeps a pool sound. -/
theorem Sound.request (h : p.Sound) (hook : β → Option TaskId) (htq : t ∉ p.queue) :
    (p.request hook t).2.Sound := by
  refine h.of_lists (keeps_request hook p t).length (queue_request ..) (running_request ..)
    (executing_request ..) (isDone_request hook p t) (keeps_request hook p t).requested
    (fun u hu hx => ?_) (fun u hu => isTripped_request hook t h.tripped hu)
  rcases (isRequested_request_iff hook p t u).1 hx with hx | ⟨rfl, -⟩
  · exact h.unrequested u hu hx
  · exact htq hu

/-- A queued task that is cancelled leaves the queue and is done. -/
theorem Sound.unqueue (h : p.Sound) (hook : β → Option TaskId) (htq : t ∈ p.queue) :
    Sound { (p.request hook t).2.markDone t with queue := p.queue.filter (· ≠ t) } := by
  generalize hqq : { (p.request hook t).2.markDone t with queue := p.queue.filter (· ≠ t) } = q
  have hk := keeps_request hook p t
  have hmem {u : TaskId} : u ∈ p.queue.filter (· ≠ t) ↔ u ∈ p.queue ∧ u ≠ t := by simp
  have hreq (u : TaskId) : q.isRequested u ↔ p.isRequested u ∨ t = u ∧ u < p.tasks.length := by
    rw [← hqq, ← isRequested_request_iff hook p t u]
    exact iff_of_eq (congrArg (· = true) (isRequested_markDone (p.request hook t).2 t u))
  have hdon (u : TaskId) : q.isDone u ↔ p.isDone u ∨ t = u ∧ u < p.tasks.length := by
    rw [← hqq, ← isDone_request hook p t u, ← hk.length]
    exact isDone_markDone_iff (p.request hook t).2 t u
  have hrun (u : TaskId) : q.isRunning u ↔ p.isRunning u :=
    isRunning_congr (by rw [← hqq]; exact congrArg _ (running_request hook p t))
  have hexe (u : TaskId) : q.isExecuting u ↔ p.isExecuting u :=
    isExecuting_congr (by rw [← hqq]; exact executing_request hook p t)
  have hlen : q.tasks.length = p.tasks.length := by
    rw [← hqq]
    exact (length_markDone _ t).trans hk.length
  have hq : q.queue = p.queue.filter (· ≠ t) := by rw [← hqq]
  have hr : q.running = p.running := by
    rw [← hqq]
    exact running_request hook p t
  -- so it is neither queued nor running in the end, as a task that is done should be
  have htr : ¬ p.isRunning t := fun hr => h.apart t htq (h.running_executing t hr)
  constructor
  all_goals simp only [hq, hr, hlen, hrun, hexe, hreq, hdon, hmem]
  · exact fun u hu => h.queue_lt u hu.1
  · exact h.queue_nodup.filter _
  · exact h.executing_lt
  · exact fun u hu => h.apart u hu.1
  · exact h.running_executing
  · intro u hu
    rw [h.done_iff u hu]
    by_cases hut : t = u
    · subst hut
      simp [hu, htr]
    · simp [hut, Ne.symm hut]
  · rintro u ⟨hu, hut⟩ (hx | ⟨rfl, -⟩)
    · exact h.unrequested u hu hx
    · exact hut rfl
  · exact fun u hu hn => .inl (h.given_up u hu hn)
  · exact fun a ha hc => .inl (h.cancelled a ha hc)
  · intro u hu
    have hx := isTripped_request hook t h.tripped ((isRequested_request_iff hook p t u).2 hu)
    rw [← hqq]
    exact (isTripped_markDone (p.request hook t).2 t u).trans hx

/-- Noting when a task was cancelled keeps a pool sound if it was. -/
theorem Sound.noteCancelled (h : p.Sound) (ht : p.isRequested t) : (p.noteCancelled t).Sound := by
  obtain ⟨r, hr, hmap, hc⟩ := noteCancelled_eq p t
  rw [hr]
  have hrun (u : TaskId) : isRunning { p with running := r } u ↔ p.isRunning u :=
    isRunning_congr hmap
  refine ⟨h.queue_lt, h.queue_nodup, h.executing_lt, h.apart,
    fun u hu => h.running_executing u ((hrun u).1 hu), fun u hu => ?_, h.unrequested,
    fun u hu hn => h.given_up u hu fun hx => hn ((hrun u).2 hx), fun a ha hs => ?_, h.tripped⟩
  · rw [hrun]
    exact h.done_iff u hu
  · rcases hc a ha hs with e | ⟨b, hb, e, hbs⟩
    · exact e ▸ ht
    · exact e ▸ h.cancelled b hb hbs

/-- A cancelled task leaves the queue and is done, or goes on running. -/
theorem Sound.cancel (h : p.Sound) (hook : β → Option TaskId) (t : TaskId) :
    (p.cancel hook t).Sound := by
  rcases cancel_cases hook p t with ⟨he, -⟩ | ⟨hlt, -, ⟨htq, he⟩ | ⟨htq, he⟩⟩ <;> rw [he]
  · exact h
  · exact h.unqueue hook htq
  · exact (h.request hook htq).noteCancelled ((isRequested_request_iff hook p t t).2 (.inr ⟨rfl, hlt⟩))

/-! ## Monitors and shutdown -/

/-- A task whose worker is given up was cancelled before and is done. -/
theorem Sound.scan (h : p.Sound) (hook : β → Option TaskId) : (p.scan hook).Sound := by
  cases hd : p.down with
  | true =>
    rw [Pool.scan, hd, if_pos rfl]
    exact h
  | false =>
    obtain ⟨r, q, he, hq, hr, hx, hk, hdon, hreq, htri, hmap, hc⟩ := scan_eq hook p hd
    rw [he]
    have hstuck {u : TaskId} (hu : u ∈ p.stuckTasks) : p.isRunning u ∧ p.isRequested u := by
      obtain ⟨a, ha, rfl, hca⟩ := cancelled_of_mem_stuckTasks hu
      exact ⟨isRunning_iff.2 (List.mem_map_of_mem ha), h.cancelled a ha hca⟩
    have hexp {u : TaskId} (hu : u ∈ p.expiredTasks) : p.isRunning u :=
      isRunning_iff.2 (isRunning_of_mem_expiredTasks hu)
    -- the stuck tasks are not running any more, and are done
    have hrun (u : TaskId) :
        (q.requestAll hook p.expiredTasks).isRunning u ↔ p.isRunning u ∧ u ∉ p.stuckTasks := by
      rw [isRunning_iff, running_requestAll, hr, isRunning_iff, ← hmap, List.mem_map, List.mem_map]
      constructor
      · rintro ⟨a, ha, rfl⟩
        obtain ⟨ha, hn⟩ := List.mem_filter.1 ha
        exact ⟨⟨a, ha, rfl⟩, by simpa using hn⟩
      · rintro ⟨⟨a, ha, rfl⟩, hn⟩
        exact ⟨a, List.mem_filter.2 ⟨ha, by simpa using hn⟩, rfl⟩
    have hexe (u : TaskId) : (q.requestAll hook p.expiredTasks).isExecuting u ↔ p.isExecuting u :=
      isExecuting_congr (by rw [executing_requestAll, hx])
    have hmore (u : TaskId) (hu : p.isRequested u) :
        (q.requestAll hook p.expiredTasks).isRequested u :=
      (keeps_requestAll hook _ q).requested u (by rwa [hreq])
    have hlen : (q.requestAll hook p.expiredTasks).tasks.length = p.tasks.length :=
      (keeps_requestAll hook _ q).length.trans hk.length
    constructor
    case tripped =>
      refine fun u hu => isTripped_requestAll hook (fun v hv => ?_) hu
      rw [htri]
      exact h.tripped v (hreq v ▸ hv)
    all_goals
      simp only [queue_requestAll, running_requestAll, hq, hlen, isDone_requestAll, hrun, hexe, hdon]
    · exact h.queue_lt
    · exact h.queue_nodup
    · exact h.executing_lt
    · exact h.apart
    · exact fun u hu => h.running_executing u hu.1
    · intro u hu
      rw [h.done_iff u hu]
      constructor
      · rintro (hdone | ⟨hst, -⟩)
        · exact ⟨hdone.1, fun hrun => hdone.2 hrun.1⟩
        · exact ⟨h.notMem_queue (h.running_executing u (hstuck hst).1), fun hrun => hrun.2 hst⟩
      · rintro ⟨hnq, hnr⟩
        by_cases hst : u ∈ p.stuckTasks
        · exact .inr ⟨hst, hu⟩
        · exact .inl ⟨hnq, fun hrun => hnr ⟨hrun, hst⟩⟩
    · intro u hu hx
      have hne : u ∉ p.expiredTasks := fun he => h.apart u hu (h.running_executing u (hexp he))
      exact h.unrequested u hu (hreq u ▸ isRequested_of_requestAll hook hne hx)
    · intro u hu hn
      rw [not_and, not_not] at hn
      by_cases hrunning : p.isRunning u
      · exact hmore u (hstuck (hn hrunning)).2
      · exact hmore u (h.given_up u hu hrunning)
    · intro a ha hca
      rw [hr] at ha
      rcases hc a (List.mem_filter.1 ha).1 hca with hmem | ⟨b, hb, hba, hbc⟩
      · exact isRequested_requestAll hook hmem
          (hk.length ▸ h.executing_lt _ (h.running_executing _ (hexp hmem)))
      · exact hba ▸ hmore b.task (h.cancelled b hb hbc)

/-- What a shutdown takes from the queue it cancels and marks as done. -/
theorem Sound.shutDown (h : p.Sound) (hook : β → Option TaskId) (interrupt : Bool) :
    (p.shutDown hook interrupt).Sound := by
  unfold Pool.shutDown
  generalize hx : (if interrupt = true then p.running.map (·.task) else []) = cancelled
  have hcan {u : TaskId} (hu : u ∈ cancelled) : p.isRunning u := by
    rw [isRunning_iff]
    subst hx
    split at hu
    · exact hu
    · cases hu
  -- the three parts of a shutdown: the notes, the tasks that are dropped, the requests
  obtain ⟨r, hr, hmap, hc⟩ := foldl_noteCancelled_eq cancelled { p with down := true, queue := [] }
  have hdrop := foldl_drop_eq hook p.queue { p with down := true, queue := [], running := r }
  simp only [hr]
  generalize p.queue.foldl (fun p t => (Pool.request hook p t).2.markDone t)
    { p with down := true, queue := [], running := r } = p₁ at hdrop
  obtain ⟨hq₁, hr₁, he₁, hk₁, hd₁, ht₁⟩ := hdrop
  have hk := hk₁.trans (keeps_requestAll hook cancelled p₁)
  have hlen : (p₁.requestAll hook cancelled).tasks.length = p.tasks.length := hk.length
  have hq : (p₁.requestAll hook cancelled).queue = [] := (queue_requestAll ..).trans hq₁
  have hrun (u : TaskId) : (p₁.requestAll hook cancelled).isRunning u ↔ p.isRunning u :=
    isRunning_congr (by rw [running_requestAll, hr₁]; exact hmap)
  have hexe (u : TaskId) : (p₁.requestAll hook cancelled).isExecuting u ↔ p.isExecuting u :=
    isExecuting_congr (by rw [executing_requestAll, he₁])
  have hdon (u : TaskId) : (p₁.requestAll hook cancelled).isDone u ↔
      p.isDone u ∨ u ∈ p.queue ∧ u < p.tasks.length := by
    rw [isDone_requestAll]; exact hd₁ u
  have hreq (u : TaskId) (hu : p.isRequested u) : (p₁.requestAll hook cancelled).isRequested u :=
    hk.requested u hu
  constructor
  · rw [hq]; exact fun u hu => nomatch hu
  · rw [hq]; exact .nil
  · exact fun u hu => hlen ▸ h.executing_lt u ((hexe u).1 hu)
  · rw [hq]; exact fun u hu => nomatch hu
  · exact fun u hu => (hexe u).2 (h.running_executing u ((hrun u).1 hu))
  · intro u hu
    rw [hlen] at hu
    rw [hdon, hq, hrun, h.done_iff u hu]
    constructor
    · rintro (hd | ⟨hmem, -⟩)
      · exact ⟨List.not_mem_nil, hd.2⟩
      · exact ⟨List.not_mem_nil, fun hr => h.apart u hmem (h.running_executing u hr)⟩
    · rintro ⟨-, hnr⟩
      by_cases hmem : u ∈ p.queue
      · exact .inr ⟨hmem, hu⟩
      · exact .inl ⟨hmem, hnr⟩
  · rw [hq]; exact fun u hu => nomatch hu
  · exact fun u hu hn => hreq u (h.given_up u ((hexe u).1 hu) fun hr => hn ((hrun u).2 hr))
  · intro a ha hca
    rw [running_requestAll, hr₁] at ha
    rcases hc a ha hca with hmem | ⟨b, hb, hba, hbc⟩
    · exact isRequested_requestAll hook hmem
        (hk₁.length ▸ h.executing_lt _ (h.running_executing _ (hcan hmem)))
    · exact hba ▸ hreq b.task (h.cancelled b hb hbc)
  · exact fun u hu => isTripped_requestAll hook (ht₁ h.tripped) hu

end Pool

end BatchTraversal
