import BatchTraversal.Proofs.Pool.Ordered

/-!
# Deadlines along a run

What the deadline monitor does along a run of a pool with its threads, and who cancels what: the acts of a run tell
it (`Supervised.along`). A deadline comes from the submission of its task (`Supervised.Dated`), a task is picked for
cancelling once (`Supervised.Picked`), and a running task that is known to be cancelled was cancelled by somebody at
the time that is known (`Supervised.Accounted`).
-/

namespace BatchTraversal

namespace Pool

variable {β γ : Type} {p q : Pool β} {t u : TaskId} {n : Nat}

namespace Supervised

variable {f : Supervised β} {a : Act β}

/-! ## Deadlines -/

/-- What the deadline monitor goes by: the settings of the pool and the deadlines of all tasks. -/
def terms (p : Pool β) : PoolSettings × List (Option Nat) := (p.settings, p.tasks.map (·.deadline))

/-- Flags of tasks are no terms of theirs. -/
theorem terms_touches (h : p.Touches q) : terms q = terms p := by
  have hdeadlines := h.deadlines
  rw [terms, terms, hdeadlines, h.rest]

/-- A task that is done keeps its deadline. -/
theorem terms_markDone (p : Pool β) (t : TaskId) : terms (p.markDone t) = terms p :=
  terms_touches (touches_markDone p t)

/-- A look of the deadline monitor sets no deadline. -/
theorem terms_look (p : Pool β) : terms p.look = terms p := by
  rw [look, foldl_noteCancelled]
  refine List.foldlRecOn (motive := fun q => terms q = terms p) _ _ rfl fun q hq a _ => ?_
  exact (terms_markDone q a.task).trans hq

/-- The bookkeeping of a cancel sets no deadline. -/
theorem terms_record (p : Pool β) (t : TaskId) : terms (p.record t) = terms p := by
  unfold record
  split
  · exact terms_markDone p t
  · rfl

/-- A shutdown sets no deadline. -/
theorem terms_drain (p : Pool β) (interrupt : Bool) : terms (p.drain interrupt) = terms p := by
  rw [drain, foldl_noteCancelled]
  rfl

/-- A deadline is set when its task is submitted, and never changed. -/
theorem Moves.terms (h : f.Moves a q) : terms q = (f.pool.settings, f.pool.tasks.map (·.deadline) ++
    (f.submitted a).map fun x => f.pool.settings.lifetime.map (x.2 + ·.nanos)) := by
  have hsame (hterms : Supervised.terms q = Supervised.terms f.pool) (hnone : f.submitted a = []) :
      Supervised.terms q = (f.pool.settings, f.pool.tasks.map (·.deadline) ++
        (f.submitted a).map fun x => f.pool.settings.lifetime.map (x.2 + ·.nanos)) := by
    rw [hterms, hnone]
    simp [Supervised.terms]
  cases h with
  | idle hsubmitted => exact hsame rfl hsubmitted
  | submit hsubmitted => simp [Supervised.terms, hsubmitted]
  | tick | raise | replace => exact hsame rfl rfl
  | take ht =>
    obtain ⟨rest, -, rfl⟩ := take?_eq_some ht
    exact hsame rfl rfl
  | returns t => exact hsame (terms_markDone f.pool t) rfl
  | finish t => exact hsame (terms_markDone f.pool t) rfl
  | look => exact hsame (terms_look f.pool) rfl
  | drain interrupt => exact hsame (terms_drain f.pool interrupt) rfl
  | record => exact hsame (terms_record f.pool _) rfl
  | touch hi hr => exact hsame (terms_touches (Errand.touches_proceed _ f.pool hr)) rfl

/-- The tasks that are accepted are numbered from zero. -/
theorem map_submitted (f : Supervised β) (a : Act β) :
    (f.submitted a).map (·.1) = List.range' f.pool.tasks.length (f.submitted a).length := by
  cases a with
  | submit b read =>
    by_cases hread : read ≤ f.pool.now
    · rcases submitAt_cases f.pool read b with he | he <;> simp [submitted, hread, he]
    · simp [submitted, hread]
  | _ => rfl

/-- `log` tells when the tasks were submitted, and their deadlines go by that. -/
structure Dated (settings : PoolSettings) (log : List (TaskId × Nat)) (f : Supervised β) : Prop where
  kept : f.pool.settings = settings
  deadlines : f.pool.tasks.map (·.deadline) = log.map fun x => settings.lifetime.map (x.2 + ·.nanos)
  numbers : log.map (·.1) = List.range log.length

variable {settings : PoolSettings} {submissions : List (TaskId × Nat)}

/-- A submission gives its task the deadline, and no other act gives one. -/
theorem Dated.step (h : f.Dated settings submissions) (a : Act β) :
    (f.step a).Dated settings (submissions ++ f.submitted a) := by
  obtain ⟨hsettings, hdeadlines⟩ := Prod.ext_iff.1 (moves_step f a).terms
  have hlength : f.pool.tasks.length = submissions.length := by simpa using congrArg List.length h.deadlines
  refine ⟨hsettings.trans h.kept, hdeadlines.trans ?_, ?_⟩
  · rw [h.deadlines, h.kept, List.map_append]
  · have happend := List.range'_append_1 (s := 0) (m := submissions.length) (n := (f.submitted a).length)
    rw [List.map_append, h.numbers, map_submitted, hlength, List.length_append, List.range_eq_range',
      List.range_eq_range', ← happend, Nat.zero_add]

/-- The deadline of a task comes from its submission. -/
theorem Dated.exists_read (h : f.Dated settings submissions) {deadline : Nat}
    (ht : (f.pool.tasks[t]?.bind (·.deadline)) = some deadline) : ∃ read lifetime,
      (t, read) ∈ submissions ∧ settings.lifetime = some lifetime ∧ deadline = read + lifetime.nanos := by
  have hdeadline : (f.pool.tasks.map (·.deadline))[t]? = some (some deadline) := by
    obtain ⟨task, htask, hd⟩ := Option.bind_eq_some_iff.1 ht
    rw [List.getElem?_map, htask, Option.map_some, hd]
  rw [h.deadlines, List.getElem?_map] at hdeadline
  obtain ⟨⟨u, read⟩, hentry, hread⟩ := Option.map_eq_some_iff.1 hdeadline
  obtain ⟨lifetime, hlifetime, rfl⟩ := Option.map_eq_some_iff.1 hread
  obtain ⟨hlt, -⟩ := List.getElem?_eq_some_iff.1 hentry
  have hnumber : (submissions.map (·.1))[t]? = some u := by rw [List.getElem?_map, hentry, Option.map_some]
  rw [h.numbers, List.getElem?_range hlt] at hnumber
  cases hnumber
  exact ⟨read, lifetime, List.mem_of_getElem? hentry, hlifetime, rfl⟩

/-! ## What an act does to the running tasks -/

/-- A running task is stamped when it is cancelled, a queued one is not. -/
theorem running_record (p : Pool β) (t : TaskId) :
    (p.record t).running = p.running.map (·.stamped (if t ∈ p.queue then [] else [t]) p.now) := by
  unfold record
  simp only [List.contains_iff_mem]
  split
  · next hq =>
    simp
    rfl
  · next hq =>
    show ([t].foldl noteCancelled p).running = _
    rw [foldl_noteCancelled]

/-- After an act a task runs that ran before, perhaps with a note that it is cancelled, or has just begun. -/
theorem Moves.running (h : f.Moves a q) : ∃ new : List Assignment,
    new.map (·.task) = f.begun a ∧ (∀ b ∈ new, b.cancelledAt = none) ∧
      q.running.Sublist (f.pool.running.map (·.stamped ((f.cancelled a).map (·.1)) f.pool.now) ++ new) := by
  -- what cancels nothing and begins nothing leaves some of the running tasks
  have hleft (hsub : q.running.Sublist f.pool.running) (hb : f.begun a = []) (hc : f.cancelled a = []) :
      ∃ new : List Assignment, new.map (·.task) = f.begun a ∧ (∀ b ∈ new, b.cancelledAt = none) ∧
        q.running.Sublist (f.pool.running.map (·.stamped ((f.cancelled a).map (·.1)) f.pool.now) ++ new) :=
    ⟨[], by simp [hb], by simp, by simpa [hc] using hsub⟩
  cases h with
  | idle _ hbegun hcancelled => exact hleft (.refl _) hbegun hcancelled
  | tick | submit | returns | replace | raise => exact hleft (.refl _) rfl rfl
  | finish t => exact hleft List.filter_sublist rfl rfl
  | @take w t _ ht =>
    have hbegun : f.begun (.take w) = [t] := by simp [begun, begun?, ht]
    obtain ⟨rest, -, rfl⟩ := take?_eq_some ht
    exact ⟨[{ task := t, worker := w }], by simp [hbegun], by simp, by simp [cancelled]⟩
  | look hw =>
    refine ⟨[], rfl, by simp, ?_⟩
    simp only [cancelled, picked, if_pos hw, Pool.look, running_foldl_abandon, foldl_noteCancelled,
      List.map_map, Function.comp_def, List.map_id', List.append_nil]
    exact List.filter_sublist
  | drain interrupt =>
    refine ⟨[], rfl, by simp, ?_⟩
    simp only [cancelled, Pool.drain, foldl_noteCancelled, List.map_map, Function.comp_def, List.map_id',
      List.append_nil]
    exact .refl _
  | @record hook i e rest hi hr =>
    refine ⟨[], rfl, by simp, ?_⟩
    simp only [running_record, cancelled, errand?_of_threads hi]
    by_cases hq : e.task ∈ f.pool.queue <;> simp [hr, hq, Option.filter]
  | touch hi hr =>
    refine hleft ?_ rfl (by simp [cancelled, errand?_of_threads hi, hr, Option.filter])
    rw [(Errand.touches_proceed _ f.pool hr).rest]

/-- A task that runs after an act has run before it, perhaps without the stamp that the act gave, or has just
begun. -/
theorem mem_running_step (f : Supervised β) (a : Act β) {b : Assignment} (hb : b ∈ (f.step a).pool.running) :
    (∃ c ∈ f.pool.running, b = c.stamped ((f.cancelled a).map (·.1)) f.pool.now) ∨
      b.task ∈ f.begun a ∧ b.cancelledAt = none := by
  obtain ⟨new, hnew, hnone, hsub⟩ := (moves_step f a).running
  rcases List.mem_append.1 (hsub.subset hb) with hb | hb
  · obtain ⟨c, hc, rfl⟩ := List.mem_map.1 hb
    exact .inl ⟨c, hc, rfl⟩
  · exact .inr ⟨hnew ▸ List.mem_map_of_mem hb, hnone b hb⟩

/-- What begins was queued. -/
theorem mem_queue_of_begun {a : Act β} (h : t ∈ f.begun a) : t ∈ f.pool.queue := by
  cases a with
  | take w =>
    obtain ⟨⟨u, q⟩, hu, rfl⟩ := Option.map_eq_some_iff.1 (Option.mem_toList.1 h)
    obtain ⟨rest, hq, -⟩ := take?_eq_some hu
    exact hq ▸ List.mem_cons_self
  | _ => cases h

/-! ## What the deadline monitor picks -/

/-- Only a look of the deadline monitor picks tasks, and it picks running ones that are past their deadline. -/
theorem mem_picked {a : Act β} (h : t ∈ f.picked a) :
    f.IsWatching ∧ ∃ b ∈ f.pool.running, b.task = t ∧ f.pool.isExpired b := by
  cases a with
  | look =>
    simp only [picked] at h
    split at h
    · next hw =>
      obtain ⟨b, hb, rfl⟩ := List.mem_map.1 h
      obtain ⟨hb, hexpired⟩ := List.mem_filter.1 hb
      exact ⟨hw, b, hb, rfl, hexpired⟩
    · cases h
  | _ => cases h

/-- What is picked is noted to be cancelled. -/
theorem mem_cancelled_of_picked {a : Act β} (h : t ∈ f.picked a) : t ∈ (f.cancelled a).map (·.1) := by
  cases a with
  | look => simpa [cancelled] using h
  | _ => cases h

/-- A look picks no task twice. -/
theorem nodup_picked (h : Ordered n f.pool) (a : Act β) : (f.picked a).Nodup := by
  cases a with
  | look =>
    simp only [picked]
    split
    · exact h.nodup_running.sublist (List.filter_sublist.map _)
    · exact List.nodup_nil
  | _ => exact List.nodup_nil

/-- A task that is past its deadline and not cancelled has a deadline. -/
theorem isExpired_iff {a : Assignment} : p.isExpired a ↔
    a.cancelledAt = none ∧ ∃ deadline, (p.tasks[a.task]?.bind (·.deadline)) = some deadline ∧ deadline ≤ p.now := by
  simp [isExpired, Option.any_eq_true]

/-- `log` is what was picked so far: no task twice, and whatever of it is still running is known to be cancelled. -/
structure Picked (log : List TaskId) (f : Supervised β) : Prop where
  nodup : log.Nodup
  lt : ∀ t ∈ log, t < f.pool.tasks.length
  gone : ∀ t ∈ log, t ∉ f.pool.queue
  marked : ∀ b ∈ f.pool.running, b.task ∈ log → b.cancelledAt.isSome

/-- A task that was picked is known to be cancelled, so it is not picked again. -/
theorem Picked.step {log : List TaskId} (h : f.Picked log) (ho : Ordered n f.pool) (a : Act β) :
    (f.step a).Picked (log ++ f.picked a) := by
  have hexecuting {t : TaskId} (ht : t ∈ f.picked a) : t < f.pool.tasks.length ∧ t ∉ f.pool.queue := by
    obtain ⟨-, b, hb, rfl, -⟩ := mem_picked ht
    exact ⟨ho.known _ (ho.isExecuting_of_mem hb), ho.notMem_queue hb⟩
  have hboth {t : TaskId} (ht : t ∈ log ++ f.picked a) : t < f.pool.tasks.length ∧ t ∉ f.pool.queue :=
    (List.mem_append.1 ht).elim (fun ht => ⟨h.lt t ht, h.gone t ht⟩) hexecuting
  refine ⟨List.nodup_append.2 ⟨h.nodup, nodup_picked ho a, fun t ht u hu htu => ?_⟩, fun t ht => ?_,
    fun t ht hq => ?_, fun b hb ht => ?_⟩
  · subst htu
    obtain ⟨-, b, hb, rfl, hexpired⟩ := mem_picked hu
    have hsome := h.marked b hb ht
    rw [(isExpired_iff.1 hexpired).1] at hsome
    cases hsome
  · exact Nat.lt_of_lt_of_le (hboth ht).1 (moves_step f a).grows.length
  · rcases (moves_step f a).mem_queue hq with hq | rfl
    · exact (hboth ht).2 hq
    · exact Nat.lt_irrefl _ (hboth ht).1
  · rcases mem_running_step f a hb with ⟨c, hc, rfl⟩ | ⟨hbegun, -⟩
    · rw [Assignment.task_stamped] at ht
      rcases List.mem_append.1 ht with ht | ht
      · rw [Assignment.stamped_of_isSome (h.marked c hc ht)]
        exact h.marked c hc ht
      · rw [Assignment.stamped_of_mem (mem_cancelled_of_picked ht)]
        cases c.cancelledAt <;> rfl
    · exact absurd (mem_queue_of_begun hbegun) (hboth ht).2

/-! ## Who has cancelled what -/

/-- `log` tells by whom and when the tasks were cancelled that run and are known to be cancelled. -/
def Accounted (log : List (TaskId × Canceller × Nat)) (f : Supervised β) : Prop :=
  ∀ b ∈ f.pool.running, ∀ at', b.cancelledAt = some at' → ∃ who, (b.task, who, at') ∈ log

/-- A task is cancelled at the time of the pool. -/
theorem time_cancelled {a : Act β} {who : Canceller} {at' : Nat} (h : (t, who, at') ∈ f.cancelled a) :
    at' = f.pool.now := by
  cases a with
  | look | drain =>
    obtain ⟨u, -, he⟩ := List.mem_map.1 h
    cases he
    rfl
  | proceed hook i =>
    obtain ⟨e, -, he⟩ := List.mem_map.1 h
    cases he
    rfl
  | _ => cases h

/-- A stamp that is new is that of the act that gave it, and of the time at which it did. -/
theorem Accounted.step {log : List (TaskId × Canceller × Nat)} (h : f.Accounted log) (a : Act β) :
    (f.step a).Accounted (log ++ f.cancelled a) := by
  intro b hb at' hat
  rcases mem_running_step f a hb with ⟨c, hc, rfl⟩ | ⟨-, hnone⟩
  · rw [Assignment.task_stamped]
    cases hold : c.cancelledAt with
    | some old =>
      rw [Assignment.stamped_of_isSome (by simp [hold])] at hat
      obtain ⟨who, hmem⟩ := h c hc at' hat
      exact ⟨who, List.mem_append_left _ hmem⟩
    | none =>
      by_cases hmem : c.task ∈ (f.cancelled a).map (·.1)
      · obtain ⟨⟨t, who, time⟩, hentry, rfl⟩ := List.mem_map.1 hmem
        rw [Assignment.stamped_of_mem hmem, hold] at hat
        cases hat
        have htime := time_cancelled hentry
        exact ⟨who, List.mem_append_right _ (htime ▸ hentry)⟩
      · rw [Assignment.stamped_of_notMem hmem, hold] at hat
        cases hat
  · rw [hnone] at hat
    cases hat

end Supervised

end Pool

end BatchTraversal
