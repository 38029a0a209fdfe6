import BatchTraversal.Proofs.Pool.Runs

/-!
# The life of a task

From its submission on, a task is at every moment at exactly one stage: queued, running on a worker
that the pool counts on, still being executed by a worker that was given up, or ended. It begins at
most once, and never if it was taken off the queue by a cancel or a shutdown. Its handle reports that
it is done exactly when it is neither queued nor running, and reports so for ever after.
-/

namespace BatchTraversal

namespace Pool

variable {β : Type} {p : Pool β} {t : TaskId}

/-- Where a task is in its life. -/
inductive Stage
  | queued
  /-- It occupies a worker of the pool. -/
  | running (w : WorkerId)
  /-- It is still being executed, by a worker that was given up. -/
  | abandoned (w : WorkerId)
  /-- It is not executed and will never be. -/
  | ended
  deriving DecidableEq, Repr

/-- Whether a task is at a stage of its life. -/
def IsAt (p : Pool β) (t : TaskId) : Stage → Prop
  | .queued => t ∈ p.queue
  | .running w => w ∈ p.workers ∧ (w, t) ∈ p.posts
  | .abandoned w => w ∉ p.workers ∧ (w, t) ∈ p.executing
  | .ended => p.isDone t ∧ ¬ p.isExecuting t

instance (p : Pool β) (t : TaskId) : (s : Stage) → Decidable (p.IsAt t s)
  | .queued => inferInstanceAs (Decidable (_ ∈ _))
  | .running _ | .abandoned _ | .ended => inferInstanceAs (Decidable (_ ∧ _))

theorem isExecuting_of_mem {w : WorkerId} (h : (w, t) ∈ p.executing) : p.isExecuting t :=
  isExecuting_iff.2 (List.mem_map_of_mem h)

/-- Every accepted task is at some stage. -/
theorem exists_stage (hs : p.Sound) (hw : p.Staffed) (ht : t < p.tasks.length) :
    ∃ s, p.IsAt t s := by
  by_cases hq : t ∈ p.queue
  · exact ⟨.queued, hq⟩
  by_cases hx : p.isExecuting t
  · obtain ⟨⟨w, _⟩, hmem, rfl⟩ := List.mem_map.1 (isExecuting_iff.1 hx)
    by_cases hreg : w ∈ p.workers
    · exact ⟨.running w, hreg, hw.mem_posts_iff.2 ⟨hmem, hreg⟩⟩
    · exact ⟨.abandoned w, hreg, hmem⟩
  · exact ⟨.ended, (hs.done_iff t ht).2 ⟨hq, fun hr => hx (hs.running_executing t hr)⟩, hx⟩

/-- A task that is being executed by a worker is at the stage that this worker gives it, and at no
other. -/
theorem stage_of_executing (hs : p.Sound) (hw : p.Staffed) {w : WorkerId}
    (hx : (w, t) ∈ p.executing) {s : Stage} (h : p.IsAt t s) :
    s = if w ∈ p.workers then .running w else .abandoned w := by
  cases s with
  | queued => exact absurd (isExecuting_of_mem hx) (hs.apart t h)
  | running v =>
    obtain ⟨hv, hpost⟩ := h
    cases hw.worker_eq hx (hw.mem_posts_iff.1 hpost).1 rfl
    rw [if_pos hv]
  | abandoned v =>
    obtain ⟨hv, hmem⟩ := h
    cases hw.worker_eq hx hmem rfl
    rw [if_neg hv]
  | ended => exact absurd (isExecuting_of_mem hx) h.2

/-- No task is at two stages. -/
theorem stage_unique (hs : p.Sound) (hw : p.Staffed) {s s' : Stage} (h : p.IsAt t s)
    (h' : p.IsAt t s') : s = s' := by
  by_cases hx : p.isExecuting t
  · obtain ⟨⟨w, _⟩, hmem, rfl⟩ := List.mem_map.1 (isExecuting_iff.1 hx)
    rw [stage_of_executing hs hw hmem h, stage_of_executing hs hw hmem h']
  -- what is not executed is queued or ended, and what is done is not queued
  · have hidle {s : Stage} (h : p.IsAt t s) : s = .queued ∧ t ∈ p.queue ∨ s = .ended ∧ p.isDone t := by
      cases s with
      | queued => exact .inl ⟨rfl, h⟩
      | running w => exact absurd (isExecuting_of_mem (hw.mem_posts_iff.1 h.2).1) hx
      | abandoned w => exact absurd (isExecuting_of_mem h.2) hx
      | ended => exact .inr ⟨rfl, h.1⟩
    have hapart (hq : t ∈ p.queue) (hd : p.isDone t) : False :=
      ((hs.done_iff t (hs.queue_lt t hq)).1 hd).1 hq
    rcases hidle h with ⟨rfl, hq⟩ | ⟨rfl, hd⟩ <;> rcases hidle h' with ⟨rfl, hq'⟩ | ⟨rfl, hd'⟩
    · rfl
    · exact (hapart hq hd').elim
    · exact (hapart hq' hd).elim
    · rfl

/-- **The life of a task.** Once submitted, a task is always at exactly one stage; its run is invoked
at most once, and never if it was taken off the queue by a cancel or a shutdown; its handle is done
exactly when it is neither queued nor running, and stays so. -/
theorem life_cycle {settings : PoolSettings} (hp : Pool.start settings = .ok p)
    (before after : List (Event β)) {b : β} (ht : ((p.run before).submit b).1 = some t) :
    let es := before ++ .submit b :: after
    (∃! s, (p.run es).IsAt t s) ∧
      (p.begun es).count t ≤ 1 ∧ (t ∈ p.discarded es → t ∉ p.begun es) ∧
      ((p.run es).isDone t ↔ t ∉ (p.run es).queue ∧ ¬ (p.run es).isRunning t) ∧
      ∀ later, (p.run es).isDone t → (p.run (es ++ later)).isDone t := by
  intro es
  have hs := sound_start hp
  have hsound := hs.run es
  have hstaffed := (staffed_start hp).run hs es
  have hlt : t < (p.run es).tasks.length := by
    have hsub : (p.run before).submit b = (some t, (p.run before).step (.submit b)) :=
      Prod.ext ht rfl
    obtain ⟨rfl, -, -, -, -, _, htasks⟩ := submit_eq_some hsub
    have hnew : (p.run before).tasks.length < ((p.run before).step (.submit b)).tasks.length := by
      simp [htasks]
    rw [run_append, run_cons]
    exact Nat.lt_of_lt_of_le hnew (grows_run after _).length
  obtain ⟨s, h⟩ := exists_stage hsound hstaffed hlt
  refine ⟨⟨s, h, fun s' h' => stage_unique hsound hstaffed h' h⟩,
    List.nodup_iff_count_le_one.1 (hs.nodup_begun es) t, hs.notMem_begun_of_discarded,
    hsound.done_iff t hlt, fun later hd => ?_⟩
  rw [run_append]
  exact (grows_run later _).done t hd

/-- Two tasks on one worker: the first is cancelled, overstays its grace period and comes back late,
the second is cancelled while it waits. -/
theorem life_cycle_overstayed :
    let settings : PoolSettings := { name := "pool", workers := 1 }
    let p : Pool Unit := { settings, workers := [0], spawned := 1 }
    let late : List (Event Unit) := [.submit (), .take 0, .cancel (fun _ => none) 1,
      .cancel (fun _ => none) 0, .tick (.ofSeconds 6), .scan fun _ => none]
    Pool.start settings = .ok p ∧ (p.submit ()).1 = some 0 ∧
      (p.run (.submit () :: late)).IsAt 0 (.abandoned 0) ∧
      (p.run (.submit () :: (late ++ [.finish 0]))).IsAt 0 .ended ∧
      p.discarded (.submit () :: late) = [1] ∧
      ∃! s, (p.run ([] ++ .submit () :: late)).IsAt 0 s := by
  intro settings p late
  have hp : Pool.start settings = .ok p := rfl
  exact ⟨hp, rfl, by decide, by decide, by decide, (life_cycle hp [] late rfl).1⟩

end Pool

end BatchTraversal
