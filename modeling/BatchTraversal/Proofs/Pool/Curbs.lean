import BatchTraversal.Proofs.Pool.Soundness

/-!
# Operations that only curb a pool

Cancelling, the looks of the two monitors, a shutdown and the passing of time have in common that no
task begins or is forgotten by them: the same tasks are being executed afterwards, what is queued was
queued before, and nothing that was requested, tripped or done is taken back. `Pool.Curbs` says this
once for all of them.
-/

namespace BatchTraversal

namespace Pool

variable {β : Type} {p q : Pool β} {t u : TaskId}

/-- `q` is `p` with some tasks cancelled, dropped or given up, and nothing else done to them. -/
structure Curbs (p q : Pool β) : Prop extends p.Keeps q where
  executing : q.executing = p.executing
  queue : q.queue ⊆ p.queue
  sound : p.Sound → q.Sound

theorem Curbs.refl (p : Pool β) : p.Curbs p := ⟨.refl p, rfl, fun _ h => h, id⟩

/-- What is executed goes on being executed. -/
theorem Curbs.isExecuting_iff (h : p.Curbs q) : q.isExecuting t ↔ p.isExecuting t :=
  isExecuting_congr h.executing

/-- What an operation leaves of a task that it does not work on: it is not queued or begun by it, and
keeps its payload and a tripped token. -/
structure Spares (p : Pool β) (t : TaskId) (q : Pool β) : Prop where
  payload? : q.payload? t = p.payload? t
  executing : q.isExecuting t ↔ p.isExecuting t
  queue : t ∈ q.queue → t ∈ p.queue
  tripped : p.isTripped t → q.isTripped t

/-- A curbed pool spares every task what a worker would do to it. -/
theorem Curbs.spares (h : p.Curbs q) (t : TaskId) : p.Spares t q :=
  ⟨h.payload? t, h.isExecuting_iff, fun ht => h.queue ht, h.tripped t⟩

/-- A submission spares the tasks that were accepted before. -/
theorem spares_submit {b : β} (h : p.submit b = (some u, q)) (hne : t ≠ u) : p.Spares t q := by
  have hpay := payload?_submit h t
  rw [if_neg hne] at hpay
  obtain ⟨-, -, hq, -, hexe, deadline, ht⟩ := submit_eq_some h
  refine ⟨hpay, isExecuting_congr hexe, fun hmem => ?_, fun htr => ?_⟩
  · rw [hq, List.mem_append, List.mem_singleton] at hmem
    exact hmem.resolve_right hne
  · rw [isTripped, ht, any_append rfl]
    exact htr

/-- A worker that takes a task spares the others. -/
theorem spares_take? {w : WorkerId} (h : p.take? w = some (u, q)) (hne : t ≠ u) :
    p.Spares t q := by
  obtain ⟨rest, hq, rfl⟩ := take?_eq_some h
  refine ⟨rfl, ?_, fun ht => hq ▸ List.mem_cons_of_mem u ht, id⟩
  simp [isExecuting, Ne.symm hne]

/-- A task that ends spares the others. -/
theorem spares_finish (p : Pool β) (hne : t ≠ u) : p.Spares t (p.finish u) :=
  ⟨payload?_markDone p u t, isExecuting_finish.trans (and_iff_left hne), id,
    fun h => (isTripped_markDone p u t).trans h⟩

/-- A change of the payload of a task spares the others. -/
theorem spares_modifyPayload (p : Pool β) (f : β → β) (hne : t ≠ u) :
    p.Spares t (p.modifyTask u fun task => { task with payload := f task.payload }) := by
  refine ⟨?_, Iff.rfl, id, fun h => (any_modifyTask p u t (by intro task; rfl)).trans h⟩
  rw [Pool.payload?, getElem?_modifyTask, if_neg hne.symm]
  rfl

/-- Time passes without a task beginning. -/
theorem curbs_tick (p : Pool β) (d : Duration) : p.Curbs (p.tick d) :=
  ⟨.of_tasks rfl, rfl, fun _ h => h, fun h => h.tick d⟩

/-- A worker that is replaced begins nothing by that. -/
theorem curbs_revive (p : Pool β) (w : WorkerId) : p.Curbs (p.revive w) := by
  refine ⟨?_, ?_, ?_, fun h => h.revive w⟩ <;> unfold Pool.revive <;> split
  exacts [.refl p, .of_tasks rfl, rfl, rfl, fun _ h => h, fun _ h => h]

section
variable (hook : β → Option TaskId)

theorem keeps_noteCancelled (p : Pool β) (t : TaskId) : p.Keeps (p.noteCancelled t) := .of_tasks rfl

/-- A cancel takes its task from the queue, or notes it where it runs. -/
theorem curbs_cancel (p : Pool β) (t : TaskId) : p.Curbs (p.cancel hook t) := by
  have hk := keeps_request hook p t
  rcases cancel_cases hook p t with ⟨he, -⟩ | ⟨-, -, ⟨-, he⟩ | ⟨-, he⟩⟩
  · rw [he]; exact .refl p
  · refine ⟨?_, ?_, ?_, fun h => h.cancel hook t⟩ <;> rw [he]
    · exact (hk.trans (keeps_markDone _ t)).trans (.of_tasks rfl)
    · exact executing_request hook p t
    · exact fun u hu => (List.mem_filter.1 hu).1
  · refine ⟨?_, ?_, ?_, fun h => h.cancel hook t⟩ <;> rw [he]
    · exact hk.trans (keeps_noteCancelled _ t)
    · exact executing_request hook p t
    · exact fun u hu => queue_request hook p t ▸ hu

/-- A task that was accepted is requested once it was cancelled. -/
theorem isRequested_cancel (p : Pool β) (h : t < p.tasks.length) :
    (p.cancel hook t).isRequested t := by
  have hr := (isRequested_request_iff hook p t t).2 (.inr ⟨rfl, h⟩)
  rcases cancel_cases hook p t with ⟨he, hreq⟩ | ⟨-, -, ⟨-, he⟩ | ⟨-, he⟩⟩
  · rw [he]; exact hreq h
  · rw [he]
    exact (isRequested_markDone (p.request hook t).2 t t).trans hr
  · rw [he]; exact hr

/-- A look of the deadline monitor takes workers from tasks and no task from the queue. -/
theorem curbs_scan (p : Pool β) : p.Curbs (p.scan hook) := by
  cases hd : p.down with
  | true =>
    rw [Pool.scan, hd, if_pos rfl]
    exact .refl p
  | false =>
    obtain ⟨r, q, he, hq, -, hx, hk, -⟩ := scan_eq hook p hd
    refine ⟨?_, ?_, ?_, fun h => h.scan hook⟩ <;> rw [he]
    · exact hk.trans (keeps_requestAll hook _ q)
    · rw [executing_requestAll, hx]
    · rw [queue_requestAll, hq]
      exact fun _ h => h

/-- A shutdown empties the queue, and what is executed goes on. -/
theorem curbs_shutDown (p : Pool β) (interrupt : Bool) : p.Curbs (p.shutDown hook interrupt) := by
  refine ⟨?_, ?_, ?_, fun h => h.shutDown hook interrupt⟩ <;> unfold Pool.shutDown
  all_goals
    obtain ⟨r, hr, -, -⟩ := foldl_noteCancelled_eq
      (if interrupt = true then p.running.map (·.task) else []) { p with down := true, queue := [] }
    obtain ⟨hq, -, he, hk, -, -⟩ :=
      foldl_drop_eq hook p.queue { p with down := true, queue := [], running := r }
    simp only [hr]
  · have h₀ : p.Keeps { p with down := true, queue := [], running := r } := .of_tasks rfl
    exact (h₀.trans hk).trans (keeps_requestAll hook _ _)
  · exact (executing_requestAll hook _ _).trans he
  · rw [queue_requestAll, hq]
    exact fun _ h => nomatch h

end

end Pool

end BatchTraversal
