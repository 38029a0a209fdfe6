import BatchTraversal.Proofs.Pool.Cancelling
import BatchTraversal.Proofs.Pool.Curbs

/-!
# Cancelling one task and no other

A task is open while it has neither ended nor been cancelled. The first request to cancel a task calls
its hook, and the hook trips whatever token it names. Where the hooks of the tasks that a call, a
monitor or a shutdown may cancel name no other open task (`Pool.Confined`), every token that such an
operation trips among the open tasks is that of a task whose cancellation it requested
(`Pool.Deliberate`), and the open tasks that remain have untripped tokens (`Pool.Clear`).
-/

namespace BatchTraversal

namespace Pool

variable {β : Type} {p q r : Pool β} {t u : TaskId} {hook : β → Option TaskId}

/-! ## Open tasks -/

/-- Whether a task has not ended and was not cancelled. -/
def Open (p : Pool β) (t : TaskId) : Prop := (t ∈ p.queue ∨ p.isExecuting t) ∧ ¬ p.isRequested t

/-- What is open after curbing was open before. -/
theorem Curbs.isOpen (h : p.Curbs q) (ht : q.Open t) : p.Open t :=
  ⟨ht.1.imp (fun hq => h.queue hq) h.isExecuting_iff.1, fun hr => ht.2 (h.requested t hr)⟩

/-- A submission opens the new task and no other. -/
theorem open_of_submit {b : β} (h : p.submit b = (some t, q)) (hne : u ≠ t) (hu : q.Open u) :
    p.Open u := by
  obtain ⟨-, -, hq, -, hexe, deadline, htasks⟩ := Pool.submit_eq_some h
  refine ⟨hu.1.imp (fun hmem => ?_) (Pool.isExecuting_congr hexe).1, fun hr => hu.2 ?_⟩
  · rw [hq, List.mem_append, List.mem_singleton] at hmem
    exact hmem.resolve_right hne
  · simp only [Pool.isRequested, htasks] at hr ⊢
    rw [Pool.any_append rfl]
    exact hr

/-- Whether the token of no open task is tripped. -/
def Clear (p : Pool β) : Prop := ∀ t, p.Open t → p.isTripped t = false

/-- What opens no task and trips no token leaves a pool clear. -/
theorem Clear.of_open (h : p.Clear) (ho : ∀ t, q.Open t → p.Open t)
    (ht : ∀ t, q.isTripped t = p.isTripped t) : q.Clear :=
  fun t hq => (ht t).trans (h t (ho t hq))

/-- A new task has an untripped token. -/
theorem Clear.submit (h : p.Clear) {b : β} (hs : p.submit b = (some t, q)) : q.Clear := by
  obtain ⟨rfl, -, -, -, -, deadline, htasks⟩ := submit_eq_some hs
  have htripped (u : TaskId) : q.isTripped u = p.isTripped u := by
    rw [isTripped, htasks]
    exact any_append rfl ..
  intro u hu
  rw [htripped]
  rcases eq_or_ne u p.tasks.length with rfl | hne
  · simp [isTripped]
  · exact h u (open_of_submit hs hne hu)

/-! ## Hooks that name no other open task -/

/-- Whether the hook of a task names no open task but that one, unless the task was cancelled before, so
that its hook is not called any more. -/
def Confined (hook : β → Option TaskId) (p : Pool β) (t : TaskId) : Prop :=
  ¬ p.isRequested t → ∀ u, (p.payload? t).bind hook = some u → p.Open u → u = t

/-- Whether the open tasks of `p` whose tokens are tripped in `q` were all requested. -/
def Deliberate (p q : Pool β) : Prop := ∀ t, p.Open t → q.isTripped t → q.isRequested t

/-- Whether `q` comes from `p` by deliberate cancelling alone, if the hooks of the queued and the running
tasks name no other open task. -/
def Careful (hook : β → Option TaskId) (p q : Pool β) : Prop :=
  p.Clear → (∀ t, t ∈ p.queue ∨ p.isRunning t → p.Confined hook t) → p.Deliberate q

/-- Where nothing open has a tripped token, nothing needs a request for it. -/
theorem Clear.deliberate (h : p.Clear) : p.Deliberate p := by
  intro t ho ht
  rw [h t ho] at ht
  cases ht

/-- A deliberate operation leaves a clear pool. -/
theorem Deliberate.clear (h : p.Deliberate q) (hc : p.Curbs q) : q.Clear := by
  intro t ho
  refine Bool.eq_false_iff.2 fun ht => ho.2 ?_
  exact h t (hc.isOpen ho) ht

/-- Whether cancelling was deliberate is a matter of tokens and requests. -/
theorem Deliberate.congr (h : p.Deliberate q) (ht : ∀ u, r.isTripped u = q.isTripped u)
    (hr : ∀ u, r.isRequested u = q.isRequested u) : p.Deliberate r := by
  intro u ho hu
  rw [hr]
  exact h u ho (ht u ▸ hu)

/-- What leaves the tasks trips no token. -/
theorem Deliberate.of_tasks (h : p.Deliberate q) (ht : r.tasks = q.tasks) : p.Deliberate r :=
  h.congr (fun _ => by rw [isTripped, ht]; rfl) fun _ => by rw [isRequested, ht]; rfl

/-- A task that is marked as done has its token as before. -/
theorem Deliberate.markDone (h : p.Deliberate q) (t : TaskId) : p.Deliberate (q.markDone t) :=
  h.congr (isTripped_markDone q t) (isRequested_markDone q t)

/-- One more request is deliberate if the hook of its task names no other open task. -/
theorem Deliberate.request (h : p.Deliberate q) (hk : p.Keeps q) (hc : p.Confined hook t) :
    p.Deliberate (q.request hook t).2 := by
  intro u ho hu
  have hown (hut : u = t) : (q.request hook t).2.isRequested u := by
    refine (isRequested_request_iff hook q t u).2 (.inr ⟨hut.symm, ?_⟩)
    by_contra hlt
    simp [isTripped, List.getElem?_eq_none (Nat.le_of_not_lt ((keeps_request hook q t).length ▸ hlt))]
      at hu
  by_cases hreq : q.isRequested t
  · -- the hook is not called again
    rcases request_cases hook q t with ⟨he, -⟩ | ⟨-, hnot, -⟩
    · rw [he] at hu ⊢
      exact h u ho hu
    · rw [hreq] at hnot
      cases hnot
  · rcases isTripped_of_request hook t hu with hq | hut | hhook
    · exact (keeps_request hook q t).requested u (h u ho hq)
    · exact hown hut
    · rw [hk.payload?] at hhook
      exact hown (hc (fun hp => hreq (hk.requested t hp)) u hhook ho)

/-- Requests for confined tasks trip the tokens of these tasks only. -/
theorem Deliberate.requestAll {ts : List TaskId} (h : p.Deliberate q) (hk : p.Keeps q)
    (hc : ∀ t ∈ ts, p.Confined hook t) : p.Deliberate (q.requestAll hook ts) := by
  induction ts generalizing q with
  | nil => exact h
  | cons t ts ih =>
    refine ih (h.request hk (hc t List.mem_cons_self)) (hk.trans (keeps_request hook q t)) ?_
    exact fun u hu => hc u (List.mem_cons_of_mem t hu)

/-- Dropping confined tasks trips the tokens of these tasks only. -/
theorem Deliberate.drop {ts : List TaskId} (h : p.Deliberate q) (hk : p.Keeps q)
    (hc : ∀ t ∈ ts, p.Confined hook t) : p.Deliberate (ts.foldl (drop hook) q) := by
  induction ts generalizing q with
  | nil => exact h
  | cons t ts ih =>
    refine ih ((h.request hk (hc t List.mem_cons_self)).markDone t) (hk.trans ?_) ?_
    · exact (eases_drop hook q t).toKeeps
    · exact fun u hu => hc u (List.mem_cons_of_mem t hu)

/-! ## The operations that cancel -/

/-- A cancel of a confined task trips the token of that task only. -/
theorem Clear.deliberate_cancel (h : p.Clear) (hc : p.Confined hook t) :
    p.Deliberate (p.cancel hook t) := by
  have hrequest := h.deliberate.request (.refl p) hc
  rw [cancel_eq]
  split
  · unfold record
    split
    · exact (hrequest.markDone t).of_tasks rfl
    · exact hrequest.of_tasks rfl
  · exact h.deliberate

/-- What leaves the tasks cancels none by mistake. -/
theorem careful_of_tasks (h : q.tasks = p.tasks) : p.Careful hook q :=
  fun hc _ => hc.deliberate.of_tasks h

/-- A worker that is replaced cancels nothing. -/
theorem careful_revive (p : Pool β) (w : WorkerId) : p.Careful hook (p.revive w) := by
  refine careful_of_tasks ?_
  unfold revive
  split <;> rfl

/-- The deadline monitor requests running tasks, whose hooks are confined. -/
theorem careful_scan (p : Pool β) : p.Careful hook (p.scan hook) := by
  intro hclear hconf
  cases hd : p.down with
  | true =>
    rw [scan, hd, if_pos rfl]
    exact hclear.deliberate
  | false =>
    obtain ⟨r, q, he, -, -, -, hk, -, hreq, htri, -⟩ := scan_eq hook p hd
    rw [he]
    refine (hclear.deliberate.congr htri hreq).requestAll hk fun t ht => hconf t (.inr ?_)
    exact isRunning_iff.2 (isRunning_of_mem_expiredTasks ht)

/-- A shutdown requests what was queued and what runs, and their hooks are confined. -/
theorem careful_shutDown (p : Pool β) (interrupt : Bool) :
    p.Careful hook (p.shutDown hook interrupt) := by
  intro hclear hconf
  have hdrain : p.Deliberate (p.drain interrupt) := by
    obtain ⟨running, hr, -⟩ := foldl_noteCancelled_eq (p.stopped interrupt)
      { p with down := true, queue := [] }
    rw [drain, hr]
    exact hclear.deliberate.of_tasks rfl
  have hkeeps := (eases_drain p interrupt).toKeeps
  rw [shutDown_eq]
  refine (hdrain.drop hkeeps fun t ht => hconf t (.inl ht)).requestAll (hkeeps.trans ?_) fun t ht => ?_
  · exact (Eases.foldl (eases_drop hook) _ _).toKeeps
  · refine hconf t (.inr (isRunning_iff.2 ?_))
    unfold stopped at ht
    split at ht
    · exact ht
    · cases ht

/-! ## What they request -/

/-- A cancel requests no task but its own. -/
theorem isRequested_of_cancel (h : (p.cancel hook t).isRequested u) : p.isRequested u ∨ u = t := by
  have hrequest (h : (p.request hook t).2.isRequested u) : p.isRequested u ∨ u = t :=
    ((isRequested_request_iff hook p t u).1 h).imp_right fun hu => hu.1.symm
  rw [cancel_eq] at h
  split at h
  · unfold record at h
    split at h
    · exact hrequest ((isRequested_markDone (p.request hook t).2 t u).symm.trans h)
    · exact hrequest h
  · exact .inl h

/-- A look of the deadline monitor requests the tasks past their deadline and no others. -/
theorem isRequested_of_scan (h : (p.scan hook).isRequested u) :
    p.isRequested u ∨ u ∈ p.expiredTasks := by
  cases hd : p.down with
  | true =>
    rw [scan, hd, if_pos rfl] at h
    exact .inl h
  | false =>
    obtain ⟨r, q, he, -, -, -, -, -, hreq, -⟩ := scan_eq hook p hd
    rw [he] at h
    by_cases hu : u ∈ p.expiredTasks
    · exact .inr hu
    · rw [← hreq]
      exact .inl (isRequested_of_requestAll hook hu h)

/-- Only tasks that are dropped get requested. -/
theorem isRequested_of_drop {ts : List TaskId} (h : (ts.foldl (drop hook) p).isRequested u) :
    p.isRequested u ∨ u ∈ ts := by
  induction ts generalizing p with
  | nil => exact .inl h
  | cons t ts ih =>
    rcases ih h with hdrop | hu
    · rw [drop, isRequested_markDone, isRequested_request_iff] at hdrop
      exact hdrop.imp_right fun hut => List.mem_cons.2 (.inl hut.1.symm)
    · exact .inr (List.mem_cons_of_mem t hu)

/-- A shutdown requests what was queued, the running tasks if it interrupts them, and no others. -/
theorem isRequested_of_shutDown {interrupt : Bool} (h : (p.shutDown hook interrupt).isRequested u) :
    p.isRequested u ∨ u ∈ p.queue ∨ u ∈ p.stopped interrupt := by
  rw [shutDown_eq] at h
  by_cases hu : u ∈ p.stopped interrupt
  · exact .inr (.inr hu)
  · rcases isRequested_of_drop (isRequested_of_requestAll hook hu h) with hdrain | hqueue
    · obtain ⟨running, hr, -⟩ := foldl_noteCancelled_eq (p.stopped interrupt)
        { p with down := true, queue := [] }
      rw [drain, hr] at hdrain
      exact .inl hdrain
    · exact .inr (.inl hqueue)

end Pool

end BatchTraversal
