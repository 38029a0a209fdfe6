import BatchTraversal.Proofs.Pool.Errands

/-!
# What an act does to a pool with its threads

Every act of `Supervised.Act` does one of a few things to the pool (`Supervised.Moves`), and tells what has happened:
which task was submitted, began, was picked, is known to be cancelled, or has its hook called. Along a run that makes
a log (`Supervised.along`).
-/

namespace BatchTraversal

/-- An assignment once it is noted that the tasks `ts` are cancelled. -/
def Assignment.stamped (a : Assignment) (ts : List TaskId) (now : Nat) : Assignment :=
  if a.task ∈ ts then { a with cancelledAt := a.cancelledAt.or (some now) } else a

namespace Assignment

variable {a : Assignment} {ts : List TaskId} {t : TaskId} {now : Nat}

@[simp] theorem stamped_nil : a.stamped [] now = a := rfl

/-- A stamp does not change what is executed. -/
@[simp] theorem task_stamped : (a.stamped ts now).task = a.task := by
  unfold stamped
  split <;> rfl

/-- A task among those that were cancelled gets the time, unless it has one. -/
theorem stamped_of_mem (h : a.task ∈ ts) :
    a.stamped ts now = { a with cancelledAt := a.cancelledAt.or (some now) } := if_pos h

/-- A task that is not among those cancelled gets no time. -/
theorem stamped_of_notMem (h : a.task ∉ ts) : a.stamped ts now = a := if_neg h

/-- When a task was cancelled is noted only once. -/
theorem stamped_of_isSome (h : a.cancelledAt.isSome) : a.stamped ts now = a := by
  unfold stamped
  split
  · rw [Option.or_of_isSome h]
  · rfl

/-- Stamping one task and then others is stamping all of them. -/
theorem stamped_stamped : (a.stamped [t] now).stamped ts now = a.stamped (t :: ts) now := by
  by_cases h : a.task = t
  · subst h
    rw [stamped_of_isSome (a := a.stamped [a.task] now), stamped_of_mem, stamped_of_mem]
    · simp
    · simp
    · rw [stamped_of_mem (by simp)]
      cases a.cancelledAt <;> rfl
  · have hother : a.task ∉ [t] := by simpa using h
    rw [stamped_of_notMem hother]
    simp [stamped, h]

/-- A task without a stamp had none before and was not among those cancelled. -/
theorem isNone_stamped : (a.stamped ts now).cancelledAt.isNone = (a.cancelledAt.isNone && a.task ∉ ts) := by
  by_cases h : a.task ∈ ts
  · rw [stamped_of_mem h]
    cases a.cancelledAt <;> simp [h]
  · rw [stamped_of_notMem h]
    simp [h]

end Assignment

namespace Pool

variable {β γ : Type} {p q r : Pool β} {t u : TaskId}

/-- Noting when some tasks were cancelled. -/
theorem foldl_noteCancelled (ts : List TaskId) (p : Pool β) :
    ts.foldl noteCancelled p = { p with running := p.running.map (·.stamped ts p.now) } := by
  induction ts generalizing p with
  | nil => simp
  | cons t ts ih =>
    have hone : p.noteCancelled t = { p with running := p.running.map (·.stamped [t] p.now) } := by
      simp [noteCancelled, Assignment.stamped]
    rw [List.foldl_cons, ih, hone]
    simp [Function.comp_def, Assignment.stamped_stamped]

/-! ## Flags of tasks -/

/-- Flags of tasks are all that is different, and those that were set are set. -/
structure Touches (p q : Pool β) : Prop extends p.Keeps q where
  rest : q = { p with tasks := q.tasks }
  deadlines : q.tasks.map (·.deadline) = p.tasks.map (·.deadline)

theorem Touches.refl (p : Pool β) : p.Touches p := ⟨.refl p, rfl, rfl⟩

/-- Flags that are changed twice are changed. -/
theorem Touches.trans (h : p.Touches q) (h' : q.Touches r) : p.Touches r :=
  ⟨h.toKeeps.trans h'.toKeeps, by rw [h'.rest, h.rest], h'.deadlines.trans h.deadlines⟩

/-- A change of one task touches a pool if it leaves payload and deadline and takes back no flag. -/
theorem touches_modifyTask {f : Task β → Task β} (p : Pool β) (t : TaskId)
    (hpayload : ∀ task, (f task).payload = task.payload)
    (hdeadline : ∀ task, (f task).deadline = task.deadline)
    (hrequested : ∀ task, task.requested → (f task).requested)
    (htripped : ∀ task, task.tripped → (f task).tripped)
    (hdone : ∀ task, task.done → (f task).done) : p.Touches (p.modifyTask t f) := by
  have hflag {g : Task β → Bool} (hg : ∀ task, g task → g (f task)) (u : TaskId)
      (h : p.tasks[u]?.any g) : (p.modifyTask t f).tasks[u]?.any g := by
    rw [getElem?_modifyTask]
    split
    · cases hu : p.tasks[u]? with
      | none => simp [hu] at h
      | some task => exact hg task (by simpa [hu] using h)
    · exact h
  refine ⟨⟨length_modifyTask .., fun u => payload?_modifyTask p t u hpayload, hflag hrequested,
    hflag htripped, hflag hdone⟩, rfl, List.ext_getElem? fun u => ?_⟩
  rw [List.getElem?_map, List.getElem?_map, getElem?_modifyTask]
  split
  · cases p.tasks[u]? <;> simp [hdeadline]
  · rfl

/-- A request is noted by a flag. -/
theorem touches_ask (p : Pool β) (t : TaskId) : p.Touches (p.ask t) :=
  touches_modifyTask p t (fun _ => rfl) (fun _ => rfl) (fun _ _ => rfl) (fun _ => id) fun _ => id

/-- A token is tripped by a flag. -/
theorem touches_trip (p : Pool β) (t : TaskId) : p.Touches (p.trip t) :=
  touches_modifyTask p t (fun _ => rfl) (fun _ => rfl) (fun _ => id) (fun _ _ => rfl) fun _ => id

/-- A task is done by a flag. -/
theorem touches_markDone (p : Pool β) (t : TaskId) : p.Touches (p.markDone t) :=
  touches_modifyTask p t (fun _ => rfl) (fun _ => rfl) (fun _ => id) (fun _ => id) fun _ _ => rfl

/-- A hook trips the token of a task or does nothing. -/
theorem touches_callHook (hook : β → Option TaskId) (p : Pool β) (t : TaskId) :
    p.Touches (p.callHook hook t) := by
  have hcalled : p.Touches (p.modifyTask t fun task => { task with hooks := task.hooks + 1 }) :=
    touches_modifyTask p t (fun _ => rfl) (fun _ => rfl) (fun _ => id) (fun _ => id) fun _ => id
  unfold callHook
  cases (p.payload? t).bind hook with
  | none => exact hcalled
  | some u => exact hcalled.trans (touches_trip _ u)

/-- Whether the next step of an errand records that its task is cancelled. -/
def Errand.Records (e : Errand) : Prop := e.sequel = .record ∧ e.progress = .requested true

instance (e : Errand) : Decidable e.Records := inferInstanceAs (Decidable (_ ∧ _))

/-- An errand that has come to its bookkeeping ends with it. -/
theorem Errand.proceed_of_records (hook : β → Option TaskId) (p : Pool β) {e : Errand} (h : e.Records) :
    e.proceed hook p = (p.record e.task, none) := by
  unfold proceed
  rw [h.2, h.1]
  rfl

/-- Every other step of an errand changes flags at most. -/
theorem Errand.touches_proceed (hook : β → Option TaskId) (p : Pool β) {e : Errand} (h : ¬ e.Records) :
    p.Touches (e.proceed hook p).1 := by
  unfold proceed
  cases hprogress : e.progress with
  | due =>
    dsimp only
    split
    · exact touches_ask p e.task
    · exact .refl p
  | asked => exact touches_trip p e.task
  | tripped => exact touches_callHook hook p e.task
  | requested first =>
    cases hsequel : e.sequel with
    | nothing => exact .refl p
    | markDone => exact touches_markDone p e.task
    | record =>
      cases first with
      | false => exact .refl p
      | true => exact absurd ⟨hsequel, hprogress⟩ h

/-- No step of an errand forgets a task. -/
theorem Errand.grows_proceed (hook : β → Option TaskId) (p : Pool β) (e : Errand) :
    p.Grows (e.proceed hook p).1 := by
  by_cases hr : e.Records
  · rw [e.proceed_of_records hook p hr]
    exact (eases_record p e.task).toKeeps.grows
  · exact (e.touches_proceed hook p hr).toKeeps.grows

namespace Supervised

variable {f : Supervised β} {i : Nat} {e : Errand} {rest : List Errand}

/-! ## What an act tells -/

/-- What `g` tells of every act of a run, in order. -/
def along (g : Supervised β → Act β → List γ) (f : Supervised β) : List (Act β) → List γ
  | [] => []
  | a :: as => g f a ++ (f.step a).along g as

/-- The task that is accepted, with the reading of the clock that its deadline goes by. -/
def submitted (f : Supervised β) : Act β → List (TaskId × Nat)
  | .submit b read =>
    if read ≤ f.pool.now then (f.pool.submitAt read b).1.toList.map fun t => (t, read) else []
  | _ => []

/-- The task whose run is invoked. -/
def begun (f : Supervised β) : Act β → List TaskId
  | .take w => (f.pool.begun? (.take w)).toList
  | _ => []

/-- The tasks that the deadline monitor picks for cancelling. -/
def picked (f : Supervised β) : Act β → List TaskId
  | .look => if f.IsWatching then f.pool.expiredTasks else []
  | _ => []

/-- The tasks whose workers are given up. -/
def abandoned (f : Supervised β) : Act β → List Assignment
  | .look => if f.IsWatching then f.pool.running.filter f.pool.isStuck else []
  | _ => []

/-- Who cancels a task. -/
inductive Canceller
  | handle
  | monitor
  | shutDown
  deriving DecidableEq, Repr

/-- The tasks that are cancelled as far as the pool goes: by whom, and at which time. -/
def cancelled (f : Supervised β) : Act β → List (TaskId × Canceller × Nat)
  | .look => (f.picked .look).map fun t => (t, .monitor, f.pool.now)
  | .drain interrupt => (f.pool.stopped interrupt).map fun t => (t, .shutDown, f.pool.now)
  | .proceed _ i => ((f.errand? i).filter fun e => e.Records ∧ e.task ∉ f.pool.queue).toList.map
      fun e => (e.task, .handle, f.pool.now)
  | _ => []

/-- The task whose cancel hook is called. -/
def called (f : Supervised β) : Act β → List TaskId
  | .proceed _ i => ((f.errand? i).filter (·.progress = .tripped)).toList.map (·.task)
  | _ => []

/-! ## What an act does -/

/-- What the acts do to the pool: nothing, or one thing. -/
inductive Moves (f : Supervised β) : Act β → Pool β → Prop
  /-- Nothing is done, and there is nothing to tell. -/
  | idle {a : Act β} (hsubmitted : f.submitted a = []) (hbegun : f.begun a = [])
      (hcancelled : f.cancelled a = []) : Moves f a f.pool
  | tick (d : Duration) : Moves f (.tick d) (f.pool.tick d)
  | submit {b : β} {read : Nat} (hsubmitted : f.submitted (.submit b read) = [(f.pool.tasks.length, read)]) :
      Moves f (.submit b read) { f.pool with
        tasks := f.pool.tasks ++ [{ payload := b, deadline := f.pool.settings.lifetime.map (read + ·.nanos) }]
        queue := f.pool.queue ++ [f.pool.tasks.length] }
  | take {w : WorkerId} {t : TaskId} {q : Pool β} (h : f.pool.take? w = some (t, q)) : Moves f (.take w) q
  | returns (t : TaskId) : Moves f (.returns t) (f.pool.markDone t)
  | finish (t : TaskId) : Moves f (.finish t) (f.pool.finish t)
  | replace {w : WorkerId} (hfree : f.pool.isFree w) : Moves f (.revive w) (f.pool.replaceWorker w)
  | look (hw : f.IsWatching) : Moves f .look f.pool.look
  | raise : Moves f .raise f.pool.raise
  | drain (interrupt : Bool) : Moves f (.drain interrupt) (f.pool.drain interrupt)
  /-- A handle records that its task is cancelled. -/
  | record {hook : β → Option TaskId} {i : Nat} {e : Errand} {rest : List Errand}
      (hi : f.threads[i]? = some (e :: rest)) (hr : e.Records) :
      Moves f (.proceed hook i) (f.pool.record e.task)
  /-- Any other step of an errand. -/
  | touch {hook : β → Option TaskId} {i : Nat} {e : Errand} {rest : List Errand}
      (hi : f.threads[i]? = some (e :: rest)) (hr : ¬ e.Records) :
      Moves f (.proceed hook i) (e.proceed hook f.pool).1

/-- Every act does one of these things to the pool. -/
theorem moves_step (f : Supervised β) (a : Act β) : f.Moves a (f.step a).pool := by
  cases a with
  | tick d => exact .tick d
  | submit b read =>
    -- a reading of the clock that is still to come is none
    by_cases hread : read ≤ f.pool.now
    · rw [step, if_pos hread]
      rcases submitAt_cases f.pool read b with he | he
      · rw [he]
        exact .idle (by simp [submitted, he]) rfl rfl
      · have hsubmitted : f.submitted (.submit b read) = [(f.pool.tasks.length, read)] := by
          simp [submitted, hread, he]
        rw [he]
        exact .submit hsubmitted
    · rw [step, if_neg hread]
      exact .idle (by simp [submitted, hread]) rfl rfl
  | take w =>
    show f.Moves (.take w) (f.pool.step (.take w))
    rcases step_take f.pool w with ⟨hb, ht⟩ | ⟨t, ht⟩
    · rw [ht]
      exact .idle rfl (by simp [begun, begun?, hb]) rfl
    · exact .take ht
  | returns t =>
    rw [step]
    split
    · exact .returns t
    · exact .idle rfl rfl rfl
  | finish t =>
    show f.Moves (.finish t) (f.pool.step (.finish t))
    rw [step_finish]
    split
    · exact .finish t
    · exact .idle rfl rfl rfl
  | revive w =>
    show f.Moves (.revive w) (f.pool.revive w)
    unfold revive
    split
    · exact .idle rfl rfl rfl
    · next hfree =>
      simp only [Bool.or_eq_true, Bool.not_eq_true', not_or, Bool.not_eq_false] at hfree
      exact .replace hfree.2
  | cancel t =>
    rw [step]
    split <;> exact .idle rfl rfl rfl
  | look =>
    by_cases hw : f.IsWatching
    · rw [step, if_pos hw]
      exact .look hw
    · rw [step, if_neg hw]
      exact .idle rfl rfl (by simp [cancelled, picked, hw])
  | raise => exact .raise
  | drain interrupt => exact .drain interrupt
  | proceed hook i =>
    rcases f.step_proceed_cases hook i with ⟨hnone, he⟩ | ⟨e, rest, hi⟩
    · rw [he]
      exact .idle rfl rfl (by simp [cancelled, hnone])
    · rw [step_proceed hook hi]
      -- all steps of an errand but its bookkeeping change flags only
      by_cases hr : e.Records
      · rw [e.proceed_of_records hook f.pool hr]
        exact .record hi hr
      · exact .touch hi hr

end Supervised

end Pool

end BatchTraversal
