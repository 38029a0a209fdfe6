import BatchTraversal.Pool.Basic

/-!
# What the operations of a pool leave of its tasks

For every operation: which tasks it leaves queued, running and executing, and what it does to the
flags of a task. Tasks are never forgotten, a payload stays what it was, and a flag that is set stays
set (`Pool.Keeps`). Later proofs about pools use these facts and do not look into the operations.
-/

namespace BatchTraversal

namespace Pool

variable {β : Type} {p q : Pool β}

/-! ## Changing one task -/

/-- The tasks after `f` was applied to one of them. -/
theorem getElem?_modifyTask (p : Pool β) (t u : TaskId) (f : Task β → Task β) :
    (p.modifyTask t f).tasks[u]? = if t = u then p.tasks[u]?.map f else p.tasks[u]? := by
  simp only [modifyTask, List.getElem?_modify]
  split
  · rfl
  · cases p.tasks[u]? <;> rfl

/-- A property that `f` leaves alone is left alone by applying `f` to one task. -/
theorem any_modifyTask {g : Task β → Bool} {f : Task β → Task β} (p : Pool β) (t u : TaskId)
    (h : ∀ task, g (f task) = g task) : (p.modifyTask t f).tasks[u]?.any g = p.tasks[u]?.any g := by
  rw [getElem?_modifyTask]
  split
  · cases p.tasks[u]? with
    | none => rfl
    | some task => exact h task
  · rfl

/-- A payload that `f` leaves alone is left alone by applying `f` to one task. -/
theorem payload?_modifyTask {f : Task β → Task β} (p : Pool β) (t u : TaskId)
    (h : ∀ task, (f task).payload = task.payload) : (p.modifyTask t f).payload? u = p.payload? u := by
  unfold payload?
  rw [getElem?_modifyTask]
  split
  · cases p.tasks[u]? with
    | none => rfl
    | some task => exact congrArg some (h task)
  · rfl

/-- Applying `f` to one task makes no new task. -/
@[simp] theorem length_modifyTask (p : Pool β) (t : TaskId) (f : Task β → Task β) :
    (p.modifyTask t f).tasks.length = p.tasks.length := by
  simp [modifyTask]

/-- A task whose cancellation was requested has been accepted. -/
theorem lt_of_isRequested {t : TaskId} (h : p.isRequested t) : t < p.tasks.length := by
  by_cases ht : t < p.tasks.length
  · exact ht
  · simp [isRequested, List.getElem?_eq_none (Nat.le_of_not_lt ht)] at h

section
variable (p : Pool β) (t u : TaskId)

@[simp] theorem length_trip : (p.trip t).tasks.length = p.tasks.length := length_modifyTask ..
@[simp] theorem length_markDone : (p.markDone t).tasks.length = p.tasks.length :=
  length_modifyTask ..

@[simp] theorem isRequested_trip : (p.trip t).isRequested u = p.isRequested u :=
  any_modifyTask p t u (by intro task; rfl)
@[simp] theorem isDone_trip : (p.trip t).isDone u = p.isDone u :=
  any_modifyTask p t u (by intro task; rfl)
@[simp] theorem payload?_trip : (p.trip t).payload? u = p.payload? u :=
  payload?_modifyTask p t u (by intro task; rfl)

@[simp] theorem isRequested_markDone : (p.markDone t).isRequested u = p.isRequested u :=
  any_modifyTask p t u (by intro task; rfl)
@[simp] theorem isTripped_markDone : (p.markDone t).isTripped u = p.isTripped u :=
  any_modifyTask p t u (by intro task; rfl)
@[simp] theorem payload?_markDone : (p.markDone t).payload? u = p.payload? u :=
  payload?_modifyTask p t u (by intro task; rfl)

/-- Marking a task as done marks no other, and none that the pool does not know. -/
theorem isDone_markDone_iff :
    (p.markDone t).isDone u ↔ p.isDone u ∨ t = u ∧ u < p.tasks.length := by
  simp only [isDone, markDone, getElem?_modifyTask]
  by_cases hu : u < p.tasks.length
  · by_cases htu : t = u <;> simp [hu, htu]
  · simp [hu]

/-- Tripping the token of a task trips no other. -/
theorem isTripped_trip_iff :
    (p.trip t).isTripped u ↔ p.isTripped u ∨ t = u ∧ u < p.tasks.length := by
  simp only [isTripped, trip, getElem?_modifyTask]
  by_cases hu : u < p.tasks.length
  · by_cases htu : t = u <;> simp [hu, htu]
  · simp [hu]

variable {u}

/-- A token that is tripped stays tripped. -/
theorem isTripped_trip (h : p.isTripped u) : (p.trip t).isTripped u :=
  (isTripped_trip_iff p t u).2 (.inl h)

end

/-! ## Nothing is forgotten -/

/-- The tasks of `p` are the tasks of `q`, with the same payloads, and what was requested, tripped or
done stays so. -/
structure Keeps (p q : Pool β) : Prop where
  length : q.tasks.length = p.tasks.length
  payload? : ∀ t, q.payload? t = p.payload? t
  requested : ∀ t, p.isRequested t → q.isRequested t
  tripped : ∀ t, p.isTripped t → q.isTripped t
  done : ∀ t, p.isDone t → q.isDone t

/-- A pool keeps the tasks that it has. -/
theorem Keeps.refl (p : Pool β) : p.Keeps p :=
  ⟨rfl, fun _ => rfl, fun _ h => h, fun _ h => h, fun _ h => h⟩

/-- Tasks that are kept twice are kept. -/
theorem Keeps.trans {r : Pool β} (h : p.Keeps q) (h' : q.Keeps r) : p.Keeps r where
  length := h'.length.trans h.length
  payload? t := (h'.payload? t).trans (h.payload? t)
  requested t ht := h'.requested t (h.requested t ht)
  tripped t ht := h'.tripped t (h.tripped t ht)
  done t ht := h'.done t (h.done t ht)

/-- A pool that differs in other things than its tasks keeps them. -/
theorem Keeps.of_tasks (h : q.tasks = p.tasks) : p.Keeps q := by
  constructor <;> simp [Pool.payload?, isRequested, isTripped, isDone, h]

/-- What keeps the tasks one by one keeps them all along a list. -/
theorem Keeps.foldl {α : Type} {f : Pool β → α → Pool β}
    (h : ∀ (p : Pool β) (a : α), p.Keeps (f p a)) :
    ∀ (l : List α) (p : Pool β), p.Keeps (l.foldl f p)
  | [], p => .refl p
  | a :: l, p => (h p a).trans (Keeps.foldl h l (f p a))

/-- A task that is marked as done stays requested and tripped, if it was. -/
theorem keeps_markDone (p : Pool β) (t : TaskId) : p.Keeps (p.markDone t) where
  length := length_markDone p t
  payload? u := payload?_markDone p t u
  requested u h := by rwa [isRequested_markDone]
  tripped u h := by rwa [isTripped_markDone]
  done u h := (isDone_markDone_iff p t u).2 (.inl h)

/-- A task whose token is tripped stays done, if it was. -/
theorem keeps_trip (p : Pool β) (t : TaskId) : p.Keeps (p.trip t) where
  length := length_trip p t
  payload? u := payload?_trip p t u
  requested u h := by rwa [isRequested_trip]
  tripped _ h := isTripped_trip p t h
  done u h := by rwa [isDone_trip]

/-! ## Requesting cancellation -/

/-- The pool once the first request to cancel a task was noted, before its hook trips a token. -/
def noted (p : Pool β) (t : TaskId) : Pool β :=
  p.modifyTask t fun task => { task with tripped := true, requested := true, hooks := task.hooks + 1 }

/-- A request leaves the pool as it is if the task is unknown or was requested before; else it is
noted, and the hook may trip the token of a task. -/
theorem request_cases (hook : β → Option TaskId) (p : Pool β) (t : TaskId) :
    (p.request hook t = (false, p) ∧ (t < p.tasks.length → p.isRequested t)) ∨
    (t < p.tasks.length ∧ p.isRequested t = false ∧
      (p.request hook t = (true, p.noted t) ∨
        ∃ b u, p.payload? t = some b ∧ hook b = some u ∧
          p.request hook t = (true, (p.noted t).trip u))) := by
  cases ht : p.tasks[t]? with
  | none =>
    refine .inl ⟨by simp [request, ht], fun h => ?_⟩
    rw [List.getElem?_eq_getElem h] at ht
    cases ht
  | some task =>
    cases hr : task.requested with
    | true => exact .inl ⟨by simp [request, ht, hr], fun _ => by simp [isRequested, ht, hr]⟩
    | false =>
      refine .inr ⟨(List.getElem?_eq_some_iff.1 ht).1, by simp [isRequested, ht, hr], ?_⟩
      cases hh : hook task.payload with
      | none => exact .inl (by simp [request, ht, hr, hh, noted])
      | some u =>
        exact .inr ⟨task.payload, u, by simp [payload?, ht], hh, by simp [request, ht, hr, hh, noted]⟩

section
variable (hook : β → Option TaskId) (p : Pool β) (t u : TaskId)

/-- The first request is noted of its task and of no other. -/
theorem isRequested_noted_iff :
    (p.noted t).isRequested u ↔ p.isRequested u ∨ t = u ∧ u < p.tasks.length := by
  simp only [isRequested, noted, getElem?_modifyTask]
  by_cases hu : u < p.tasks.length
  · by_cases htu : t = u <;> simp [hu, htu]
  · simp [hu]

/-- The first request trips the token of its task and no other, before its hook is called. -/
theorem isTripped_noted_iff :
    (p.noted t).isTripped u ↔ p.isTripped u ∨ t = u ∧ u < p.tasks.length := by
  simp only [isTripped, noted, getElem?_modifyTask]
  by_cases hu : u < p.tasks.length
  · by_cases htu : t = u <;> simp [hu, htu]
  · simp [hu]

/-- A first request that is noted forgets nothing. -/
theorem keeps_noted : p.Keeps (p.noted t) where
  length := length_modifyTask ..
  payload? u := payload?_modifyTask p t u (by intro task; rfl)
  requested u h := (isRequested_noted_iff p t u).2 (.inl h)
  tripped u h := (isTripped_noted_iff p t u).2 (.inl h)
  done u h := (any_modifyTask p t u (by intro task; rfl)).trans h

/-- A request changes nothing but tasks. -/
theorem request_eq : ∃ tasks, (p.request hook t).2 = { p with tasks } := by
  rcases request_cases hook p t with ⟨h, -⟩ | ⟨-, -, h | ⟨_, u, -, -, h⟩⟩
  · exact ⟨p.tasks, by rw [h]⟩
  · exact ⟨(p.noted t).tasks, by rw [h]; rfl⟩
  · exact ⟨((p.noted t).trip u).tasks, by rw [h]; rfl⟩

/-- A task does not end by being requested. -/
theorem isDone_noted : (p.noted t).isDone u = p.isDone u := any_modifyTask p t u (by intro task; rfl)

/-- A request takes nothing from the queue; that is left to its bookkeeping. -/
@[simp] theorem queue_request : (p.request hook t).2.queue = p.queue := by
  obtain ⟨tasks, h⟩ := request_eq hook p t
  rw [h]

/-- A request leaves the running tasks where they are. -/
@[simp] theorem running_request : (p.request hook t).2.running = p.running := by
  obtain ⟨tasks, h⟩ := request_eq hook p t
  rw [h]

/-- A request does not stop whoever executes the task. -/
@[simp] theorem executing_request : (p.request hook t).2.executing = p.executing := by
  obtain ⟨tasks, h⟩ := request_eq hook p t
  rw [h]

/-- A request forgets nothing, whether it is the first one or not. -/
theorem keeps_request : p.Keeps (p.request hook t).2 := by
  rcases request_cases hook p t with ⟨h, -⟩ | ⟨-, -, h | ⟨_, u, -, -, h⟩⟩ <;> rw [h]
  · exact .refl p
  · exact keeps_noted p t
  · exact (keeps_noted p t).trans (keeps_trip _ u)

/-- A request marks its task as requested, and no other. -/
theorem isRequested_request_iff :
    (p.request hook t).2.isRequested u ↔ p.isRequested u ∨ t = u ∧ u < p.tasks.length := by
  rcases request_cases hook p t with ⟨h, hr⟩ | ⟨-, -, h | ⟨_, v, -, -, h⟩⟩ <;> rw [h]
  · exact ⟨.inl, fun h => h.elim id fun ⟨e, hlt⟩ => e ▸ hr (e ▸ hlt)⟩
  · exact isRequested_noted_iff p t u
  · rw [isRequested_trip]
    exact isRequested_noted_iff p t u

/-- A request ends no task, neither its own nor the one whose token its hook trips. -/
@[simp] theorem isDone_request : (p.request hook t).2.isDone u = p.isDone u := by
  rcases request_cases hook p t with ⟨h, -⟩ | ⟨-, -, h | ⟨_, v, -, -, h⟩⟩ <;> rw [h]
  · exact isDone_noted p t u
  · exact (isDone_trip ..).trans (isDone_noted p t u)

variable {p u}

/-- A requested task has its token tripped, if that was so before. -/
theorem isTripped_request (h : ∀ v, p.isRequested v → p.isTripped v)
    (hu : (p.request hook t).2.isRequested u) : (p.request hook t).2.isTripped u := by
  by_cases hpu : p.isRequested u
  · exact (keeps_request hook p t).tripped u (h u hpu)
  · obtain ⟨rfl, hlt⟩ := ((isRequested_request_iff hook p t u).1 hu).resolve_left hpu
    have hmark := (isTripped_noted_iff p t t).2 (.inr ⟨rfl, hlt⟩)
    rcases request_cases hook p t with ⟨-, hr⟩ | ⟨-, -, he | ⟨_, v, -, -, he⟩⟩
    · exact absurd (hr hlt) hpu
    · rw [he]; exact hmark
    · rw [he]; exact isTripped_trip _ v hmark

/-- A request trips no token but its task's and the one that the hook names. -/
theorem isTripped_of_request (h : (p.request hook t).2.isTripped u) :
    p.isTripped u ∨ u = t ∨ (p.payload? t).bind hook = some u := by
  have hnoted (h : (p.noted t).isTripped u) : p.isTripped u ∨ u = t :=
    ((isTripped_noted_iff p t u).1 h).imp_right fun hu => hu.1.symm
  rcases request_cases hook p t with ⟨he, -⟩ | ⟨-, -, he | ⟨b, v, hb, hv, he⟩⟩ <;> rw [he] at h
  · exact .inl h
  · exact (hnoted h).imp_right .inl
  · rcases (isTripped_trip_iff (p.noted t) v u).1 h with h | ⟨rfl, -⟩
    · exact (hnoted h).imp_right .inl
    · exact .inr (.inr (by rw [hb]; exact hv))

end

/-! ## Requests for several tasks -/

section
variable (hook : β → Option TaskId)

/-- Several requests leave the queue. -/
@[simp] theorem queue_requestAll (ts : List TaskId) (p : Pool β) :
    (p.requestAll hook ts).queue = p.queue := by
  induction ts generalizing p with
  | nil => rfl
  | cons t ts ih => exact (ih _).trans (queue_request hook p t)

/-- Several requests leave the running tasks. -/
@[simp] theorem running_requestAll (ts : List TaskId) (p : Pool β) :
    (p.requestAll hook ts).running = p.running := by
  induction ts generalizing p with
  | nil => rfl
  | cons t ts ih => exact (ih _).trans (running_request hook p t)

/-- Several requests leave what is executed. -/
@[simp] theorem executing_requestAll (ts : List TaskId) (p : Pool β) :
    (p.requestAll hook ts).executing = p.executing := by
  induction ts generalizing p with
  | nil => rfl
  | cons t ts ih => exact (ih _).trans (executing_request hook p t)

/-- Several requests end no task. -/
@[simp] theorem isDone_requestAll (ts : List TaskId) (p : Pool β) (u : TaskId) :
    (p.requestAll hook ts).isDone u = p.isDone u := by
  induction ts generalizing p with
  | nil => rfl
  | cons t ts ih => exact (ih _).trans (isDone_request hook p t u)

/-- Several requests forget nothing. -/
theorem keeps_requestAll (ts : List TaskId) (p : Pool β) : p.Keeps (p.requestAll hook ts) :=
  Keeps.foldl (fun p t => keeps_request hook p t) ts p

/-- Every task of the list that was accepted is requested afterwards. -/
theorem isRequested_requestAll {t : TaskId} :
    ∀ {ts : List TaskId} {p : Pool β}, t ∈ ts → t < p.tasks.length →
      (p.requestAll hook ts).isRequested t
  | u :: ts, p, ht, hlt => by
    show ((p.request hook u).2.requestAll hook ts).isRequested t
    rcases List.mem_cons.1 ht with rfl | ht
    · exact (keeps_requestAll hook ts _).requested t
        ((isRequested_request_iff hook p t t).2 (.inr ⟨rfl, hlt⟩))
    · exact isRequested_requestAll ht (by rwa [(keeps_request hook p u).length])

/-- A task that is requested afterwards and not of the list was requested before. -/
theorem isRequested_of_requestAll {t : TaskId} :
    ∀ {ts : List TaskId} {p : Pool β}, t ∉ ts → (p.requestAll hook ts).isRequested t →
      p.isRequested t
  | [], _, _, h => h
  | u :: ts, p, ht, h => by
    have h₁ := isRequested_of_requestAll (fun hts => ht (List.mem_cons_of_mem u hts)) h
    refine ((isRequested_request_iff hook p u t).1 h₁).resolve_right fun e => ht ?_
    exact List.mem_cons.2 (.inl e.1.symm)

/-- After several requests, too, a requested task has its token tripped. -/
theorem isTripped_requestAll {t : TaskId} :
    ∀ {ts : List TaskId} {p : Pool β}, (∀ v, p.isRequested v → p.isTripped v) →
      (p.requestAll hook ts).isRequested t → (p.requestAll hook ts).isTripped t
  | [], _, h, ht => h t ht
  | u :: ts, _, h, ht =>
    @isTripped_requestAll t ts _ (fun _ hv => isTripped_request hook u h hv) ht

end

/-! ## Noting when a task was cancelled -/

/-- Noting when a task was cancelled changes nothing but that, and it is noted of no other task. -/
theorem noteCancelled_eq (p : Pool β) (t : TaskId) :
    ∃ running, p.noteCancelled t = { p with running } ∧
      running.map (·.task) = p.running.map (·.task) ∧
      ∀ a ∈ running, a.cancelledAt.isSome →
        a.task = t ∨ ∃ b ∈ p.running, b.task = a.task ∧ b.cancelledAt.isSome := by
  refine ⟨_, rfl, ?_, fun a ha hc => ?_⟩
  · rw [List.map_map]
    refine List.map_congr_left fun a _ => ?_
    simp only [Function.comp_apply]
    split <;> rfl
  · obtain ⟨b, hb, rfl⟩ := List.mem_map.1 ha
    by_cases hbt : b.task = t
    · exact .inl (by simp [hbt])
    · rw [if_neg hbt] at hc ⊢
      exact .inr ⟨b, hb, rfl, hc⟩

/-- Noting when some tasks were cancelled changes nothing but that. -/
theorem foldl_noteCancelled_eq (ts : List TaskId) (p : Pool β) :
    ∃ running, ts.foldl noteCancelled p = { p with running } ∧
      running.map (·.task) = p.running.map (·.task) ∧
      ∀ a ∈ running, a.cancelledAt.isSome →
        a.task ∈ ts ∨ ∃ b ∈ p.running, b.task = a.task ∧ b.cancelledAt.isSome := by
  induction ts generalizing p with
  | nil => exact ⟨p.running, rfl, rfl, fun a ha hc => .inr ⟨a, ha, rfl, hc⟩⟩
  | cons t ts ih =>
    obtain ⟨r, hr, hmap, hc⟩ := noteCancelled_eq p t
    obtain ⟨r', hr', hmap', hc'⟩ := ih (p.noteCancelled t)
    rw [hr] at hr' hmap' hc'
    refine ⟨r', ?_, hmap'.trans hmap, fun a ha hs => ?_⟩
    · rw [List.foldl_cons, hr, hr']
    · rcases hc' a ha hs with h | ⟨b, hb, hba, hbs⟩
      · exact .inl (List.mem_cons_of_mem t h)
      · rcases hc b hb hbs with h | ⟨e, he, heb, hes⟩
        · exact .inl (List.mem_cons.2 (.inl (hba ▸ h)))
        · exact .inr ⟨e, he, heb.trans hba, hes⟩

/-! ## Giving up workers -/

section
variable (p : Pool β) (l : List Assignment)

/-- Giving up workers leaves the queue to the others. -/
@[simp] theorem queue_foldl_abandon : (l.foldl abandon p).queue = p.queue := by
  induction l generalizing p with
  | nil => rfl
  | cons a l ih => exact ih _

/-- A worker that is given up still executes its task. -/
@[simp] theorem executing_foldl_abandon : (l.foldl abandon p).executing = p.executing := by
  induction l generalizing p with
  | nil => rfl
  | cons a l ih => exact ih _

/-- The tasks of workers that are given up do not run any more, and all others do. -/
theorem running_foldl_abandon :
    (l.foldl abandon p).running = p.running.filter (·.task ∉ l.map (·.task)) := by
  induction l generalizing p with
  | nil => exact (List.filter_eq_self.2 (by simp)).symm
  | cons a l ih =>
    rw [List.foldl_cons, ih]
    show (p.running.filter (·.task ≠ a.task)).filter _ = _
    rw [List.filter_filter]
    refine List.filter_congr fun b _ => ?_
    simp only [List.map_cons, List.mem_cons, not_or, ne_eq, Bool.decide_and]
    exact Bool.and_comm ..

/-- Giving up workers forgets no task. -/
theorem keeps_foldl_abandon : p.Keeps (l.foldl abandon p) :=
  Keeps.foldl (f := abandon) (fun p a => (keeps_markDone p a.task).trans (.of_tasks rfl)) l p

/-- Giving up workers requests no task. -/
theorem isRequested_foldl_abandon (u : TaskId) :
    (l.foldl abandon p).isRequested u = p.isRequested u := by
  induction l generalizing p with
  | nil => rfl
  | cons a l ih => exact (ih _).trans (isRequested_markDone p a.task u)

/-- Giving up workers trips no token. -/
theorem isTripped_foldl_abandon (u : TaskId) :
    (l.foldl abandon p).isTripped u = p.isTripped u := by
  induction l generalizing p with
  | nil => rfl
  | cons a l ih => exact (ih _).trans (isTripped_markDone p a.task u)

/-- The tasks of workers that are given up are done, and no others. -/
theorem isDone_foldl_abandon_iff (u : TaskId) :
    (l.foldl abandon p).isDone u ↔
      p.isDone u ∨ u ∈ l.map (·.task) ∧ u < p.tasks.length := by
  induction l generalizing p with
  | nil => simp
  | cons a l ih =>
    have hstep : (p.abandon a).isDone u ↔ p.isDone u ∨ a.task = u ∧ u < p.tasks.length :=
      isDone_markDone_iff p a.task u
    have hlen : (p.abandon a).tasks.length = p.tasks.length := length_markDone p a.task
    rw [List.foldl_cons, ih, hstep, hlen, List.map_cons, List.mem_cons, or_and_right, or_assoc,
      eq_comm (a := u)]

end

/-! ## Looks of the deadline monitor -/

/-- The tasks that are past their deadline. -/
def expiredTasks (p : Pool β) : List TaskId := (p.running.filter p.isExpired).map (·.task)

/-- The tasks that have kept their workers for too long since they were cancelled. -/
def stuckTasks (p : Pool β) : List TaskId := (p.running.filter p.isStuck).map (·.task)

/-- A task is past its deadline only while it runs. -/
theorem isRunning_of_mem_expiredTasks {p : Pool β} {t : TaskId} (h : t ∈ p.expiredTasks) :
    t ∈ p.running.map (·.task) := by
  obtain ⟨a, ha, rfl⟩ := List.mem_map.1 h
  exact List.mem_map_of_mem (List.mem_filter.1 ha).1

/-- A task is stuck only if it runs and was cancelled. -/
theorem cancelled_of_mem_stuckTasks {p : Pool β} {t : TaskId} (h : t ∈ p.stuckTasks) :
    ∃ a ∈ p.running, a.task = t ∧ a.cancelledAt.isSome := by
  obtain ⟨a, ha, rfl⟩ := List.mem_map.1 h
  obtain ⟨ha, hs⟩ := List.mem_filter.1 ha
  refine ⟨a, ha, rfl, ?_⟩
  cases hc : a.cancelledAt with
  | none => simp [isStuck, hc] at hs
  | some at' => rfl

/-- What the deadline monitor does while it has the pool to itself: it notes when the expired tasks are cancelled
and gives up the workers of the stuck ones. -/
def look (p : Pool β) : Pool β :=
  (p.running.filter p.isStuck).foldl abandon (p.expiredTasks.foldl noteCancelled p)

/-- What the deadline monitor does about expired tasks once it has looked at the pool is to request that they are
cancelled. -/
theorem scan_eq_look (hook : β → Option TaskId) {p : Pool β} (h : p.down = false) :
    p.scan hook = p.look.requestAll hook p.expiredTasks := by
  rw [scan, if_neg (by simp [h])]
  rfl

/-- A look of the monitor at a pool that is not shut down takes the workers of the stuck tasks away,
which are done then, and notes when the expired tasks were cancelled; then it requests that. -/
theorem scan_eq (hook : β → Option TaskId) (p : Pool β) (hd : p.down = false) : ∃ r q : Pool β,
    p.scan hook = q.requestAll hook p.expiredTasks ∧ q.queue = p.queue ∧
      q.running = r.running.filter (·.task ∉ p.stuckTasks) ∧ q.executing = p.executing ∧
      p.Keeps q ∧ (∀ u, q.isDone u ↔ p.isDone u ∨ u ∈ p.stuckTasks ∧ u < p.tasks.length) ∧
      (∀ u, q.isRequested u = p.isRequested u) ∧ (∀ u, q.isTripped u = p.isTripped u) ∧
      r.running.map (·.task) = p.running.map (·.task) ∧
      ∀ a ∈ r.running, a.cancelledAt.isSome →
        a.task ∈ p.expiredTasks ∨ ∃ b ∈ p.running, b.task = a.task ∧ b.cancelledAt.isSome := by
  obtain ⟨running, hr, hmap, hc⟩ := foldl_noteCancelled_eq p.expiredTasks p
  refine ⟨{ p with running },
    (p.running.filter p.isStuck).foldl abandon { p with running }, ?_, ?_⟩
  · rw [scan_eq_look hook hd, look, hr]
  · have h₀ : p.Keeps { p with running } := .of_tasks rfl
    exact ⟨queue_foldl_abandon .., running_foldl_abandon .., executing_foldl_abandon ..,
      h₀.trans (keeps_foldl_abandon ..), isDone_foldl_abandon_iff { p with running } _,
      isRequested_foldl_abandon { p with running } _, isTripped_foldl_abandon { p with running } _,
      hmap, hc⟩

/-! ## Dropping the queue -/

section
variable (hook : β → Option TaskId)

/-- Cancels tasks that will never begin. -/
theorem foldl_drop_eq (ts : List TaskId) (p : Pool β) :
    let q := ts.foldl (fun p t => (p.request hook t).2.markDone t) p
    q.queue = p.queue ∧ q.running = p.running ∧ q.executing = p.executing ∧ p.Keeps q ∧
      (∀ u, q.isDone u ↔ p.isDone u ∨ u ∈ ts ∧ u < p.tasks.length) ∧
      ((∀ u, p.isRequested u → p.isTripped u) → ∀ u, q.isRequested u → q.isTripped u) := by
  induction ts generalizing p with
  | nil => exact ⟨rfl, rfl, rfl, .refl p, by simp, fun h => h⟩
  | cons t ts ih =>
    obtain ⟨hq, hr, he, hk, hd, ht⟩ := ih ((p.request hook t).2.markDone t)
    have hk₁ := (keeps_request hook p t).trans (keeps_markDone _ t)
    refine ⟨hq.trans (queue_request hook p t), hr.trans (running_request hook p t),
      he.trans (executing_request hook p t), hk₁.trans hk, fun u => ?_, fun h => ht fun u hu => ?_⟩
    · rw [List.foldl_cons, hd u, isDone_markDone_iff, isDone_request, hk₁.length,
        (keeps_request hook p t).length, List.mem_cons, or_and_right, or_assoc, eq_comm (a := u)]
    · rw [isRequested_markDone] at hu
      rw [isTripped_markDone]
      exact isTripped_request hook t h hu

end

end Pool

end BatchTraversal
