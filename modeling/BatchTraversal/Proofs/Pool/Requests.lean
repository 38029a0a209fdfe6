import BatchTraversal.Proofs.Pool.Deadlines

/-!
# Requests along a run

However the requests of handles, of the deadline monitor and of shutdowns for one task come together, one of them goes
on: it trips the token and then calls the hook (`Supervised.Hooked`). By the time at which the deadline monitor looks at
the pool again, every task that is known to be cancelled has been requested (`Supervised.Requested`).
-/

namespace BatchTraversal

namespace Pool

variable {β : Type} {p q : Pool β} {t u : TaskId} {n : Nat} {e : Errand}

namespace Supervised

variable {f : Supervised β} {i : Nat} {e : Errand} {rest : List Errand}

/-! ## What has been requested -/

/-- What an act does to the threads: nothing; a thread with errands that are due comes up, or the deadline monitor
gets such errands; or a thread goes on. -/
theorem threads_step (h : Ordered n f.pool) (a : Act β) :
    (f.step a).threads = f.threads ∨
    (∃ l : List Errand, (∀ e ∈ l, e.task < f.pool.tasks.length ∧ e.progress = .due) ∧
      ((f.step a).threads = f.threads ++ [l] ∨
        f.monitor = [] ∧ (f.step a).threads = f.threads.set 0 l)) ∨
    ∃ hook i e rest, a = .proceed hook i ∧ f.threads[i]? = some (e :: rest) := by
  have hrunning {b : Assignment} (hb : b ∈ f.pool.running) : b.task < f.pool.tasks.length :=
    h.known _ (h.isExecuting_of_mem hb)
  cases a with
  | cancel t =>
    by_cases ht : t < f.pool.tasks.length
    · exact .inr (.inl ⟨[{ task := t, sequel := .record }], by simp [ht], .inl (by simp [step, ht])⟩)
    · exact .inl (by simp [step, ht])
  | look =>
    by_cases hw : f.IsWatching
    · refine .inr (.inl ⟨f.pool.expiredTasks.map ({ task := · }), fun e he => ?_,
        .inr ⟨hw.2, by simp only [step, if_pos hw]⟩⟩)
      obtain ⟨t, ht, rfl⟩ := List.mem_map.1 he
      obtain ⟨b, hb, rfl⟩ := List.mem_map.1 ht
      exact ⟨hrunning (List.mem_filter.1 hb).1, rfl⟩
    · exact .inl (by simp [step, hw])
  | drain interrupt =>
    refine .inr (.inl ⟨_, fun e he => ?_, .inl rfl⟩)
    rcases List.mem_append.1 he with he | he
    · obtain ⟨t, ht, rfl⟩ := List.mem_map.1 he
      exact ⟨h.queue_lt t ht, rfl⟩
    · obtain ⟨t, ht, rfl⟩ := List.mem_map.1 he
      cases interrupt with
      | false => cases ht
      | true =>
        obtain ⟨b, hb, rfl⟩ := List.mem_map.1 ht
        exact ⟨hrunning hb, rfl⟩
  | proceed hook i =>
    rcases f.step_proceed_cases hook i with ⟨-, he⟩ | ⟨e, rest, hi⟩
    · exact .inl (by rw [he])
    · exact .inr (.inr ⟨hook, i, e, rest, rfl, hi⟩)
  | submit | returns =>
    refine .inl ?_
    rw [step]
    split <;> rfl
  | _ => exact .inl rfl

/-! ## Errands and flags -/

end Supervised

/-- A request is noted of its task and of no other. -/
theorem isRequested_ask_iff (p : Pool β) (t u : TaskId) :
    (p.ask t).isRequested u ↔ p.isRequested u ∨ t = u ∧ u < p.tasks.length := by
  simp only [isRequested, ask, getElem?_modifyTask]
  by_cases hu : u < p.tasks.length
  · by_cases htu : t = u <;> simp [hu, htu]
  · simp [hu]

/-- A hook trips a token and requests nothing. -/
@[simp] theorem isRequested_callHook (hook : β → Option TaskId) (p : Pool β) (t u : TaskId) :
    (p.callHook hook t).isRequested u = p.isRequested u := by
  have hcalled : (p.modifyTask t fun task => { task with hooks := task.hooks + 1 }).isRequested u =
      p.isRequested u := any_modifyTask p t u fun _ => rfl
  unfold callHook
  cases (p.payload? t).bind hook with
  | none => exact hcalled
  | some v => exact (isRequested_trip ..).trans hcalled

/-- The bookkeeping of a cancel requests nothing. -/
theorem isRequested_record (p : Pool β) (t u : TaskId) : (p.record t).isRequested u = p.isRequested u := by
  unfold record
  split
  · exact isRequested_markDone p t u
  · rfl

/-- Only the first step of an errand requests anything, which is its task. -/
theorem Errand.isRequested_proceed_iff (hook : β → Option TaskId) (p : Pool β) (e : Errand) (u : TaskId) :
    (e.proceed hook p).1.isRequested u ↔
      p.isRequested u ∨ e.progress = .due ∧ e.task = u ∧ u < p.tasks.length := by
  unfold proceed
  cases hprogress : e.progress with
  | due =>
    dsimp only
    split
    · simp [isRequested_ask_iff]
    · next hfirst =>
      refine ⟨.inl, fun h => h.elim id fun ⟨_, he, hlt⟩ => ?_⟩
      subst he
      by_contra hn
      exact hfirst ⟨hlt, by simpa using hn⟩
  | asked => simp
  | tripped => simp
  | requested first =>
    cases e.sequel with
    | nothing => simp [Sequel.apply]
    | markDone => simp [Sequel.apply]
    | record => cases first <;> simp [Sequel.apply, isRequested_record]

/-- What holds of an errand in a pool: its task was accepted, and is requested once the errand has begun, and tripped
before its hook is called. -/
structure Errand.Fits (p : Pool β) (e : Errand) : Prop where
  lt : e.task < p.tasks.length
  requested : e.progress ≠ .due → p.isRequested e.task
  tripped : e.progress = .tripped → p.isTripped e.task

/-- An errand fits whatever is done to the pool in between. -/
theorem Errand.Fits.grows (h : e.Fits p) (hg : p.Grows q) : e.Fits q :=
  ⟨Nat.lt_of_lt_of_le h.lt hg.length, fun hp => hg.requested _ (h.requested hp),
    fun hp => hg.tripped _ (h.tripped hp)⟩

/-- A step of an errand leaves one that fits what it did. -/
theorem Errand.Fits.proceed (hook : β → Option TaskId) (h : e.Fits p) {e' : Errand}
    (he : (e.proceed hook p).2 = some e') : e'.Fits (e.proceed hook p).1 := by
  have hg := e.grows_proceed hook p
  have hrequested : (e.proceed hook p).1.isRequested e.task := by
    rw [e.isRequested_proceed_iff]
    by_cases hdue : e.progress = .due
    · exact .inr ⟨hdue, rfl, h.lt⟩
    · exact .inl (h.requested hdue)
  have htask : e'.task = e.task ∧ (e'.progress = .tripped → e.progress = .asked) := by
    unfold Errand.proceed at he
    cases hprogress : e.progress with
    | due =>
      simp only [hprogress] at he
      split at he <;> cases he <;> exact ⟨rfl, nofun⟩
    | asked =>
      simp only [hprogress] at he
      cases he
      exact ⟨rfl, fun _ => rfl⟩
    | tripped =>
      simp only [hprogress] at he
      cases he
      exact ⟨rfl, nofun⟩
    | requested first =>
      simp only [hprogress] at he
      cases he
  refine ⟨htask.1 ▸ Nat.lt_of_lt_of_le h.lt hg.length, fun _ => htask.1 ▸ hrequested, fun ht => ?_⟩
  have hasked := htask.2 ht
  rw [htask.1]
  show ((e.proceed hook p).1).isTripped e.task
  simp only [Errand.proceed, hasked]
  exact (isTripped_trip_iff p e.task e.task).2 (.inr ⟨rfl, h.lt⟩)

namespace Supervised

variable {f : Supervised β} {i : Nat} {rest : List Errand}

/-- What is in hand after a thread got new errands. -/
theorem mem_flatten_set {α : Type} {x : α} {ll : List (List α)} {l : List α} (h : x ∈ (ll.set i l).flatten) :
    x ∈ l ∨ x ∈ ll.flatten := by
  obtain ⟨l', hl', hx⟩ := List.mem_flatten.1 h
  rcases List.mem_or_eq_of_mem_set hl' with hl' | rfl
  · exact .inr (List.mem_flatten.2 ⟨l', hl', hx⟩)
  · exact .inl hx

/-- Every errand in hand fits. -/
def Fitting (f : Supervised β) : Prop := ∀ e ∈ f.threads.flatten, e.Fits f.pool

/-- The errand that a thread has at hand fits the pool. -/
theorem Fitting.of_threads (h : f.Fitting) (hi : f.threads[i]? = some (e :: rest)) : e.Fits f.pool :=
  h e (List.mem_flatten.2 ⟨_, List.mem_of_getElem? hi, List.mem_cons_self⟩)

/-- Whatever happens, what the threads have to do fits the pool. -/
theorem Fitting.step (h : f.Fitting) (ho : Ordered n f.pool) (a : Act β) : (f.step a).Fitting := by
  have hg := (moves_step f a).grows
  have hold {e : Errand} (he : e ∈ f.threads.flatten) : e.Fits (f.step a).pool := (h e he).grows hg
  intro e he
  rcases threads_step ho a with hsame | ⟨l, hl, hnew⟩ | ⟨hook, i, e₀, rest, rfl, hi⟩
  · exact hold (hsame ▸ he)
  · have hmem : e ∈ l ∨ e ∈ f.threads.flatten := by
      rcases hnew with hnew | ⟨-, hnew⟩ <;> rw [hnew] at he
      · simpa [or_comm] using he
      · exact mem_flatten_set he
    rcases hmem with he | he
    · obtain ⟨hlt, hdue⟩ := hl e he
      exact ⟨Nat.lt_of_lt_of_le hlt hg.length, fun hn => absurd hdue hn, fun ht => by simp [hdue] at ht⟩
    · exact hold he
  · have hthread (e : Errand) (he : e ∈ e₀ :: rest) : e ∈ f.threads.flatten :=
      List.mem_flatten.2 ⟨_, List.mem_of_getElem? hi, he⟩
    rw [step_proceed hook hi] at he
    rcases mem_flatten_set he with he | he
    · rcases List.mem_append.1 he with he | he
      · rw [step_proceed hook hi]
        exact (h e₀ (hthread e₀ List.mem_cons_self)).proceed hook (Option.mem_toList.1 he)
      · exact hold (hthread e (List.mem_cons_of_mem e₀ he))
    · exact hold he

/-- Only a thread that goes on requests anything. -/
theorem Moves.isRequested (h : f.Moves a q) (ha : ∀ hook i, a ≠ .proceed hook i) (u : TaskId) :
    q.isRequested u = f.pool.isRequested u := by
  cases h with
  | idle | tick | replace | raise => rfl
  | submit => exact any_append rfl f.pool.tasks u
  | take ht =>
    obtain ⟨rest, -, rfl⟩ := take?_eq_some ht
    rfl
  | returns t => exact isRequested_markDone f.pool t u
  | finish t => exact isRequested_markDone f.pool t u
  | look =>
    rw [Pool.look, isRequested_foldl_abandon, foldl_noteCancelled]
    rfl
  | drain interrupt =>
    rw [Pool.drain, foldl_noteCancelled]
    rfl
  | record | touch => exact absurd rfl (ha _ _)

/-! ## Calls of the hook -/

end Supervised

/-- Whether an errand has begun its request as the first one and not yet called the hook. -/
def Errand.IsMidway (e : Errand) : Prop := e.progress = .asked ∨ e.progress = .tripped

instance (e : Errand) : Decidable e.IsMidway := inferInstanceAs (Decidable (_ ∨ _))

/-- The number of errands for a task that are midway. -/
def Errand.midway (t : TaskId) (l : List Errand) : Nat := l.countP fun e => e.task = t ∧ e.IsMidway

/-- Of the requests for a task that were the first, none is lost: one is midway, or its hook is called. -/
theorem Errand.Fits.midway_proceed (hook : β → Option TaskId) (h : e.Fits p) (t : TaskId) :
    midway t (e.proceed hook p).2.toList + (if e.progress = .tripped ∧ e.task = t then 1 else 0) +
        (if p.isRequested t then 1 else 0) =
      midway t [e] + if (e.proceed hook p).1.isRequested t then 1 else 0 := by
  have hrequested : (e.proceed hook p).1.isRequested t =
      (p.isRequested t || decide (e.progress = .due ∧ e.task = t)) := by
    rw [Bool.eq_iff_iff, e.isRequested_proceed_iff, Bool.or_eq_true, decide_eq_true_eq]
    exact or_congr_right ⟨fun ⟨hdue, he, _⟩ => ⟨hdue, he⟩, fun ⟨hdue, he⟩ => ⟨hdue, he, he ▸ h.lt⟩⟩
  rw [hrequested]
  unfold Errand.proceed
  cases hprogress : e.progress with
  | due =>
    by_cases hfirst : p.IsFirst e.task
    · by_cases he : e.task = t
      · subst he
        simp [midway, IsMidway, hprogress, hfirst, hfirst.2]
      · simp [midway, IsMidway, hprogress, hfirst, he]
    · by_cases he : e.task = t
      · subst he
        have hr : p.isRequested e.task = true := by
          by_contra hn
          exact hfirst ⟨h.lt, by simpa using hn⟩
        simp [midway, IsMidway, hprogress, hfirst, hr]
      · simp [midway, IsMidway, hprogress, hfirst, he]
  | asked => simp [midway, IsMidway, hprogress]
  | tripped => simp [midway, IsMidway, hprogress]
  | requested first => simp [midway, IsMidway, hprogress]

/-- The errands midway among some and others are those of both. -/
theorem Errand.midway_append (t : TaskId) (l l' : List Errand) :
    midway t (l ++ l') = midway t l + midway t l' := List.countP_append

/-- An errand that is due is not midway. -/
theorem Errand.midway_of_due {l : List Errand} (h : ∀ e ∈ l, e.progress = .due) : midway t l = 0 := by
  rw [midway, List.countP_eq_zero]
  intro e he
  simp [IsMidway, h e he]

/-- What is midway after a thread got new errands. -/
theorem Errand.midway_flatten_set (t : TaskId) : ∀ {ll : List (List Errand)} {i : Nat} {l : List Errand},
    ll[i]? = some l → ∀ l' : List Errand,
      midway t (ll.set i l').flatten + midway t l = midway t ll.flatten + midway t l'
  | l :: ll, 0, _, rfl, l' => by
    simp only [List.set_cons_zero, List.flatten_cons, midway_append]
    omega
  | l :: ll, i + 1, _, h, l' => by
    have hrest := midway_flatten_set t (show ll[i]? = some _ from h) l'
    simp only [List.set_cons_succ, List.flatten_cons, midway_append]
    omega

namespace Supervised

variable {f : Supervised β} {i : Nat} {rest : List Errand} {log : List TaskId}

/-- `log` tells whose hooks were called: for every task that is requested, the hook was called once, or a request is
midway that will call it. -/
def Hooked (log : List TaskId) (f : Supervised β) : Prop :=
  ∀ t, log.count t + Errand.midway t f.threads.flatten = if f.pool.isRequested t then 1 else 0

/-- What only lets errands come up leaves what is midway. -/
theorem midway_step_of_ne (ho : Ordered n f.pool) {a : Act β} (ha : ∀ hook i, a ≠ .proceed hook i) (t : TaskId) :
    Errand.midway t (f.step a).threads.flatten = Errand.midway t f.threads.flatten := by
  rcases threads_step ho a with hsame | ⟨l, hl, hnew⟩ | ⟨hook, i, e, rest, rfl, -⟩
  · rw [hsame]
  · have hnone : Errand.midway t l = 0 := Errand.midway_of_due fun e he => (hl e he).2
    rcases hnew with hnew | ⟨hidle, hnew⟩ <;> rw [hnew]
    · simp [Errand.midway_append, hnone]
    · cases hm : f.threads[0]? with
      | none => rw [List.set_eq_of_length_le (List.getElem?_eq_none_iff.1 hm)]
      | some l₀ =>
        have hset := Errand.midway_flatten_set t hm l
        rw [show l₀ = [] by simpa [monitor, hm] using hidle, hnone] at hset
        exact hset
  · exact absurd rfl (ha hook i)

/-- A step calls a hook only for its own task, and only once the token is tripped. -/
theorem count_called (hook : β → Option TaskId) (hi : f.threads[i]? = some (e :: rest)) (t : TaskId) :
    (f.called (.proceed hook i)).count t = if e.progress = .tripped ∧ e.task = t then 1 else 0 := by
  by_cases hp : e.progress = .tripped <;>
    by_cases he : e.task = t <;> simp [called, errand?_of_threads hi, Option.filter, hp, he]

/-- Whatever happens, the hook of a requested task was called once, or one request is midway that will call it.
-/
theorem Hooked.step (h : Hooked log f) (ho : Ordered n f.pool) (hf : f.Fitting) (a : Act β) :
    Hooked (log ++ f.called a) (f.step a) := by
  intro t
  have ht := h t
  by_cases ha : ∃ hook i, a = .proceed hook i
  · obtain ⟨hook, i, rfl⟩ := ha
    rcases f.step_proceed_cases hook i with ⟨hnone, he⟩ | ⟨e, rest, hi⟩
    · rw [he]
      simpa [called, hnone] using ht
    · have hset := Errand.midway_flatten_set t hi ((e.proceed hook f.pool).2.toList ++ rest)
      have hmove := (hf.of_threads hi).midway_proceed hook t
      have hcons : Errand.midway t (e :: rest) = Errand.midway t [e] + Errand.midway t rest :=
        Errand.midway_append t [e] rest
      rw [Errand.midway_append] at hset
      rw [List.count_append, count_called hook hi, step_proceed hook hi]
      dsimp only
      omega
  · have ha' : ∀ hook i, a ≠ .proceed hook i := fun hook i he => ha ⟨hook, i, he⟩
    have hcalled : f.called a = [] := by
      cases a with
      | proceed hook i => exact absurd rfl (ha' hook i)
      | _ => rfl
    rw [hcalled, List.append_nil, midway_step_of_ne ho ha', (moves_step f a).isRequested ha', ht]

/-- No hook is called twice. -/
theorem Hooked.nodup (h : Hooked log f) : log.Nodup := by
  rw [List.nodup_iff_count_le_one]
  intro t
  have ht := h t
  split at ht <;> omega

/-- The token is tripped when the hook is called. -/
theorem Fitting.isTripped_of_called (h : f.Fitting) {a : Act β} (ht : t ∈ f.called a) : f.pool.isTripped t := by
  cases a with
  | proceed hook i =>
    rcases f.step_proceed_cases hook i with ⟨hnone, -⟩ | ⟨e, rest, hi⟩
    · simp [called, hnone] at ht
    · have hfits := h.of_threads hi
      by_cases hp : e.progress = .tripped
      · have he : t = e.task := by simpa [called, errand?_of_threads hi, Option.filter, hp] using ht
        exact he ▸ hfits.tripped hp
      · simp [called, errand?_of_threads hi, Option.filter, hp] at ht
  | _ => cases ht

/-! ## The errands of the deadline monitor -/

/-- The deadline monitor gets errands when it looks at the pool, and loses them by going on. -/
theorem monitor_step (f : Supervised β) (hpos : 0 < f.threads.length) (a : Act β) :
    ((f.step a).monitor = f.monitor ∧ f.picked a = [] ∧ ∀ hook, a = .proceed hook 0 → f.monitor = []) ∨
    (f.IsWatching ∧ a = .look ∧ (f.step a).monitor = f.pool.expiredTasks.map ({ task := · })) ∨
    ∃ hook e rest, a = .proceed hook 0 ∧ f.monitor = e :: rest ∧
      (f.step a).monitor = (e.proceed hook f.pool).2.toList ++ rest := by
  have hmore (l : List Errand) : (f.threads ++ [l])[0]?.getD [] = f.monitor := by
    rw [List.getElem?_append_left hpos, monitor]
  cases a with
  | cancel t =>
    refine .inl ⟨?_, rfl, by simp⟩
    rw [step]
    split
    · exact hmore _
    · rfl
  | drain interrupt => exact .inl ⟨hmore _, rfl, by simp⟩
  | look =>
    by_cases hw : f.IsWatching
    · exact .inr (.inl ⟨hw, rfl, by simp [step, hw, monitor, hpos]⟩)
    · exact .inl ⟨by simp [step, hw], by simp [picked, hw], by simp⟩
  | proceed hook i =>
    rcases f.step_proceed_cases hook i with ⟨hnone, he⟩ | ⟨e, rest, hi⟩
    · refine .inl ⟨by rw [he], rfl, fun hook' h => ?_⟩
      cases h
      simp only [errand?, Option.bind_eq_none_iff] at hnone
      cases hl : f.threads[0]? with
      | none => simp [monitor, hl]
      | some l => simpa [monitor, hl] using hnone l hl
    · cases i with
      | zero =>
        have hlt := (List.getElem?_eq_some_iff.1 hi).1
        exact .inr (.inr ⟨hook, e, rest, rfl, by simp [monitor, hi], by
          simp [step_proceed hook hi, monitor, hlt]⟩)
      | succ i =>
        refine .inl ⟨?_, rfl, by simp⟩
        rw [step_proceed hook hi]
        simp [monitor]
  | submit | returns =>
    refine .inl ⟨?_, rfl, by simp⟩
    rw [step]
    split <;> rfl
  | _ => exact .inl ⟨rfl, rfl, by simp⟩

/-- Whether a task has been requested, or the deadline monitor is about to do so, or the pool is shut down. -/
def Pending (f : Supervised β) (t : TaskId) : Prop :=
  f.pool.isRequested t ∨ f.pool.down ∨ ∃ e ∈ f.monitor, e.task = t ∧ e.progress = .due

/-- Every running task that is known to be cancelled is requested in time. -/
structure Requested (f : Supervised β) : Prop where
  attended : 0 < f.threads.length
  cancelled : ∀ b ∈ f.pool.running, b.cancelledAt.isSome → f.Pending b.task

/-- The deadline monitor is the first of the threads. -/
theorem threads_of_monitor (h : f.monitor = e :: rest) : f.threads[0]? = some (e :: rest) := by
  unfold monitor at h
  cases hl : f.threads[0]? with
  | none => simp [hl] at h
  | some l => simpa [hl] using h

/-- A task that the deadline monitor is about to request stays so until it is requested. -/
theorem Requested.pending_step (h : f.Requested) (hf : f.Fitting) (a : Act β) (ht : f.Pending t) :
    (f.step a).Pending t := by
  rcases ht with hreq | hdown | ⟨e, he, rfl, hdue⟩
  · exact .inl ((moves_step f a).grows.requested t hreq)
  · exact .inr (.inl ((moves_step f a).down hdown))
  · rcases monitor_step f h.attended a with ⟨hsame, -⟩ | ⟨hw, -⟩ | ⟨hook, e₀, rest, rfl, hm, hm'⟩
    · exact .inr (.inr ⟨e, hsame ▸ he, rfl, hdue⟩)
    · simp [hw.2] at he
    · have hi := threads_of_monitor hm
      rcases List.mem_cons.1 (hm ▸ he) with rfl | he
      · have hfits := hf.of_threads hi
        refine .inl ?_
        rw [step_proceed hook hi]
        exact (e.isRequested_proceed_iff hook f.pool e.task).2 (.inr ⟨hdue, rfl, hfits.lt⟩)
      · exact .inr (.inr ⟨e, hm' ▸ List.mem_append_right _ he, rfl, hdue⟩)

/-- Whoever cancels a task has requested it or is about to do so. -/
theorem pending_of_cancelled (hpos : 0 < f.threads.length) (hf : f.Fitting) {a : Act β}
    (ht : t ∈ (f.cancelled a).map (·.1)) : (f.step a).Pending t := by
  cases a with
  | look =>
    obtain ⟨hw, -⟩ := mem_picked (a := .look) (by simpa [cancelled] using ht)
    refine .inr (.inr ⟨{ task := t }, ?_, rfl, rfl⟩)
    simpa [step, monitor, hw, hpos, cancelled, picked] using ht
  | drain interrupt =>
    refine .inr (.inl ?_)
    show (f.pool.drain interrupt).down
    rw [drain, foldl_noteCancelled]
  | proceed hook i =>
    rcases f.step_proceed_cases hook i with ⟨hnone, -⟩ | ⟨e, rest, hi⟩
    · simp [cancelled, hnone] at ht
    · have hfits := hf.of_threads hi
      obtain ⟨⟨hr, -⟩, rfl⟩ : (e.Records ∧ e.task ∉ f.pool.queue) ∧ e.task = t := by
        simpa [cancelled, errand?_of_threads hi, Option.filter_eq_some_iff] using ht
      exact .inl ((moves_step f _).grows.requested e.task (hfits.requested (by simp [hr.2])))
  | _ => cases ht

/-- Whatever happens, a running task that is known to be cancelled is requested in time. -/
theorem Requested.step (h : f.Requested) (ho : Ordered n f.pool) (hf : f.Fitting) (a : Act β) :
    (f.step a).Requested := by
  have hg := (moves_step f a).grows
  constructor
  · rcases threads_step ho a with hsame | ⟨l, -, hnew | ⟨-, hnew⟩⟩ | ⟨hook, i, e, rest, rfl, hi⟩
    · exact hsame ▸ h.attended
    · simp [hnew]
    · simpa [hnew] using h.attended
    · simpa [step_proceed hook hi] using h.attended
  · intro b hb hsome
    rcases mem_running_step f a hb with ⟨c, hc, rfl⟩ | ⟨-, hnone⟩
    · rw [Assignment.task_stamped]
      by_cases hold : c.cancelledAt.isSome
      · exact h.pending_step hf a (h.cancelled c hc hold)
      · refine pending_of_cancelled h.attended hf (by_contra fun hmem => hold ?_)
        rwa [Assignment.stamped_of_notMem hmem] at hsome
    · simp [hnone] at hsome

end Supervised

end Pool

end BatchTraversal
