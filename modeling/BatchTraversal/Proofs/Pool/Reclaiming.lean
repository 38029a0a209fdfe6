import BatchTraversal.Proofs.Pool.Requests
import Mathlib.Algebra.GroupWithZero.Nat

/-!
# Reclamation is neither early nor repeated

The deadline monitor of a pool cancels tasks that are past their deadline and gives up workers whose cancelled tasks
have not come back. While it does so, handles and shutdowns cancel tasks too, in steps that come between its own, and
tasks end between being listed and being cancelled. Whatever happens, it is never early, it does nothing twice, and
it comes to rest (`reclamation`).

That it comes to rest is counted by `Supervised.toil`: the steps of the errands that the monitor has in hand, and five
steps for every running task that nobody has cancelled, which are a look at the pool and an errand.
-/

namespace BatchTraversal

namespace Pool

variable {β γ : Type} {p q : Pool β} {t u : TaskId} {n : Nat} {e : Errand}

/-! ## Giving up one worker -/

theorem isStuck_iff {a : Assignment} :
    p.isStuck a ↔ ∃ at', a.cancelledAt = some at' ∧ at' + p.settings.grace.nanos ≤ p.now := by
  simp [isStuck, Option.any_eq_true]

/-- A task that is known to be cancelled runs on as it is when others are noted. -/
theorem mem_running_foldl_noteCancelled {a : Assignment} (ha : a ∈ p.running) (hsome : a.cancelledAt.isSome)
    (ts : List TaskId) : a ∈ (ts.foldl noteCancelled p).running := by
  rw [foldl_noteCancelled]
  exact List.mem_map.2 ⟨a, ha, Assignment.stamped_of_isSome hsome⟩

/-- A running task has one assignment, so to leave out its assignments is to leave out that one. -/
theorem Staffed.filter_task_ne (h : Staffed p) {a : Assignment} (ha : a ∈ p.running) :
    p.running.filter (·.task ≠ a.task) = p.running.erase a := by
  rw [(List.Nodup.of_map _ h.nodup_running).erase_eq_filter]
  refine List.filter_congr fun b hb => ?_
  have hsame : b.task = a.task ↔ b = a :=
    ⟨fun he => List.inj_on_of_nodup_map h.nodup_running hb ha he, fun he => he ▸ rfl⟩
  exact Bool.eq_iff_iff.2 (by simp [hsame])

/-- Of the workers that a look gives up, each is given up with its task: one task runs no longer, and one worker is
replaced by a new one. -/
theorem Ordered.abandon_one (h : Ordered n p) {done rest : List Assignment} {a : Assignment}
    (hs : p.running.filter p.isStuck = done ++ a :: rest) :
    let q := done.foldl abandon (p.expiredTasks.foldl noteCancelled p)
    a ∈ q.running ∧ (q.abandon a).running = q.running.erase a ∧ a.worker ∈ q.workers ∧
      q.spawned ∉ q.workers ∧ (q.abandon a).workers = q.workers.erase a.worker ++ [q.spawned] := by
  intro q
  obtain ⟨r, hr⟩ : ∃ r, p.expiredTasks.foldl noteCancelled p = r := ⟨_, rfl⟩
  have hordered : Ordered n r := hr ▸ h.foldl_noteCancelled p.expiredTasks
  -- it is known of a stuck task when it was cancelled, so the look notes nothing new
  have hstuck {b : Assignment} (hb : b ∈ done ++ a :: rest) : b ∈ r.running := by
    obtain ⟨hb, hstuck⟩ := List.mem_filter.1 (hs ▸ hb)
    obtain ⟨at', hat, -⟩ := isStuck_iff.1 hstuck
    exact hr ▸ mem_running_foldl_noteCancelled hb (by simp [hat]) _
  have hpost {b : Assignment} (hb : b ∈ r.running) : (b.worker, b.task) ∈ r.posts :=
    mem_posts.2 ⟨b, hb, rfl, rfl⟩
  have hnodup : ((done ++ a :: rest).map (·.task)).Nodup :=
    hs ▸ h.nodup_running.sublist (List.filter_sublist.map _)
  rw [List.map_append, List.nodup_append] at hnodup
  obtain ⟨hstaffed, hcomplete⟩ := Staffed.foldl_abandon (P := Complete n) (fun hq hc ha => hc.abandon hq ha)
    hordered.toStaffed hordered.toComplete (fun b hb => hpost (hstuck (List.mem_append_left _ hb))) hnodup.1
  have hq : q = done.foldl abandon r := by rw [← hr]
  rw [← hq] at hstaffed hcomplete
  have ha : a ∈ q.running := by
    rw [hq, running_foldl_abandon]
    refine List.mem_filter.2 ⟨hstuck (List.mem_append_right _ List.mem_cons_self), ?_⟩
    have hlater : a.task ∉ done.map (·.task) := fun hmem =>
      hnodup.2.2 a.task hmem a.task (List.mem_map_of_mem List.mem_cons_self) rfl
    simpa using hlater
  have hworker : a.worker ∈ q.workers :=
    (hstaffed.mem_posts_iff.1 (mem_posts.2 ⟨a, ha, rfl, rfl⟩)).2
  have hleft : Complete n { q.markDone a.task with running := q.running.filter (·.task ≠ a.task) } :=
    hcomplete.congr rfl
  exact ⟨ha, hstaffed.filter_task_ne ha, hworker, fun hmem => Nat.lt_irrefl _ (hstaffed.worker_lt _ hmem),
    hleft.workers_replaceWorker a.worker⟩

/-! ## The toil of the deadline monitor -/

/-- The number of steps that an errand takes at most. -/
def Errand.left (e : Errand) : Nat :=
  match e.progress with
  | .due => 4
  | .asked => 3
  | .tripped => 2
  | .requested _ => 1

theorem Errand.left_proceed (hook : β → Option TaskId) (p : Pool β) (e : Errand) :
    1 + ((e.proceed hook p).2.toList.map left).sum ≤ e.left := by
  unfold proceed left
  cases e.progress with
  | due =>
    dsimp only
    split <;> simp
  | asked | tripped | requested => simp

namespace Supervised

variable {f : Supervised β} {i : Nat} {rest : List Errand}

/-- The running tasks that are not known to be cancelled. -/
def uncancelled (f : Supervised β) : Nat := f.pool.running.countP (·.cancelledAt.isNone)

/-- What the deadline monitor has to do at most before it sleeps, as long as no task begins. -/
def toil (f : Supervised β) : Nat := (f.monitor.map Errand.left).sum + 5 * f.uncancelled

/-- The acts that keep the deadline monitor from sleeping: a look at which it picks something, and its errands. -/
def restless (f : Supervised β) : Act β → List (Act β)
  | .look => if f.picked .look = [] then [] else [.look]
  | .proceed hook 0 => if f.monitor = [] then [] else [.proceed hook 0]
  | _ => []

/-- What is picked was not known to be cancelled, and is so then. -/
theorem countP_stamped_add_picked (f : Supervised β) (a : Act β) :
    (f.pool.running.map (·.stamped ((f.cancelled a).map (·.1)) f.pool.now)).countP (·.cancelledAt.isNone) +
      (f.picked a).length ≤ f.uncancelled := by
  rw [List.countP_map]
  have hstamped (b : Assignment) : (b.stamped ((f.cancelled a).map (·.1)) f.pool.now).cancelledAt.isNone →
      b.cancelledAt.isNone ∧ b.task ∉ (f.cancelled a).map (·.1) := by
    rw [Assignment.isNone_stamped]
    simp
  by_cases hnone : f.picked a = []
  · rw [hnone]
    exact List.countP_mono_left fun b _ hb => (hstamped b hb).1
  -- the picked tasks are the expired ones, the others stay at most as they are
  · have hpicked : f.picked a = f.pool.expiredTasks := by
      cases a with
      | look =>
        simp only [picked] at hnone ⊢
        split at hnone
        · next hw => rw [if_pos hw]
        · exact absurd rfl hnone
      | _ => exact absurd rfl hnone
    have hexpired : (f.pool.running.filter f.pool.isExpired).countP (·.cancelledAt.isNone) =
        (f.picked a).length := by
      rw [hpicked, expiredTasks, List.length_map, List.countP_eq_length]
      intro b hb
      simp [(isExpired_iff.1 (List.mem_filter.1 hb).2).1]
    have hsplit := List.countP_eq_countP_filter_add f.pool.running (·.cancelledAt.isNone) f.pool.isExpired
    rw [uncancelled, hsplit, hexpired, Nat.add_comm]
    refine Nat.add_le_add_left ?_ _
    rw [List.countP_filter]
    refine List.countP_mono_left fun b hb hs => ?_
    obtain ⟨hopen, hother⟩ := hstamped b hs
    have hfresh : ¬ f.pool.isExpired b := fun he =>
      hother (mem_cancelled_of_picked (hpicked ▸ List.mem_map_of_mem (List.mem_filter.2 ⟨hb, he⟩)))
    simpa [hopen] using hfresh

theorem uncancelled_step (f : Supervised β) (a : Act β) :
    (f.step a).uncancelled + (f.picked a).length ≤ f.uncancelled + (f.begun a).length := by
  obtain ⟨new, hnew, -, hsub⟩ := (moves_step f a).running
  have hlength : new.length = (f.begun a).length := by rw [← hnew, List.length_map]
  have hbegun : new.countP (·.cancelledAt.isNone) ≤ new.length := List.countP_le_length
  have hle : (f.step a).uncancelled ≤ _ := hsub.countP_le
  rw [List.countP_append] at hle
  have hpicked := countP_stamped_add_picked f a
  omega

theorem toil_step (f : Supervised β) (hpos : 0 < f.threads.length) (a : Act β) :
    (f.restless a).length + (f.step a).toil ≤ f.toil + 5 * (f.begun a).length := by
  have huncancelled := uncancelled_step f a
  unfold toil
  rcases monitor_step f hpos a with ⟨hsame, hnone, hidle⟩ | ⟨hw, rfl, hm⟩ | ⟨hook, e, rest, rfl, hm, hm'⟩
  · have hquiet : f.restless a = [] := by
      cases a with
      | look => simp [restless, hnone]
      | proceed hook i =>
        cases i with
        | zero => simp [restless, hidle hook rfl]
        | succ i => rfl
      | _ => rfl
    rw [hquiet, hsame]
    simp only [List.length_nil]
    omega
  · have hpicked : f.picked .look = f.pool.expiredTasks := by simp [picked, hw]
    have herrands : ((f.step .look).monitor.map Errand.left).sum = 4 * (f.picked .look).length := by
      rw [hm, hpicked]
      simp [Errand.left, Function.comp_def, Nat.mul_comm]
    have hrestless : (f.restless (.look : Act β)).length ≤ (f.picked .look).length := by
      simp only [restless]
      split
      · simp
      · next hne => exact List.length_pos_iff.2 hne
    have hidle : (f.monitor.map Errand.left).sum = 0 := by simp [hw.2]
    omega
  · have hleft := e.left_proceed hook f.pool
    have hrestless : (f.restless (.proceed hook 0)).length = 1 := by simp [restless, hm]
    rw [hm', hm, hrestless]
    simp only [List.map_append, List.sum_append, List.map_cons, List.sum_cons]
    simp only [picked, List.length_nil] at huncancelled
    omega

/-! ## Runs -/

/-- What holds of a pool with its threads at every moment. -/
structure Regular (n : Nat) (f : Supervised β) : Prop extends Requested f where
  ordered : Ordered n f.pool
  fitting : f.Fitting

theorem Regular.step (h : f.Regular n) (a : Act β) : (f.step a).Regular n where
  toRequested := h.toRequested.step h.ordered h.fitting a
  ordered := (moves_step f a).ordered h.ordered
  fitting := h.fitting.step h.ordered a

theorem regular_start {settings : PoolSettings} (h : Pool.start settings = .ok p) :
    Regular settings.workers { pool := p } := by
  refine ⟨⟨Nat.zero_lt_one, fun b hb => ?_⟩, ordered_start h, nofun⟩
  rw [start_eq_ok h] at hb
  cases hb

theorem Regular.run (h : f.Regular n) (as : List (Act β)) : (f.run as).Regular n := by
  induction as generalizing f with
  | nil => exact h
  | cons a as ih => exact ih (h.step a)

/-- When the deadline monitor looks at the pool, every running task that is known to be cancelled has been
requested. -/
theorem Requested.isRequested_of_isWatching (h : f.Requested) (hw : f.IsWatching) {b : Assignment}
    (hb : b ∈ f.pool.running) (hsome : b.cancelledAt.isSome) : f.pool.isRequested b.task := by
  rcases h.cancelled b hb hsome with hreq | hdown | ⟨e, he, -⟩
  · exact hreq
  · simp [hw.1] at hdown
  · simp [hw.2] at he

/-- Workers are given up at a look of the deadline monitor. -/
theorem abandoned_eq {a : Act β} (h : f.abandoned a ≠ []) : f.IsWatching ∧ (f.step a).pool = f.pool.look ∧
    f.abandoned a = f.pool.running.filter f.pool.isStuck ∧ f.picked a = f.pool.expiredTasks := by
  cases a with
  | look =>
    by_cases hw : f.IsWatching
    · exact ⟨hw, by simp [step, hw], by simp [abandoned, hw], by simp [picked, hw]⟩
    · simp [abandoned, hw] at h
  | _ => exact absurd rfl h

/-- At first nothing is logged. -/
theorem logs_start {settings : PoolSettings} (h : Pool.start settings = .ok p) :
    Picked [] { pool := p } ∧ Accounted [] { pool := p } ∧ Dated settings [] { pool := p } ∧
      Hooked [] { pool := p } := by
  obtain rfl := start_eq_ok h
  refine ⟨⟨List.nodup_nil, nofun, nofun, nofun⟩, nofun, ⟨rfl, rfl, rfl⟩, fun t => ?_⟩
  simp [Errand.midway, isRequested]

/-- What every act keeps of a log and a pool is kept by a run. -/
theorem Regular.along_run {g : Supervised β → Act β → List γ} {I : List γ → Supervised β → Prop}
    (hstep : ∀ {log : List γ} {f : Supervised β} (a : Act β), f.Regular n → I log f → I (log ++ g f a) (f.step a))
    (hr : f.Regular n) {log : List γ} (h : I log f) (as : List (Act β)) :
    I (log ++ f.along g as) (f.run as) := by
  induction as generalizing f log with
  | nil => rwa [along, List.append_nil]
  | cons a as ih =>
    have hrest := ih (hr.step a) (hstep a hr h)
    rwa [List.append_assoc] at hrest

/-- The deadline monitor comes to rest: whatever happens, the steps that it takes without sleep are as many as there
were at first to take, and five for every task that begins meanwhile. -/
theorem Regular.length_restless_le (h : f.Regular n) (as : List (Act β)) :
    (f.along restless as).length + (f.run as).toil ≤ f.toil + 5 * (f.along begun as).length := by
  induction as generalizing f with
  | nil => simp [along]
  | cons a as ih =>
    have hrest := ih (h.step a)
    have hstep := toil_step f h.attended a
    rw [run_cons, along, along, List.length_append, List.length_append]
    omega

end Supervised

/-- **Reclamation is neither early nor repeated.** At every moment of a run, over any readings of the clock, the
deadline monitor picks a task only if it is running, is not known to be cancelled and was submitted at least the
configured lifetime ago, and it picks no task twice. It gives up a worker only if the worker's task is running, has
been requested, and was cancelled by a handle, by the monitor or by a shutdown at least the grace period ago; and that
removes this task and this worker, one after the other for all that it gives up. The monitor comes to rest unless tasks
keep beginning: its looks at which it picks something and the steps of its requests are bounded by what it has in hand,
what runs and what begins. And whoever cancels tasks, no hook is called twice, and none before its token is tripped. -/
theorem reclamation {settings : PoolSettings} (hp : Pool.start settings = .ok p)
    (before : List (Supervised.Act β)) :
    let s : Supervised β := { pool := p }
    let f := s.run before
    (∀ a, ∀ t ∈ f.picked a, (∃ b ∈ f.pool.running, b.task = t ∧ b.cancelledAt = none) ∧
      ∃ read lifetime, (t, read) ∈ s.along Supervised.submitted before ∧
        settings.lifetime = some lifetime ∧ read + lifetime.nanos ≤ f.pool.now) ∧
    (s.along Supervised.picked before).Nodup ∧
    (∀ a, ∀ b ∈ f.abandoned a, b ∈ f.pool.running ∧ f.pool.isRequested b.task ∧
      ∃ who at', b.cancelledAt = some at' ∧ (b.task, who, at') ∈ s.along Supervised.cancelled before ∧
        at' + settings.grace.nanos ≤ f.pool.now) ∧
    (∀ a done b rest, f.abandoned a = done ++ b :: rest →
      let q := done.foldl abandon ((f.picked a).foldl noteCancelled f.pool)
      b ∈ q.running ∧ (q.abandon b).running = q.running.erase b ∧ b.worker ∈ q.workers ∧
        q.spawned ∉ q.workers ∧ (q.abandon b).workers = q.workers.erase b.worker ++ [q.spawned] ∧
        (f.step a).pool = rest.foldl abandon (q.abandon b)) ∧
    (∀ later, (f.along Supervised.restless later).length ≤
      f.toil + 5 * (f.along Supervised.begun later).length) ∧
    (s.along Supervised.called before).Nodup ∧ ∀ a, ∀ t ∈ f.called a, f.pool.isTripped t := by
  intro s f
  have hs : s.Regular settings.workers := Supervised.regular_start hp
  have hf : f.Regular settings.workers := hs.run before
  -- the four logs of the run, each kept by every act
  obtain ⟨hpicked, haccounted, hdated, hhooked⟩ : f.Picked (s.along Supervised.picked before) ∧
      f.Accounted (s.along Supervised.cancelled before) ∧
      f.Dated settings (s.along Supervised.submitted before) ∧
      Supervised.Hooked (s.along Supervised.called before) f := by
    obtain ⟨hpicked, haccounted, hdated, hhooked⟩ := Supervised.logs_start hp
    exact ⟨hs.along_run (fun a hr h => h.step hr.ordered a) hpicked before,
      hs.along_run (fun a _ h => h.step a) haccounted before,
      hs.along_run (fun a _ h => h.step a) hdated before,
      hs.along_run (fun a hr h => h.step hr.ordered hr.fitting a) hhooked before⟩
  refine ⟨fun a t ht => ?_, hpicked.nodup, fun a b hb => ?_, fun a done b rest hab => ?_, fun later => ?_,
    hhooked.nodup, fun a t ht => hf.fitting.isTripped_of_called ht⟩
  · obtain ⟨-, b, hb, rfl, hexpired⟩ := Supervised.mem_picked ht
    obtain ⟨hnone, deadline, hdeadline, hpast⟩ := Supervised.isExpired_iff.1 hexpired
    obtain ⟨read, lifetime, hread, hlifetime, rfl⟩ := hdated.exists_read hdeadline
    exact ⟨⟨b, hb, rfl, hnone⟩, read, lifetime, hread, hlifetime, hpast⟩
  · obtain ⟨hw, -, hstuck, -⟩ := Supervised.abandoned_eq (List.ne_nil_of_mem hb)
    obtain ⟨hb, hb'⟩ := List.mem_filter.1 (hstuck ▸ hb)
    obtain ⟨at', hat, hgrace⟩ := isStuck_iff.1 hb'
    obtain ⟨who, hwho⟩ := haccounted b hb at' hat
    exact ⟨hb, hf.isRequested_of_isWatching hw hb (by simp [hat]), who, at', hat, hwho, hdated.kept ▸ hgrace⟩
  · obtain ⟨-, hstep, hstuck, hexpired⟩ := Supervised.abandoned_eq (f := f) (a := a) (by simp [hab])
    obtain ⟨hb, hrunning, hworker, hnew, hworkers⟩ := hf.ordered.abandon_one (hstuck.symm.trans hab)
    rw [hexpired]
    refine ⟨hb, hrunning, hworker, hnew, hworkers, ?_⟩
    rw [hstep, look, ← hstuck, hab, List.foldl_append, List.foldl_cons]
  · have hbound := hf.length_restless_le later
    omega

/-- Two workers, a lifetime of ten seconds and a grace period of five. A handle cancels the second task after three
seconds; after ten the monitor picks the first one and gives up the worker of the second, then cancels what it picked
and finds nothing more. -/
theorem reclamation_both :
    let settings : PoolSettings :=
      { name := "pool", workers := 2, lifetime := some (.ofSeconds 10), grace := .ofSeconds 5 }
    let p : Pool Unit := { settings, workers := [0, 1], spawned := 2 }
    let s : Supervised Unit := { pool := p }
    let go (i : Nat) : Supervised.Act Unit := .proceed (fun _ => none) i
    let before : List (Supervised.Act Unit) := [.submit () 0, .submit () 0, .take 0, .take 1,
      .tick (.ofSeconds 3), .cancel 1, go 1, go 1, go 1, go 1, .tick (.ofSeconds 7)]
    let later : List (Supervised.Act Unit) := [.look, go 0, go 0, go 0, go 0, .look]
    let f := s.run before
    Pool.start settings = .ok p ∧ f.picked .look = [0] ∧ f.abandoned .look = [⟨1, 1, some 3000000000⟩] ∧
      (∃ read lifetime, (0, read) ∈ s.along Supervised.submitted before ∧
        settings.lifetime = some lifetime ∧ read + lifetime.nanos ≤ f.pool.now) ∧
      (∃ who at', some 3000000000 = some at' ∧ (1, who, at') ∈ s.along Supervised.cancelled before ∧
        at' + settings.grace.nanos ≤ f.pool.now) ∧
      (f.run later).pool.running = [⟨0, 0, some 10000000000⟩] ∧ (f.run later).pool.workers = [0, 2] ∧
      s.along Supervised.called (before ++ later) = [1, 0] ∧
      (f.along Supervised.restless later).length = 5 ∧ f.toil = 5 := by
  intro settings p s go before later f
  have hp : Pool.start settings = .ok p := rfl
  obtain ⟨hpicked, -, habandoned, -⟩ := reclamation hp before
  have hpick : f.picked .look = [0] := by decide
  have habandon : f.abandoned .look = [⟨1, 1, some 3000000000⟩] := by decide
  obtain ⟨-, hsubmitted⟩ := hpicked .look 0 (hpick ▸ List.mem_cons_self)
  obtain ⟨-, -, hcancelled⟩ := habandoned .look ⟨1, 1, some 3000000000⟩ (habandon ▸ List.mem_cons_self)
  exact ⟨hp, hpick, habandon, hsubmitted, hcancelled, by decide, by decide, by decide,
    by decide, by decide⟩

end Pool

end BatchTraversal
