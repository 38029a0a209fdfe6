import BatchTraversal.Proofs.Process.Reuse
import BatchTraversal.Proofs.World.Interruption
import Mathlib.Data.List.Induction

/-!
# Traversers along a run

Of two batches that run on the same traverser, the earlier one reported before the later one was
submitted, or it never began, unless a call or a detection made the coordinator give it up after it had
left the queue and the coordinator kept the traverser (`World.traverser_reused`). That is what becomes of
a batch whose connector gets another schedule: the next batch is submitted for its traverser at once
(`World.traverser_reused_early`).
-/

namespace BatchTraversal

/-- Every administrative call is of a kind that may interrupt a batch. -/
theorem Action.IsCall.interrupts {a : Action} (h : a.IsCall) : a.Interrupts := by
  cases a with
  | setConfig | setSchedule | remove | restart => trivial
  | _ => cases h

namespace Scheduler

variable {p : Scheduler} {c : CoordinatorId}

/-- A batch that was submitted is there, for the traverser it was submitted for. -/
theorem post?_submit {k : Coordinator} {r : TraverserId} {maxItems : Nat} {metered : Bool}
    (h : (p.submit c k r maxItems metered).1 = .ok true) :
    (p.submit c k r maxItems metered).2.post? p.pool.tasks.length = some (c, r) := by
  rcases p.submit_cases c k r maxItems metered with he | ⟨t, pool, hs, he⟩ <;> rw [he] at h ⊢
  · cases h
  · have ht := (Pool.submit_eq_some hs).1
    rw [post?, batch?, ← ht, Pool.payload?_submit hs, if_pos rfl]
    rfl

/-- A coordinator that started a batch submitted it. -/
theorem startBatch_submits {maxItems : Nat} {metered : Bool} {clock : Clock}
    (h : (p.startBatch c maxItems metered clock).1 = .ok true) :
    ∃ r, (p.startBatch c maxItems metered clock).2.post? p.pool.tasks.length = some (c, r) := by
  rcases p.startBatch_cases c maxItems metered clock with ⟨e, he⟩ | he |
    ⟨k, -, -, -, -, ⟨e, q, -, he⟩ | ⟨r, q, htr, he⟩⟩ <;> rw [he] at h ⊢
  · cases h
  · cases h
  · cases h
  · have hpool := (pool_traverserFor (p.reap c clock.now) c k).trans (pool_reap ..)
    rw [htr] at hpool
    exact ⟨r, hpool ▸ post?_submit h⟩

end Scheduler

namespace World

variable {w : World} {events : List Event} {i : Nat} {p : Scheduler}

/-- Whether a coordinator of the process at a place was made to give up a batch that had left the queue,
by a call or by a detection, and kept its traverser. -/
def Forsook (w : World) (events : List Event) (i : Nat) (t : TaskId) : Prop :=
  ∃ before a after s, events = before ++ .act i a :: after ∧ a.Interrupts ∧
    (w.run before).site? i = some s ∧ s.scheduler.Forsakes (s.act a).scheduler t

theorem Forsook.concat {t : TaskId} (h : w.Forsook events i t) (e : Event) :
    w.Forsook (events ++ [e]) i t := by
  obtain ⟨before, a, after, s, rfl, hrest⟩ := h
  exact ⟨before, a, after ++ [e], s, by simp, hrest⟩

/-- At every moment of every run, the traversers of a process are reserved but for the batches that were
forsaken. -/
theorem run_reserved (hw : w.Initial) (hp : (w.run events).schedulers[i]? = some p) :
    p.Sourced ∧ p.Reserved (w.Forsook events i) := by
  induction events using List.reverseRecOn generalizing p with
  | nil =>
    have hstart := hw p (List.mem_of_getElem? hp)
    exact ⟨Scheduler.sourced_start hstart, Scheduler.reserved_start hstart⟩
  | append_singleton events e ih =>
    rw [run_concat] at hp
    rcases step_schedulers (w.run events) e i hp with ⟨a, s, rfl, hs, -, rfl⟩ | hsame
    · have hs₀ := (site?_eq_some.1 hs).1
      obtain ⟨hsourced, hres⟩ := ih hs₀
      have ho := run_orderly hw events _ (List.mem_of_getElem? hs₀)
      refine ⟨Site.act_sourced ho.registered hsourced a,
        (Site.act_reserved ho.flight ho.registered hsourced hres a (Site.orderly_act ho a).flight).mono ?_⟩
      rintro t (hlost | ⟨ha, hlost⟩)
      · exact hlost.concat _
      · refine ⟨events, a, [], s, rfl, ?_, hs, hlost⟩
        rcases ha with rfl | ha
        · trivial
        · exact ha.interrupts
    · obtain ⟨hsourced, hres⟩ := ih hsame
      exact ⟨hsourced, hres.mono fun t h => h.concat e⟩

/-- At every moment of every run, and for every two batches of a process that were submitted for the same
traverser: the earlier one returned and was counted, or it was dropped from the queue, or a call or a
detection made its coordinator give it up after it had left the queue, and keep the traverser. In
particular, a batch that is started at that moment is submitted for a traverser all of whose earlier
batches are such. -/
theorem traverser_reused (hw : w.Initial) {s : Site} (hs : (w.run events).site? i = some s) :
    (∀ t u c d r, s.scheduler.post? t = some (c, r) → s.scheduler.post? u = some (d, r) → t < u →
      s.scheduler.Reported t ∨ s.scheduler.Dropped t ∨ w.Forsook events i t) ∧
    ∀ c maxItems metered q, s.scheduler.startBatch c maxItems metered s.clock = (.ok true, q) →
      ∃ r, q.post? s.scheduler.pool.tasks.length = some (c, r) ∧
        ∀ t d, s.scheduler.post? t = some (d, r) →
          q.Reported t ∨ q.Dropped t ∨ w.Forsook events i t := by
  obtain ⟨hsourced, hres⟩ := run_reserved hw (site?_eq_some.1 hs).1
  refine ⟨fun t u c d r ht hu hlt => or_assoc.1 (hres.ordered t u c d r ht hu hlt),
    fun c maxItems metered q hq => ?_⟩
  have hstart := (s.startBatch_visits c maxItems metered).upkeeps
  obtain ⟨r, hnew⟩ := Scheduler.startBatch_submits (congrArg Prod.fst hq)
  rw [hq] at hstart hnew
  have hres' : q.Reserved (w.Forsook events i) := Site.Upkeeps.reserved hstart hsourced hres
  refine ⟨r, hnew, fun t d ht => or_assoc.1 (hres'.ordered t _ d c r ?_ hnew (Scheduler.lt_of_post? ht))⟩
  exact (Site.Upkeeps.sourced hstart hsourced).1.post? t _ ht

/-- The batch after the first one runs on the same traverser, and the first one has reported. -/
theorem traverser_reused_firstPage : ∃ s q, (solo.run firstPage).site? 0 = some s ∧
    s.scheduler.startBatch 0 5 true s.clock = (.ok true, q) ∧ s.scheduler.post? 0 = some (0, 0) ∧
    q.post? 1 = some (0, 0) ∧
    (q.Reported 0 ∨ q.Dropped 0 ∨ solo.Forsook firstPage 0 0) ∧ q.folds 0 = [3] := by
  obtain ⟨s, hs⟩ : ∃ s, (solo.run firstPage).site? 0 = some s := ⟨_, rfl⟩
  have hshown : ((solo.run firstPage).site? 0).map (fun s =>
      let q := (s.scheduler.startBatch 0 5 true s.clock).2
      (s.scheduler.pool.tasks.length, s.scheduler.post? 0, q.post? 1, q.folds 0)) =
      some (1, some (0, 0), some (0, 0), [3]) := by decide +kernel
  have hok : ((solo.run firstPage).site? 0).map (fun s =>
      (s.scheduler.startBatch 0 5 true s.clock).1.toOption) = some (some true) := by decide +kernel
  rw [hs, Option.map_some, Option.some.injEq] at hshown hok
  generalize hq : s.scheduler.startBatch 0 5 true s.clock = started at hshown hok
  obtain ⟨_ | started, q⟩ := started
  · cases hok
  cases hok
  obtain ⟨hlength, hfirst, hsecond, hfolds⟩ : _ ∧ _ ∧ _ ∧ _ := by simpa using hshown
  obtain ⟨r, hr, hearlier⟩ := (traverser_reused initial_solo hs).2 0 5 true q hq
  rw [hlength, hsecond] at hr
  cases hr
  exact ⟨s, q, hs, hq, hfirst, hsecond, hearlier 0 0 hfirst, hfolds⟩

/-- The first batch waits for its adapter when its connector gets another schedule. -/
def rescheduled : List Event := firstBatch ++ [.act 0 (.setSchedule "a" "a:100:0:0-24")]

/-- A new schedule interrupts a batch, and the next one is started on the traverser that the first one is
still using. -/
theorem traverser_reused_early : ¬ ∀ (w : World) (events : List Event) (i : Nat) (s : Site)
    (c d : CoordinatorId) (maxItems : Nat) (metered : Bool) (q : Scheduler) (r : TraverserId)
    (t : TaskId), w.Initial → (w.run events).site? i = some s →
    s.scheduler.startBatch c maxItems metered s.clock = (.ok true, q) →
    q.post? s.scheduler.pool.tasks.length = some (c, r) → s.scheduler.post? t = some (d, r) →
    q.Returned t ∧ ¬ q.pool.isExecuting t ∧ ¬ q.Crashed t := by
  intro h
  obtain ⟨s, hs⟩ : ∃ s, (solo.run rescheduled).site? 0 = some s := ⟨_, rfl⟩
  have hshown : ((solo.run rescheduled).site? 0).map (fun s =>
      let q := (s.scheduler.startBatch 0 5 true s.clock).2
      (s.scheduler.pool.tasks.length, s.scheduler.post? 0, q.post? 1, q.pool.isExecuting 0)) =
      some (1, some (0, 0), some (0, 0), true) := by decide +kernel
  have hok : ((solo.run rescheduled).site? 0).map (fun s =>
      (s.scheduler.startBatch 0 5 true s.clock).1.toOption) = some (some true) := by decide +kernel
  rw [hs, Option.map_some, Option.some.injEq] at hshown hok
  generalize hq : s.scheduler.startBatch 0 5 true s.clock = started at hshown hok
  obtain ⟨_ | started, q⟩ := started
  · cases hok
  cases hok
  obtain ⟨hlength, hfirst, hsecond, hexecuting⟩ : _ ∧ _ ∧ _ ∧ _ := by simpa using hshown
  exact (h solo rescheduled 0 s 0 0 5 true q 0 0 initial_solo hs hq (hlength ▸ hsecond) hfirst).2.1
    hexecuting

end World

end BatchTraversal
