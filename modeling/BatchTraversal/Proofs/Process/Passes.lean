import BatchTraversal.Proofs.Process.Enrolled
import BatchTraversal.Proofs.Process.Portraits

/-!
# Passes over the coordinators

A pass looks at one coordinator after the other. What it does for one of them (`Scheduler.consider`) leaves
the others, and it does the same in whatever order they are visited, because a coordinator is left until its
turn comes and after it (`Scheduler.scheduleAll_turn`). A batch is submitted for a coordinator exactly if it
is admitted in the state before the pass (`Scheduler.Admits`).
-/

namespace BatchTraversal

namespace Scheduler

/-- Submits a batch for a coordinator, or backs off if no traverser can be made. -/
def launch (p : Scheduler) (c : CoordinatorId) (k : Coordinator) (maxItems : Nat) (now : Instant) :
    Bool × Scheduler :=
  match p.traverserFor c k with
  | (.error _, q) => (false, q.backOff k.name now)
  | (.ok r, q) =>
    ((q.submit c k r maxItems true).1.toOption.getD false, (q.submit c k r maxItems true).2)

/-- What a pass does for a coordinator once it was reaped. -/
def consider (p : Scheduler) (c : CoordinatorId) (k : Coordinator) (clock : Clock) : Bool × Scheduler :=
  match k.schedule with
  | none => (false, p)
  | some schedule =>
    if k.removed || k.handle.isSome || !schedule.allows clock.hour ||
        p.throttle.delays k.name clock.now then (false, p)
    else
      let throttle := (p.throttle.hint k.name schedule.load clock.now).2
      match (p.throttle.hint k.name schedule.load clock.now).1 with
      | none | some 0 => (false, p.withThrottle throttle)
      | some (m + 1) => (p.withThrottle throttle).launch c k (m + 1) clock.now

/-- Whether a coordinator has a traverser, or one can be made for it. -/
def Equips (p : Scheduler) (k : Coordinator) : Prop :=
  k.traverser.isSome ∨
    ∃ config adapter, k.config = some config ∧ p.kinds.instantiate k.name config = .ok adapter

/-- Whether a batch of at most `m` items may be submitted for a coordinator: after it was reaped it is idle,
it has a schedule that allows the hour, its connector does not back off, the throttle has `m` items to spend,
it has a traverser or one can be made, and the pool is not shut down. -/
def Admits (p : Scheduler) (c : CoordinatorId) (clock : Clock) (m : Nat) : Prop :=
  (p.phase c clock.now).1 = .idle ∧ p.pool.down = false ∧
  ∃ k schedule, (p.reap c clock.now).coordinators[c]? = some k ∧ k.schedule = some schedule ∧
    schedule.allows clock.hour ∧ (p.reap c clock.now).throttle.delays k.name clock.now = false ∧
    ((p.reap c clock.now).throttle.hint k.name schedule.load clock.now).1 = some m ∧ 0 < m ∧
    p.Equips k

/-- What holds of a process between its actions. -/
structure Whole (p : Scheduler) : Prop where
  flight : p.Flight
  registered : p.Registered
  enrolled : p.Enrolled
  sourced : p.Sourced

variable {p q : Scheduler} {c d : CoordinatorId} {k : Coordinator} {clock : Clock} {now : Instant}

/-- Upkeep leaves a process whole. -/
theorem Whole.upkeeps {s s' : Site} (h : s.scheduler.Whole) (hup : Site.Upkeeps s s') :
    s'.scheduler.Whole := by
  have hmoves := Site.Chores.moves hup.chores
  exact ⟨hmoves.flight h.flight, hmoves.registered h.registered, Site.Moves.enrolled hmoves h.enrolled,
    (hup.sourced h.sourced).2⟩

/-- A visit to one coordinator leaves the process whole. -/
theorem Whole.scheduleOne (h : p.Whole) (c : CoordinatorId) (clock : Clock) :
    (p.scheduleOne c clock).2.Whole :=
  Whole.upkeeps (s := { scheduler := p, backend := {}, clock }) h (Site.scheduleOne_visits _ c).upkeeps

/-- Reaping leaves the process whole. -/
theorem Whole.reap (h : p.Whole) (c : CoordinatorId) (now : Instant) : (p.reap c now).Whole :=
  Whole.upkeeps (s := { scheduler := p, backend := {}, clock := { now } }) h
    (Site.reap_visits _ c).upkeeps

/-- A whole process refers to nothing that was not made. -/
theorem Whole.placed (h : p.Whole) : p.Placed := placed_of_sourced h.flight h.sourced

/-- Two registered coordinators have different names. -/
theorem Whole.apart (h : p.Whole) (hc : c ∈ p.registry.values) (hd : d ∈ p.registry.values)
    (hne : c ≠ d) : p.Apart c d := by
  have hname {e : CoordinatorId} {l : Coordinator} (he : e ∈ p.registry.values)
      (hl : p.coordinators[e]? = some l) : p.coordinator? l.name = some e := by
    obtain ⟨⟨name, e⟩, hmem, rfl⟩ := List.mem_map.1 he
    have hreg : p.coordinator? name = some e := NameMap.find?_eq_some_iff.2 hmem
    obtain ⟨l', hl', hn, -⟩ := h.registered name _ hreg
    cases hl.symm.trans hl'
    exact hn ▸ hreg
  refine ⟨hne, fun k l hk hl hsame => hne ?_⟩
  have hck := hname hc hk
  rw [hsame, hname hd hl] at hck
  exact (Option.some.inj hck).symm

/-! ## One coordinator -/

/-- A coordinator that was reaped has no batch in flight that has ended. -/
theorem isDone_of_reap (hk : (p.reap c now).coordinators[c]? = some k) {t : TaskId}
    (ht : k.handle = some t) : (p.reap c now).pool.isDone t = false := by
  cases hl : p.coordinators[c]? with
  | none =>
    rw [reap, hl, hl] at hk
    cases hk
  | some l =>
    rcases reap_cases hl now with ⟨he, hn⟩ | ⟨u, -, -, he⟩ <;> rw [he] at hk ⊢
    · cases hl.symm.trans hk
      exact eq_false_of_ne_true (hn t ht)
    · cases (getElem?_modifyCoordinator_self hl .givenUp).symm.trans hk
      cases ht

/-- A coordinator whose batch in flight has not ended stays as it is when it is reaped. -/
theorem reap_of_not_done (hk : p.coordinators[c]? = some k)
    (hn : ∀ t, k.handle = some t → p.pool.isDone t = false) (now : Instant) : p.reap c now = p := by
  rcases reap_cases hk now with ⟨he, -⟩ | ⟨t, ht, hd, -⟩
  · exact he
  · rw [hn t ht] at hd
    cases hd

/-- A coordinator is idle if, once it was reaped, it is not removed and has no batch in flight. -/
theorem phase_idle_iff : (p.phase c now).1 = .idle ↔ ∃ k, (p.reap c now).coordinators[c]? = some k ∧
    k.removed = false ∧ k.handle = none := by
  have hdone {k : Coordinator} {t : TaskId} (hk : (p.reap c now).coordinators[c]? = some k)
      (ht : k.handle = some t) := isDone_of_reap hk ht
  unfold phase
  cases hk : (p.reap c now).coordinators[c]? with
  | none => simp [hk]
  | some k =>
    cases hr : k.removed with
    | true => simp [hk, hr]
    | false =>
      cases hh : k.handle with
      | none => simp [hk, hr, hh]
      | some t => simp [hk, hr, hh, hdone hk hh]

/-- A batch is started for a coordinator that is idle and may run by launching it. -/
theorem startBatch_eq_launch (hk : p.coordinators[c]? = some k) (hlive : k.removed = false)
    (hidle : k.handle = none) {schedule : Schedule} (hs : k.schedule = some schedule)
    (hallows : schedule.allows clock.hour = true) (hon : p.throttle.delays k.name clock.now = false)
    (m : Nat) : ((p.startBatch c (m + 1) true clock).1.toOption.getD false,
      (p.startBatch c (m + 1) true clock).2) = p.launch c k (m + 1) clock.now := by
  have hreap := reap_of_not_done hk (fun t ht => by rw [hidle] at ht; cases ht) clock.now
  simp only [startBatch, live_eq_ok.2 ⟨hk, hlive⟩, hreap, hk, hs, hidle, hallows, hon, launch,
    Option.isSome_none, Bool.not_true, Bool.or_self, Bool.false_or]
  rw [if_neg (by simp)]
  rcases p.traverserFor c k with ⟨e | r, q⟩ <;> rfl

/-- A pass considers a coordinator that was reaped: it is not looked at twice whether a batch may run. -/
theorem scheduleOne_eq (hk : (p.reap c clock.now).coordinators[c]? = some k) :
    p.scheduleOne c clock = (p.reap c clock.now).consider c k clock := by
  have hdone {t : TaskId} (ht : k.handle = some t) := isDone_of_reap hk ht
  unfold scheduleOne phase consider
  generalize p.reap c clock.now = q at hk hdone
  simp only [hk]
  cases hr : k.removed with
  | true => cases k.schedule <;> simp
  | false =>
    cases hh : k.handle with
    | some t => cases k.schedule <;> simp [hdone hh]
    | none =>
      cases hs : k.schedule with
      | none => simp [hk, hs]
      | some schedule =>
        simp only [Option.any_none, Bool.false_eq_true, if_false, hk, hs, Option.isSome_none, Bool.or_self,
          Bool.false_or]
        split
        · rfl
        · next hmay =>
          simp only [Bool.or_eq_true, Bool.not_eq_true', not_or, Bool.not_eq_false, Bool.not_eq_true] at hmay
          obtain ⟨hallows, hon⟩ := hmay
          -- the answer about the backoff is the same after the hint
          have hon' : (q.throttle.hint k.name schedule.load clock.now).2.delays k.name clock.now = false := by
            rw [Throttle.delays_eq_false_iff, Throttle.stop?_hint]
            exact Throttle.delays_eq_false_iff.1 hon
          rcases hhint : q.throttle.hint k.name schedule.load clock.now with ⟨_ | m, throttle⟩
          · rfl
          · cases m with
            | zero => rfl
            | succ m =>
              rw [hhint] at hon'
              exact startBatch_eq_launch (p := q.withThrottle throttle) hk hr hh hs hallows hon' m

/-! ## The other coordinators -/

/-- Reaping renames nobody. -/
theorem Apart.reap (ha : p.Apart c d) (now : Instant) : (p.reap d now).Apart c d := by
  refine ⟨ha.1, fun k l hk hl => ?_⟩
  have hk' := (ha.leaves_reap now).coordinator.symm.trans hk
  cases hl' : p.coordinators[d]? with
  | none =>
    rw [Scheduler.reap, hl', hl'] at hl
    cases hl
  | some l' =>
    obtain ⟨l'', hl'', hname⟩ := reap_coordinator hl' now
    cases hl.symm.trans hl''
    exact hname ▸ ha.2 k l' hk' hl'

section Left

variable (h : p.Leaves c q)
include h

/-- A batch that is launched before or after an operation that leaves the coordinator comes to the same. -/
theorem Leaves.launch (hp : p.Placed) (hk : p.coordinators[c]? = some k) (hidle : k.handle = none)
    (m : Nat) (now : Instant) : (q.launch c k m now).1 = (p.launch c k m now).1 ∧
      (q.launch c k m now).2.portrait c = (p.launch c k m now).2.portrait c := by
  have hk' := h.coordinator.trans hk
  have hkinds : q.kinds = p.kinds := congrArg ProcessTerms.kinds h.terms
  have hpool : q.pool.settings = p.pool.settings := congrArg ProcessTerms.poolSettings h.terms
  have htime : q.pool.now = p.pool.now := congrArg ProcessTerms.poolTime h.terms
  have hback := (h.backOff hk now).portrait ⟨hp.handle, hp.traverser, hp.batch⟩
  unfold Scheduler.launch
  cases htr : k.traverser with
  | some r =>
    have hr := h.getElem?_traverser (hp.traverser c k r hk htr)
    simp only [traverserFor, htr]
    constructor
    · rw [submit_fst, submit_fst, h.down]
    · rw [portrait_submit hk', portrait_submit hk, h.entry k hk, h.map_traverser hp hk, hidle, h.down,
        hpool, htime, hr]
      rfl
  | none =>
    cases hconfig : k.config with
    | none => simpa only [traverserFor, htr, hconfig, true_and] using hback
    | some config =>
      cases hinst : p.kinds.instantiate k.name config with
      | error e => simpa only [traverserFor, htr, hconfig, hkinds, hinst, true_and] using hback
      | ok adapter =>
        rw [traverserFor_eq_equip htr hconfig hinst, traverserFor_eq_equip htr hconfig (hkinds ▸ hinst)]
        dsimp only
        constructor
        · rw [submit_fst, submit_fst]
          simp only [equip, modifyCoordinator, h.down]
          rfl
        · rw [portrait_equip hk', portrait_equip hk, h.entry k hk, hidle, h.down, hpool, htime]
          rfl

/-- A coordinator that is considered before or after an operation that leaves it is treated alike. -/
theorem Leaves.consider (hp : p.Placed) (hk : p.coordinators[c]? = some k) (clock : Clock) :
    (q.consider c k clock).1 = (p.consider c k clock).1 ∧
      (q.consider c k clock).2.portrait c = (p.consider c k clock).2.portrait c := by
  unfold Scheduler.consider
  split
  · exact ⟨rfl, h.portrait hp⟩
  · next schedule _ =>
    obtain ⟨hfst, hhint⟩ := h.hint hk schedule.load clock.now
    have hp' (throttle : Throttle) : (p.withThrottle throttle).Placed := ⟨hp.handle, hp.traverser, hp.batch⟩
    simp only [h.delays hk]
    split
    · exact ⟨rfl, h.portrait hp⟩
    · next hmay =>
      have hidle : k.handle = none := by
        cases hh : k.handle <;> simp [hh] at hmay ⊢
      rw [hfst]
      split
      · exact ⟨rfl, hhint.portrait (hp' _)⟩
      · exact ⟨rfl, hhint.portrait (hp' _)⟩
      · exact hhint.launch (hp' _) hk hidle _ clock.now

/-- What a pass does for a coordinator is the same wherever the coordinator was left. -/
theorem Leaves.scheduleOne (hw : p.Whole) (hk : p.coordinators[c]? = some k) (clock : Clock) :
    (q.scheduleOne c clock).1 = (p.scheduleOne c clock).1 ∧
      (q.scheduleOne c clock).2.portrait c = (p.scheduleOne c clock).2.portrait c := by
  obtain ⟨l, hl, -⟩ := reap_coordinator hk clock.now
  have hreap := h.reap hw.placed clock.now
  rw [scheduleOne_eq hl, scheduleOne_eq (hreap.coordinator.trans hl)]
  exact hreap.consider (hw.reap c clock.now).placed hl clock

end Left

/-! ## Admission -/

/-- A coordinator is admitted for one number of items only. -/
theorem Admits.unique {m n : Nat} (h : p.Admits c clock m) (h' : p.Admits c clock n) : m = n := by
  obtain ⟨-, -, k, schedule, hk, hs, -, -, hhint, -⟩ := h
  obtain ⟨-, -, k', schedule', hk', hs', -, -, hhint', -⟩ := h'
  cases hk.symm.trans hk'
  cases hs.symm.trans hs'
  exact Option.some.inj (hhint.symm.trans hhint')

/-- A coordinator that is equipped, or can be, has a traverser to submit for. -/
theorem traverserFor_of_equips (h : p.Equips k) (c : CoordinatorId) :
    ∃ r q, p.traverserFor c k = (.ok r, q) ∧ q.pool = p.pool := by
  have hpool := p.pool_traverserFor c k
  cases htr : k.traverser with
  | some r => exact ⟨r, p, by rw [traverserFor, htr], rfl⟩
  | none =>
    obtain hsome | ⟨config, adapter, hconfig, hinst⟩ := h
    · rw [htr] at hsome
      cases hsome
    · rw [traverserFor_eq_equip htr hconfig hinst] at hpool ⊢
      exact ⟨_, _, rfl, hpool⟩

/-- A batch is launched if there is a traverser for it and the pool is not shut down. -/
theorem launch_of_equips (h : p.Equips k) (hdown : p.pool.down = false) (c : CoordinatorId) (m : Nat)
    (now : Instant) : (p.launch c k m now).1 = true ∧
      ∃ task, (p.launch c k m now).2.pool.tasks = p.pool.tasks ++ [task] ∧
        task.payload.coordinator = c ∧ task.payload.maxItems = m := by
  obtain ⟨r, q, he, hpool⟩ := traverserFor_of_equips h c
  have hdown' : ¬ q.pool.down = true := by simp [hpool, hdown]
  unfold launch
  rw [he]
  dsimp only
  rw [submit_eq, if_neg hdown', ← hpool]
  exact ⟨rfl, _, rfl, rfl, rfl⟩

/-- A batch is submitted for a coordinator that is admitted. -/
theorem Admits.scheduleOne {m : Nat} (h : p.Admits c clock m) : (p.scheduleOne c clock).1 = true ∧
    ∃ task, (p.scheduleOne c clock).2.pool.tasks = p.pool.tasks ++ [task] ∧
      task.payload.coordinator = c ∧ task.payload.maxItems = m := by
  obtain ⟨hidle, hdown, k, schedule, hk, hs, hallows, hon, hhint, hm, hequips⟩ := h
  obtain ⟨l, hl, hlive, hnone⟩ := phase_idle_iff.1 hidle
  cases hk.symm.trans hl
  obtain ⟨n, rfl⟩ := Nat.exists_eq_succ_of_ne_zero (Nat.ne_of_gt hm)
  have hpool := p.pool_reap c clock.now
  have hkinds : (p.reap c clock.now).kinds = p.kinds := congrArg ProcessTerms.kinds (p.terms_reap c clock.now)
  rw [scheduleOne_eq hk, consider, hs, ← hpool]
  simp only [hlive, hnone, hallows, hon, hhint, Option.isSome_none, Bool.or_self, Bool.not_true,
    Bool.false_eq_true, if_false]
  refine launch_of_equips (p := (p.reap c clock.now).withThrottle _) ?_ ?_ c (n + 1) clock.now
  · rw [Equips, ← hkinds] at hequips
    exact hequips
  · rw [← hpool] at hdown
    exact hdown

variable {order : List CoordinatorId}

/-- The visits of a pass leave the process whole. -/
theorem Whole.scheduleAll (h : p.Whole) (order : List CoordinatorId) (clock : Clock) :
    (p.scheduleAll clock order).2.Whole :=
  Whole.upkeeps (s := { scheduler := p, backend := {}, clock }) h (Site.scheduleAll_visits order _).upkeeps

end Scheduler

end BatchTraversal
