import BatchTraversal.Proofs.Process.Reuse
import BatchTraversal.Proofs.Process.Tallies

/-!
# Batches within a budget

A pass asks the throttle how large the next batch of a connector may be, and the throttle answers with what
the budget leaves after what was counted before. So a batch fits into the budget when it is submitted, and
as long as it is the only one of its coordinator whose items will be counted, it still does when it reports
(`Scheduler.Funded`). Passes keep that, because they submit no larger batches than the throttle hints at
(`Site.passInOrder_thrifty`); turns keep it, because a batch counts no more than it was allowed
(`Site.Turn.funded`); and edits only take batches away. What it takes is that no batch is counted that was
still executed when its coordinator had another one in flight (`Scheduler.Overtakes`).
-/

namespace BatchTraversal

/-- Whether an action starts a batch of a coordinator outside of a pass. -/
def Action.Starts (c : CoordinatorId) : Action → Prop
  | start d .. => d = c
  | _ => False

namespace Scheduler

variable {p q r : Scheduler} {c d : CoordinatorId} {k : Coordinator} {t u : TaskId} {m : Nat}
  {name : String} {due : TaskId → Prop} {load budget : Nat}

/-- Whether a coordinator has another batch in flight while one of its batches is still executed. -/
def Overtakes (p : Scheduler) (c : CoordinatorId) (t : TaskId) : Prop :=
  ∃ k u g, p.coordinators[c]? = some k ∧ k.handle = some u ∧ u ≠ t ∧ p.order? t = some (c, g) ∧
    p.pool.isExecuting t

/-- Whether a batch of a coordinator that may have up to `m` items is queued or executed and is one of those
that will be counted. -/
structure Claims (p : Scheduler) (c : CoordinatorId) (due : TaskId → Prop) (t : TaskId) (m : Nat) :
    Prop where
  share : p.share? t = some (c, m)
  active : t ∈ p.pool.queue ∨ p.pool.isExecuting t
  due : due t

/-- Whether no batches but those that are due have had items counted. -/
def CountsDue (p : Scheduler) (due : TaskId → Prop) : Prop :=
  ∀ t name count, .folded t name count ∈ p.journal → due t ∨ count = 0

/-- What counts as due in the end has counted as due all the time. -/
theorem Lasts.countsDue (h : p.Lasts q) (hq : q.CountsDue due) : p.CountsDue due :=
  fun t name count hc => hq t name count (h.journal hc)

/-- Whether a connector has used no more than its budget since its coordinator is there, and nothing is kept
of what the connectors without a coordinator have used. -/
structure Budgeted (p : Scheduler) (c : CoordinatorId) (name : String) (budget : Nat) : Prop where
  used : ∀ k, p.coordinators[c]? = some k → p.throttle.used name ≤ budget
  blank : ∀ other, p.coordinator? other = none → p.throttle.used other = 0

/-- Whether what will be counted fits into the budget, too, and comes from a single batch. -/
structure Funded (p : Scheduler) (c : CoordinatorId) (name : String) (due : TaskId → Prop)
    (budget : Nat) : Prop extends p.Budgeted c name budget where
  fits : ∀ t m, p.Claims c due t m → p.throttle.used name + m ≤ budget
  alone : ∀ t u m n, p.Claims c due t m → p.Claims c due u n → t = u

/-- A process that has just started has no batch to fund. -/
theorem funded_start (h : ∃ settings pool kinds, Scheduler.start settings pool kinds = .ok p) :
    p.Funded c name due budget := by
  have hnone (t : TaskId) : p.share? t = none := by
    rw [share?, Option.map_eq_none_iff.1 ((journal_start h).2 t)]
    rfl
  obtain ⟨settings, pool, kinds, h⟩ := h
  obtain ⟨-, rfl⟩ := start_eq_ok h
  refine ⟨⟨fun k hk => (by cases hk), fun other _ => rfl⟩, fun t m ht => ?_,
    fun t u m n ht => ?_⟩ <;>
  · have hshare := ht.share
    rw [hnone] at hshare
    cases hshare

/-- The coordinator of a batch is there. -/
theorem Flight.coordinator (h : p.Flight) (ht : p.share? t = some (c, m)) :
    ∃ k, p.coordinators[c]? = some k := by
  obtain ⟨b, hb, he⟩ := Option.map_eq_some_iff.1 ht
  obtain ⟨k, hk, -⟩ := h.owned t _ _ (order?_of_batch? hb)
  cases he
  exact ⟨k, hk⟩

/-- A curbed pool leaves every batch its share. -/
theorem share?_curbs (h : p.pool.Curbs q.pool) (t : TaskId) : q.share? t = p.share? t :=
  congrArg (Option.map fun b : Batch => (b.coordinator, b.maxItems)) (h.payload? t)

/-- A batch that has ended had its share. -/
theorem share?_finish (hq : q.pool = p.pool.finish u) (t : TaskId) : q.share? t = p.share? t := by
  rw [share?, share?, batch?, batch?, hq]
  exact congrArg _ (Pool.payload?_markDone p.pool u t)

/-- A batch whose run goes on has its share. -/
theorem share?_withStage {stage : RunStage} (hq : q.pool = (p.withStage u stage).pool)
    (t : TaskId) : q.share? t = p.share? t := by
  have hbatch : q.batch? t = (p.withStage u stage).batch? t := by rw [batch?, batch?, hq]
  rw [share?, hbatch, batch?_withStage]
  split
  · exact Option.map_map ..
  · rfl

/-- What only curbs the pool makes no claims. -/
theorem Claims.of_curbs (h : q.Claims c due t m) (hc : p.pool.Curbs q.pool) : p.Claims c due t m :=
  ⟨(share?_curbs hc t).symm.trans h.share,
    h.active.imp (fun hq => hc.queue hq) hc.isExecuting_iff.1, h.due⟩

/-! ## What a pass does -/

/-- Whether a coordinator, as soon as it is there, has a name and, as far as it has a schedule, a load. -/
def Charged (p : Scheduler) (c : CoordinatorId) (name : String) (load : Nat) : Prop :=
  ∀ k, p.coordinators[c]? = some k → k.name = name ∧
    ∀ schedule, k.schedule = some schedule → schedule.load = load

/-- Whether a connector has used no more in `q` than in `p`, and whatever claims were made meanwhile are
those of queued batches that fit into the budget. -/
structure Thrifty (p q : Scheduler) (c : CoordinatorId) (name : String) (due : TaskId → Prop)
    (budget : Nat) : Prop where
  used : q.throttle.used name ≤ p.throttle.used name
  executing : ∀ t, q.pool.isExecuting t → p.pool.isExecuting t
  claims : ∀ t m, q.Claims c due t m → p.Claims c due t m ∨
    ¬ q.pool.isExecuting t ∧ q.throttle.used name + m ≤ budget

/-- What is thrifty step by step is thrifty. -/
theorem Thrifty.trans (h : p.Thrifty q c name due budget) (h' : q.Thrifty r c name due budget) :
    p.Thrifty r c name due budget := by
  refine ⟨Nat.le_trans h'.used h.used, fun t ht => h.executing t (h'.executing t ht), fun t m ht => ?_⟩
  rcases h'.claims t m ht with hq | hnew
  · rcases h.claims t m hq with hp | ⟨hqueued, hfit⟩
    · exact .inl hp
    · exact .inr ⟨fun hx => hqueued (h'.executing t hx),
        Nat.le_trans (Nat.add_le_add_right h'.used m) hfit⟩
  · exact .inr hnew

/-- Where no batch is submitted and nothing is used, nothing is spent. -/
theorem Thrifty.of_curbs (hc : p.pool.Curbs q.pool)
    (hu : q.throttle.used name ≤ p.throttle.used name) : p.Thrifty q c name due budget :=
  ⟨hu, fun _ => hc.isExecuting_iff.1, fun _ _ ht => .inl (ht.of_curbs hc)⟩

/-- A submission is thrifty if its batch fits into the budget or is another coordinator's. -/
theorem Thrifty.of_submit (hs : p.pool.Sound) {b : Batch} (hpool : p.pool.submit b = (some u, q.pool))
    (hu : q.throttle.used name ≤ p.throttle.used name)
    (hfit : b.coordinator = c → p.throttle.used name + b.maxItems ≤ budget) :
    p.Thrifty q c name due budget := by
  obtain ⟨hnew, -, hq, -, hx, -⟩ := Pool.submit_eq_some hpool
  have hexecuting (t : TaskId) : q.pool.isExecuting t ↔ p.pool.isExecuting t :=
    Pool.isExecuting_congr hx
  refine ⟨hu, fun t => (hexecuting t).1, fun t m ht => ?_⟩
  have hshare := ht.share
  rw [share?, batch?, Pool.payload?_submit hpool] at hshare
  split at hshare
  · next htu =>
    cases hshare
    refine .inr ⟨fun hrun => ?_, Nat.le_trans (Nat.add_le_add_right hu _) (hfit rfl)⟩
    exact absurd (htu.trans hnew) (Nat.ne_of_lt (hs.executing_lt t ((hexecuting t).1 hrun)))
  · next hne =>
    refine .inl ⟨hshare, ht.active.imp (fun hmem => ?_) (hexecuting t).1, ht.due⟩
    rw [hq, List.mem_append, List.mem_singleton] at hmem
    exact hmem.resolve_right hne

/-- Starting a batch leaves the pool as it is or submits that batch. -/
theorem pool_startBatch (p : Scheduler) (d : CoordinatorId) (maxItems : Nat) (metered : Bool)
    (clock : Clock) : (p.startBatch d maxItems metered clock).2.pool = p.pool ∨
      ∃ b t, p.pool.submit b = (some t, (p.startBatch d maxItems metered clock).2.pool) ∧
        b.coordinator = d ∧ b.maxItems = maxItems := by
  have htraverser (k : Coordinator) := (pool_traverserFor (p.reap d clock.now) d k).trans (pool_reap ..)
  rcases p.startBatch_cases d maxItems metered clock with ⟨e, he⟩ | he |
    ⟨k, -, -, -, -, ⟨e, q, htr, he⟩ | ⟨r, q, htr, he⟩⟩ <;> rw [he]
  · exact .inl rfl
  · exact .inl (pool_reap ..)
  · have hpool := htraverser k
    rw [htr] at hpool
    exact .inl hpool
  · have hpool := htraverser k
    rw [htr] at hpool
    rcases q.submit_cases d k r maxItems metered with hq | ⟨t, pool, hs, hq⟩ <;> rw [hq]
    · exact .inl hpool
    · exact .inr ⟨_, t, hpool ▸ hs, rfl, rfl⟩

/-- If no batch that is due is overtaken, what was thrifty leaves at most one claim. -/
theorem Thrifty.funded (h : p.Thrifty q c name due budget) (hp : p.Funded c name due budget)
    (hq : q.Flight) (hb : q.Budgeted c name budget) (hover : ∀ t, due t → ¬ q.Overtakes c t) :
    q.Funded c name due budget := by
  -- a queued batch is the one in flight
  have hhandle {t m} (ht : q.Claims c due t m) (hqueued : ¬ q.pool.isExecuting t) :
      ∃ k, q.coordinators[c]? = some k ∧ k.handle = some t := by
    have hmem := ht.active.resolve_right hqueued
    obtain ⟨k, hk⟩ := hq.coordinator ht.share
    obtain ⟨b, hbatch, he⟩ := Option.map_eq_some_iff.1 ht.share
    cases he
    exact ⟨k, hk, hq.single t _ _ k (order?_of_batch? hbatch) hk
      ⟨.inl hmem, hq.sound.unrequested t hmem⟩⟩
  have hqueued {t u m n} (ht : q.Claims c due t m) (hnew : ¬ q.pool.isExecuting t)
      (hu : q.Claims c due u n) : t = u := by
    obtain ⟨k, hk, hh⟩ := hhandle ht hnew
    by_cases hx : q.pool.isExecuting u
    · by_contra hne
      obtain ⟨b, hbatch, he⟩ := Option.map_eq_some_iff.1 hu.share
      cases he
      exact hover u hu.due ⟨k, t, b.generation, hk, hh, hne, order?_of_batch? hbatch, hx⟩
    · obtain ⟨l, hl, hh'⟩ := hhandle hu hx
      cases hk.symm.trans hl
      exact Option.some.inj (hh.symm.trans hh')
  refine ⟨hb, fun t m ht => ?_, fun t u m n ht hu => ?_⟩
  · rcases h.claims t m ht with hold | hnew
    · exact Nat.le_trans (Nat.add_le_add_right h.used m) (hp.fits t m hold)
    · exact hnew.2
  · rcases h.claims t m ht with hold | hnew
    · rcases h.claims u n hu with hold' | hnew'
      · exact hp.alone t u m n hold hold'
      · exact (hqueued hu hnew'.1 ht).symm
    · exact hqueued ht hnew.1 hu

end Scheduler

namespace Site

open Scheduler LoadAccount

variable {s s' : Site} {c d : CoordinatorId} {k : Coordinator} {t u : TaskId} {m count : Nat}
  {name : String} {due : TaskId → Prop} {load budget : Nat}

/-! ## Chores -/

/-- A coordinator was there before a chore, or its name was not registered. -/
theorem Chore.known (h : Chore s s') (hk : s'.scheduler.coordinators[c]? = some k) :
    (∃ l, s.scheduler.coordinators[c]? = some l) ∨ s.scheduler.coordinator? k.name = none := by
  have hmodify {f : Coordinator → Coordinator} {d : CoordinatorId}
      (hc : s'.scheduler.coordinators = s.scheduler.coordinators.modify d f) :
      ∃ l, s.scheduler.coordinators[c]? = some l := by
    rw [hc, List.getElem?_modify] at hk
    obtain ⟨l, hl, -⟩ := Option.map_eq_some_iff.1 hk
    exact ⟨l, hl⟩
  cases h with
  | upkeep h =>
    have hb := h.bare c
    rw [hk] at hb
    obtain ⟨l, hl, -⟩ := Option.map_eq_some_iff.1 hb.symm
    exact .inl ⟨l, hl⟩
  | edit h =>
    cases h with
    | @amend d l a _ hl =>
      refine .inl (hmodify (f := .interrupted a.apply) (d := d) ?_)
      show (s.scheduler.interrupt d a.apply).coordinators = _
      rw [interrupt_eq hl]
      rfl
    | enlist hnew =>
      rcases enlist_cases hk with hk | ⟨-, rfl⟩
      · exact .inl ⟨k, hk⟩
      · exact .inr hnew
    | @detach d l _ hl hlive =>
      refine .inl (hmodify (d := d) (f := .interrupted fun k =>
        { k with removed := true, config := none, schedule := none, traverser := none }) ?_)
      show (s.scheduler.detach l.name d).coordinators = _
      rw [detach_eq hl hlive, interrupt_eq hl]
      rfl
    | look | storeConfiguration | storeSchedule | removeTask => exact .inl ⟨k, hk⟩
    | clearCheckpoint => exact .inl (hmodify rfl)

/-- A name that is not registered after a chore was not before, or nothing is kept of what was counted. -/
theorem Chore.unregistered (h : Chore s s') (hnone : s'.scheduler.coordinator? name = none) :
    s.scheduler.coordinator? name = none ∨ s'.scheduler.throttle.used name = 0 := by
  have hsame (hr : s'.scheduler.registry = s.scheduler.registry) :
      s.scheduler.coordinator? name = none := by rwa [coordinator?, ← hr]
  cases h with
  | upkeep h => exact .inl (hsame h.registry)
  | edit h =>
    cases h with
    | amend => exact .inl (hsame (registry_interrupt ..))
    | @enlist other =>
      simp only [withScheduler, Scheduler.enlist, coordinator?, NameMap.find?_insert] at hnone
      split at hnone
      · cases hnone
      · exact .inl hnone
    | @detach d l hreg hl hlive =>
      have hremoved : (s.scheduler.detach l.name d).throttle = s.scheduler.throttle.remove l.name ∧
          (s.scheduler.detach l.name d).registry = s.scheduler.registry.erase l.name := by
        rw [detach_eq hl hlive]
        exact ⟨rfl, rfl⟩
      by_cases hname : name = l.name
      · right
        show (s.scheduler.detach l.name d).throttle.used name = 0
        rw [hremoved.1, hname, Throttle.used, Throttle.remove, NameMap.find?_erase_self]
        rfl
      · left
        change (s.scheduler.detach l.name d).registry.find? name = none at hnone
        rwa [hremoved.2, NameMap.find?_erase, if_neg hname] at hnone
    | look | storeConfiguration | storeSchedule | removeTask | clearCheckpoint => exact .inl hnone

/-- A chore uses nothing of a budget. -/
theorem Chore.budgeted (h : Chore s s') (hb : s.scheduler.Budgeted c name budget)
    (hs : s'.scheduler.Stands c name) : s'.scheduler.Budgeted c name budget := by
  have hle (other : String) := h.used_le other
  refine ⟨fun k hk => ?_, fun other hnone => ?_⟩
  · rcases h.known hk with ⟨l, hl⟩ | hnew
    · exact Nat.le_trans (hle name) (hb.used l hl)
    · rw [(hs k hk).1] at hnew
      exact Nat.le_trans (hle name) (hb.blank name hnew ▸ Nat.zero_le budget)
  · rcases h.unregistered hnone with hbefore | hzero
    · exact Nat.le_zero.1 (hb.blank other hbefore ▸ hle other)
    · exact hzero

/-- However much is done besides the batches, nothing of the load is used by it. -/
theorem Chores.used_le (h : Chores s s') (name : String) :
    s'.scheduler.throttle.used name ≤ s.scheduler.throttle.used name := by
  induction h with
  | refl => exact Nat.le_refl _
  | tail _ h ih => exact Nat.le_trans (h.used_le name) ih

/-- A budget that is kept is kept by whatever is done besides the batches. -/
theorem Chores.budgeted (h : Chores s s') (hb : s.scheduler.Budgeted c name budget)
    (hs : s'.scheduler.Stands c name) : s'.scheduler.Budgeted c name budget := by
  induction h with
  | refl => exact hb
  | tail _ h ih => exact h.budgeted (ih (h.lasts.stands hs)) hs

/-- Whatever is done besides the batches leaves them with what they were asked for. -/
theorem Chores.temperate (h : Chores s s') (ht : s.scheduler.Temperate c name) :
    s'.scheduler.Temperate c name := by
  induction h with
  | refl => exact ht
  | tail _ h ih => exact h.temperate ih

/-- Chores count nothing for a connector whose coordinator stands. -/
theorem Chore.nexts (h : Chore s s') (he : s.scheduler.Enrolled) (hs : s'.scheduler.Stands c name)
    (hk : s.scheduler.coordinators[c]? = some k) :
    Nexts s.scheduler.throttle.period s.now (s.scheduler.account name)
      (s'.scheduler.account name) := by
  rcases h.account name with hn | ⟨-, d, l, hd, hl, hremoved⟩
  · exact hn
  · obtain ⟨hname, hlive⟩ := h.lasts.stands hs k hk
    have hreg := he.registered c k hk hlive
    rw [hname, hd] at hreg
    cases hreg
    cases (hs l hl).2.symm.trans hremoved

/-- While the coordinator of a connector stands, its account goes on without a break. -/
theorem Chores.nexts (h : Chores s s') (he : s.scheduler.Enrolled) (hs : s'.scheduler.Stands c name)
    (hk : s.scheduler.coordinators[c]? = some k) :
    Nexts s.scheduler.throttle.period s.now (s.scheduler.account name)
      (s'.scheduler.account name) := by
  induction h with
  | refl => exact .refl
  | @tail s₁ s₂ h₀ h ih =>
    have hlasts := Moves.lasts (Chores.moves h₀)
    obtain ⟨k₁, hk₁, -⟩ := hlasts.coordinators c k hk
    have hlast := h.nexts (Moves.enrolled (Chores.moves h₀) he) hs hk₁
    rw [hlasts.period, Site.now, Chores.clock h₀] at hlast
    exact (ih (h.lasts.stands hs)).trans hlast

/-! ## Passes -/

/-- Upkeep uses nothing of the load. -/
theorem Upkeeps.used_le (h : Upkeeps s s') (name : String) :
    s'.scheduler.throttle.used name ≤ s.scheduler.throttle.used name := Chores.used_le h.chores name

/-- However much upkeep is done, it leaves of every coordinator all but what it keeps for its batches. -/
theorem Upkeeps.bare (h : Upkeeps s s') (c : CoordinatorId) :
    (s'.scheduler.coordinators[c]?).map (·.bare) = (s.scheduler.coordinators[c]?).map (·.bare) := by
  induction h with
  | refl => rfl
  | tail _ h ih => exact (h.bare c).trans ih

/-- A coordinator was there before some upkeep, with the same name and the same schedule. -/
theorem Upkeeps.coordinator (h : Upkeeps s s') (hk : s'.scheduler.coordinators[c]? = some k) :
    ∃ l, s.scheduler.coordinators[c]? = some l ∧ l.name = k.name ∧ l.schedule = k.schedule := by
  have hb := h.bare c
  rw [hk] at hb
  obtain ⟨l, hl, hbare⟩ := Option.map_eq_some_iff.1 hb.symm
  have hname : l.bare.name = k.bare.name := congrArg Coordinator.name hbare
  have hschedule : l.bare.schedule = k.bare.schedule := congrArg Coordinator.schedule hbare
  exact ⟨l, hl, hname, hschedule⟩

/-- Upkeep changes no schedule, so a connector is charged as before. -/
theorem Upkeeps.charged (h : Upkeeps s s') (hc : s.scheduler.Charged c name load) :
    s'.scheduler.Charged c name load := by
  intro k hk
  obtain ⟨l, hl, hname, hschedule⟩ := h.coordinator hk
  obtain ⟨hn, hload⟩ := hc l hl
  exact ⟨hname.symm.trans hn, fun schedule hs => hload schedule (hschedule.trans hs)⟩

/-- Upkeep leaves the budget that a load has. -/
theorem Upkeeps.budget_eq (h : Upkeeps s s') (load : Nat) :
    s'.scheduler.throttle.budget load = s.scheduler.throttle.budget load :=
  Throttle.budget_congr (Moves.lasts (Chores.moves h.chores)).period load

/-- Reaping submits nothing. -/
theorem reap_thrifty (s : Site) (d : CoordinatorId) :
    s.scheduler.Thrifty (s.scheduler.reap d s.now) c name due budget := by
  refine .of_curbs ?_ (Upkeeps.used_le (reap_visits s d).upkeeps name)
  rw [pool_reap]
  exact .refl _

/-- A look at a phase submits nothing. -/
theorem phase_thrifty (s : Site) (d : CoordinatorId) :
    s.scheduler.Thrifty (s.scheduler.phase d s.now).2 c name due budget := by
  rw [phase_snd]
  exact s.reap_thrifty d

/-- Starting a batch is thrifty if it fits into the budget or is another coordinator's. -/
theorem startBatch_thrifty (s : Site) (hs : s.scheduler.pool.Sound) (d : CoordinatorId)
    (maxItems : Nat) (metered : Bool)
    (hfit : d = c → s.scheduler.throttle.used name + maxItems ≤ budget) :
    s.scheduler.Thrifty (s.scheduler.startBatch d maxItems metered s.clock).2 c name due budget := by
  have hused := Upkeeps.used_le (startBatch_visits s d maxItems metered).upkeeps name
  rcases s.scheduler.pool_startBatch d maxItems metered s.clock with he | ⟨b, t, hsubmit, rfl, rfl⟩
  · refine .of_curbs ?_ hused
    rw [he]
    exact .refl _
  · exact .of_submit hs hsubmit hused hfit

/-- A pass starts a batch that fits into the budget. -/
theorem scheduleOne_thrifty (s : Site) (hf : s.scheduler.Flight) (d : CoordinatorId)
    (hc : s.scheduler.Charged c name load)
    (hu : ∀ k, s.scheduler.coordinators[c]? = some k →
      s.scheduler.throttle.used name ≤ s.scheduler.throttle.budget load) :
    s.scheduler.Thrifty (s.scheduler.scheduleOne d s.clock).2 c name due
      (s.scheduler.throttle.budget load) := by
  have hreap := (s.reap_visits d).upkeeps
  have hthrifty : s.scheduler.Thrifty (s.scheduler.reap d s.now) c name due
    (s.scheduler.throttle.budget load) := s.reap_thrifty d
  rcases s.scheduler.scheduleOne_cases d s.clock with he |
    ⟨k, schedule, hk, hlive, hsch, n, throttle, hn, hrest⟩
  · rw [he]
    exact hthrifty
  · have hhint : Upkeeps (s.withScheduler (s.scheduler.reap d s.now))
        (s.withScheduler ((s.scheduler.reap d s.now).withThrottle throttle)) := by
      rw [← show _ = throttle from congrArg Prod.snd hn]
      exact .single (.hint schedule.load hk hlive)
    have hbefore : s.scheduler.Thrifty ((s.scheduler.reap d s.now).withThrottle throttle) c name due
        (s.scheduler.throttle.budget load) :=
      hthrifty.trans (.of_curbs (.refl _) (Upkeeps.used_le hhint name))
    rcases hrest with he | ⟨hint, rfl, he⟩ <;> rw [he]
    · exact hbefore
    · refine hbefore.trans (startBatch_thrifty
        (s.withScheduler ((s.scheduler.reap d s.now).withThrottle throttle))
        ((Upkeeps.chores (hreap.trans hhint)).moves.flight hf).sound d hint true fun hdc => ?_)
      -- the hint is what the budget leaves
      subst hdc
      obtain ⟨hname, hload⟩ := Upkeeps.charged hreap hc k hk
      obtain ⟨l, hl, -⟩ := Upkeeps.coordinator hreap hk
      have hbudget : (s.scheduler.reap d s.now).throttle.budget load = s.scheduler.throttle.budget load :=
        Upkeeps.budget_eq hreap load
      rw [hname, hload schedule hsch] at hn
      rw [← hbudget]
      exact Throttle.used_add_hint_le hn (hbudget ▸ Nat.le_trans hbefore.used (hu l hl))

/-- A pass visits each coordinator with what the visits before have left of the budget. -/
theorem scheduleAll_thrifty (order : List CoordinatorId) (s : Site) (hf : s.scheduler.Flight)
    (hc : s.scheduler.Charged c name load)
    (hu : ∀ k, s.scheduler.coordinators[c]? = some k →
      s.scheduler.throttle.used name ≤ s.scheduler.throttle.budget load) :
    s.scheduler.Thrifty (s.scheduler.scheduleAll s.clock order).2 c name due
      (s.scheduler.throttle.budget load) := by
  induction order generalizing s with
  | nil => exact .of_curbs (.refl _) (Nat.le_refl _)
  | cons d rest ih =>
    have hone := (scheduleOne_visits s d).upkeeps
    have hthrifty : s.scheduler.Thrifty (s.scheduler.scheduleOne d s.clock).2 c name due
      (s.scheduler.throttle.budget load) := s.scheduleOne_thrifty hf d hc hu
    have hrest := ih (s.withScheduler (s.scheduler.scheduleOne d s.clock).2)
      ((Chores.moves hone.chores).flight hf) (Upkeeps.charged hone hc) fun k hk => ?_
    · rw [Upkeeps.budget_eq hone load] at hrest
      exact hthrifty.trans hrest
    · obtain ⟨l, hl, -⟩ := Upkeeps.coordinator hone hk
      rw [Upkeeps.budget_eq hone load]
      exact Nat.le_trans hthrifty.used (hu l hl)

/-- Counting the running batches submits none. -/
theorem countRunning_thrifty (l : List CoordinatorId) (s : Site) :
    s.scheduler.Thrifty (s.scheduler.countRunning s.now l).2 c name due budget := by
  induction l generalizing s with
  | nil => exact .of_curbs (.refl _) (Nat.le_refl _)
  | cons d rest ih => exact (s.phase_thrifty d).trans (ih (s.withScheduler (s.scheduler.phase d s.now).2))

/-- A pass is thrifty. -/
theorem passInOrder_thrifty (s : Site) (hf : s.scheduler.Flight) (order : List CoordinatorId)
    (hc : s.scheduler.Charged c name load)
    (hu : ∀ k, s.scheduler.coordinators[c]? = some k →
      s.scheduler.throttle.used name ≤ s.scheduler.throttle.budget load) :
    s.scheduler.Thrifty (s.scheduler.passInOrder s.clock order).2 c name due
      (s.scheduler.throttle.budget load) := by
  refine (s.scheduleAll_thrifty order hf hc hu).trans ?_
  refine (countRunning_thrifty (s.scheduler.registry.entries.map (·.2))
    (s.withScheduler (s.scheduler.scheduleAll s.clock order).2)).trans ?_
  exact .of_curbs (.refl _) (Nat.le_refl _)

/-- Upkeep is thrifty, unless it starts a batch of the coordinator outside of a pass. -/
theorem upkeep_thrifty (s : Site) (hf : s.scheduler.Flight) {a : Action} (ha : a.IsUpkeep)
    (hstart : ¬ a.Starts c) (hc : s.scheduler.Charged c name load)
    (hu : ∀ k, s.scheduler.coordinators[c]? = some k →
      s.scheduler.throttle.used name ≤ s.scheduler.throttle.budget load) :
    s.scheduler.Thrifty (s.act a).scheduler c name due (s.scheduler.throttle.budget load) := by
  cases a with
  | pass order => exact s.passInOrder_thrifty hf order hc hu
  | askPhase d => exact s.phase_thrifty d
  | start d maxItems metered =>
    exact s.startBatch_thrifty hf.sound d maxItems metered fun hdc => absurd hdc hstart
  | tick d => exact .of_curbs (Pool.curbs_tick ..) (Nat.le_refl _)
  | scan => exact .of_curbs (Pool.curbs_scan ..) (Nat.le_refl _)
  | revive w => exact .of_curbs (Pool.curbs_revive ..) (Nat.le_refl _)
  | shutDown interrupt => exact .of_curbs (Pool.curbs_shutDown ..) (Nat.le_refl _)
  | _ => cases ha

/-! ## Turns -/

/-- A turn of a batch leaves every batch its share. -/
theorem Turn.share? (h : Turn t s s') (u : TaskId) : s'.scheduler.share? u = s.scheduler.share? u := by
  cases h with
  | take h =>
    obtain ⟨rest, -, rfl⟩ := Pool.take?_eq_some h
    rfl
  | move | answer => exact share?_withStage rfl u
  | crash | retire | choke | count => exact share?_finish rfl u
  | @settle b k code =>
    rcases settleBatch_cases (s.counted t k (BatchResult.ofCode code).count) t b k (.ofCode code) with
      ⟨-, he⟩ | ⟨-, disabled, -, he⟩ <;> rw [he]
    all_goals exact share?_finish rfl u

/-- A turn makes no claims. -/
theorem Turn.claims (h : Turn t s s') (hu : s'.scheduler.Claims c due u m) :
    s.scheduler.Claims c due u m := by
  refine ⟨(h.share? u).symm.trans hu.share, ?_, hu.due⟩
  rcases eq_or_ne u t with rfl | hne
  · cases h with
    | take h =>
      obtain ⟨rest, hq, -⟩ := Pool.take?_eq_some h
      exact .inl (hq ▸ List.mem_cons_self)
    | answer => exact hu.active
    | move hx | crash hx | retire hx | choke hx | count hx | settle hx => exact .inr hx
  · have hspares := h.spares hne
    exact hu.active.imp hspares.queue hspares.executing.1

/-- What a batch counts for a connector that is funded fits into the budget, and a batch that is not due
counts nothing. -/
theorem Collects.fits (h : Collects t s s' name count) (he : s.scheduler.Enrolled)
    (hs : s.scheduler.Stands c name) (ht : s.scheduler.Temperate c name)
    (hf : s.scheduler.Funded c name due budget) (hdue : s'.scheduler.CountsDue due)
    (hk : s.scheduler.coordinators[c]? = some k) :
    s.scheduler.throttle.used name + count ≤ budget ∧
      (count = 0 ∨ ∃ m, s.scheduler.Claims c due t m) := by
  obtain ⟨b, l, code, hb, hst, hcount, hl, hname, hlive⟩ := h.own
  have hbc : b.coordinator = c := he.eq_of_stands hs hk hl hname hlive
  rcases hdue t name count h.noted with hd | rfl
  · have hclaim : s.scheduler.Claims c due t b.maxItems :=
      ⟨by rw [share?_of_batch? hb, hbc], .inr h.executing, hd⟩
    have hfit := hf.fits t _ hclaim
    have hwithin := ht.within t b hb hbc
    rw [hst] at hwithin
    have hle : count ≤ b.maxItems := hcount ▸ hwithin
    exact ⟨by omega, .inr ⟨_, hclaim⟩⟩
  · exact ⟨hf.used k hk, .inl rfl⟩

/-- As soon as a coordinator is there, a turn of a batch leaves its connector within the budget, with what
may still be counted, and what it does to the account is a sequence of calls of the throttle. -/
theorem Turn.spends (h : Turn t s s') (hflight : s.scheduler.Flight) (he : s.scheduler.Enrolled)
    (hs : s'.scheduler.Stands c name) (ht : s.scheduler.Temperate c name)
    (hf : s.scheduler.Funded c name due budget) (hbudget : budget < Numeral.size64)
    (hdue : s'.scheduler.CountsDue due) (hk : s.scheduler.coordinators[c]? = some k) :
    s'.scheduler.throttle.used name ≤ budget ∧
      (∀ u m, s'.scheduler.Claims c due u m → s'.scheduler.throttle.used name + m ≤ budget) ∧
      Nexts s.scheduler.throttle.period s.now (s.scheduler.account name)
        (s'.scheduler.account name) := by
  rcases h.tally name with ⟨htally, hn⟩ | ⟨count, hcollects⟩
  · have hle := used_le_of_nexts hn
    rw [htally] at hle
    refine ⟨?_, fun u m hu => ?_, hn⟩
    · have := hf.used k hk
      omega
    · have := hf.fits u m (h.claims hu)
      omega
  · obtain ⟨hfit, hcount⟩ := hcollects.fits he (h.lasts.stands hs) ht hf hdue hk
    have hn := hcollects.account (Nat.lt_of_le_of_lt hfit hbudget)
    have hle := used_le_of_nexts hn
    rw [hcollects.tally] at hle
    refine ⟨by omega, fun u m hu => ?_, hn⟩
    have hfits := hf.fits u m (h.claims hu)
    rcases hcount with rfl | ⟨n, hclaim⟩
    · omega
    · -- the batch that reports was the only one, and it is no longer executed
      have htu := hf.alone t u n m hclaim (h.claims hu)
      subst htu
      have hgone := hu.active
      rw [hcollects.pool, Pool.isExecuting_finish] at hgone
      exact absurd (hgone.resolve_right fun hx => hx.2 rfl)
        (hflight.sound.notMem_queue hcollects.executing)

/-- A turn of a batch keeps a connector funded. -/
theorem Turn.funded (h : Turn t s s') (hflight : s.scheduler.Flight) (he : s.scheduler.Enrolled)
    (hs : s'.scheduler.Stands c name) (ht : s.scheduler.Temperate c name)
    (hf : s.scheduler.Funded c name due budget) (hbudget : budget < Numeral.size64)
    (hdue : s'.scheduler.CountsDue due) : s'.scheduler.Funded c name due budget := by
  refine ⟨⟨fun k' hk' => ?_, fun other hnone => ?_⟩, fun u m hu => ?_, fun u v m n hu hv => ?_⟩
  · obtain ⟨k, hk, -⟩ := h.alike.symm.coordinator hk'
    exact (h.spends hflight he hs ht hf hbudget hdue hk).1
  · rw [coordinator?, h.registry] at hnone
    rcases h.tally other with ⟨htally, hn⟩ | ⟨count, hcollects⟩
    · have hle := used_le_of_nexts hn
      rw [htally, hf.blank other hnone] at hle
      omega
    · obtain ⟨b, l, code, -, -, -, hl, hname, hlive⟩ := hcollects.own
      have hreg := he.registered _ l hl hlive
      rw [hname, coordinator?, hnone] at hreg
      cases hreg
  · obtain ⟨k, hk⟩ := hflight.coordinator (h.claims hu).share
    exact (h.spends hflight he hs ht hf hbudget hdue hk).2.1 u m hu
  · exact hf.alone u v m n (h.claims hu) (h.claims hv)

/-! ## Actions -/

/-- Whether after some steps the batches of a coordinator are temperate and its connector is funded, and
what the steps did to the connector's account is a sequence of calls of the throttle. -/
structure Affords (s s' : Site) (c : CoordinatorId) (name : String) (due : TaskId → Prop)
    (budget : Nat) : Prop where
  temperate : s'.scheduler.Temperate c name
  funded : s'.scheduler.Funded c name due budget
  nexts : ∀ k, s.scheduler.coordinators[c]? = some k → Nexts s.scheduler.throttle.period s.now
    (s.scheduler.account name) (s'.scheduler.account name)

theorem Affords.refl (ht : s.scheduler.Temperate c name) (hf : s.scheduler.Funded c name due budget) :
    s.Affords s c name due budget := ⟨ht, hf, fun _ _ => .refl⟩

/-- What the change detector remembers has no part in that. -/
theorem Affords.withInventory (h : s.Affords s' c name due budget) (inventory : NameMap TaskStamps) :
    s.Affords (s'.withInventory inventory) c name due budget where
  temperate := ⟨h.temperate.within, h.temperate.called⟩
  funded := ⟨⟨h.funded.used, h.funded.blank⟩,
    fun t m hc => h.funded.fits t m ⟨hc.share, hc.active, hc.due⟩,
    fun t u m n ht hu => h.funded.alone t u m n ⟨ht.share, ht.active, ht.due⟩
      ⟨hu.share, hu.active, hu.due⟩⟩
  nexts := h.nexts

/-- The turns of a batch are affordable. -/
theorem Turns.affords (h : Turns t s s') (ho : s.scheduler.Flight) (he : s.scheduler.Enrolled)
    (hp : s.scheduler.Sourced) (hs : s'.scheduler.Stands c name)
    (hm : s'.scheduler.Modest name) (ht : s.scheduler.Temperate c name)
    (hf : s.scheduler.Funded c name due budget) (hbudget : budget < Numeral.size64)
    (hdue : s'.scheduler.CountsDue due) : s.Affords s' c name due budget := by
  induction h with
  | refl => exact .refl ht hf
  | @tail s₁ s₂ h₀ h ih =>
    have hmoves := Turns.moves h₀
    have hflight := Moves.flight hmoves ho
    have henrolled := Moves.enrolled hmoves he
    have h₁ := ih (h.lasts.stands hs) (h.lasts.modest hm) (h.lasts.countsDue hdue)
    refine ⟨h.temperate (Turns.sourced h₀ hp) h₁.temperate hs hm,
      h.funded hflight henrolled hs h₁.temperate h₁.funded hbudget hdue, fun k hk => ?_⟩
    obtain ⟨k₁, hk₁, -⟩ := (Moves.lasts hmoves).coordinators c k hk
    have hlast := (h.spends hflight henrolled hs h₁.temperate h₁.funded hbudget hdue hk₁).2.2
    rw [(Moves.lasts hmoves).period, Site.now, Turns.clock h₀] at hlast
    exact (h₁.nexts k hk).trans hlast

/-- Thrifty chores are affordable if no batch that is due is overtaken. -/
theorem Chores.affords (h : Chores s s') (hthrifty : s.scheduler.Thrifty s'.scheduler c name due budget)
    (hflight : s.scheduler.Flight) (he : s.scheduler.Enrolled) (hs : s'.scheduler.Stands c name)
    (ht : s.scheduler.Temperate c name) (hf : s.scheduler.Funded c name due budget)
    (hover : ∀ t, due t → ¬ s'.scheduler.Overtakes c t) : s.Affords s' c name due budget where
  temperate := Chores.temperate h ht
  funded := hthrifty.funded hf ((Chores.moves h).flight hflight) (Chores.budgeted h hf.toBudgeted hs)
    hover
  nexts := fun _ hk => Chores.nexts h he hs hk

/-- Whatever a process does is affordable for a connector whose coordinator stands and whose load stays the
same, as long as its adapters are modest, its batches are started by passes, and no batch that is due is
overtaken. -/
theorem act_affords (hflight : s.scheduler.Flight) (hr : s.scheduler.Registered)
    (he : s.scheduler.Enrolled) (hp : s.scheduler.Sourced) (a : Action) (hstart : ¬ a.Starts c)
    (hs : (s.act a).scheduler.Stands c name) (hm : (s.act a).scheduler.Modest name)
    (hdue : (s.act a).scheduler.CountsDue due)
    (hover : ∀ t, due t → ¬ (s.act a).scheduler.Overtakes c t)
    (hc : s.scheduler.Charged c name load) (ht : s.scheduler.Temperate c name)
    (hf : s.scheduler.Funded c name due (s.scheduler.throttle.budget load)) :
    s.Affords (s.act a) c name due (s.scheduler.throttle.budget load) := by
  have hcall (ha : a.IsCall) := Chores.affords (call_edits hr ha).chores
    (.of_curbs (call_trims hr ha).curbs (Chores.used_le (call_edits hr ha).chores name)) hflight he hs ht hf
    hover
  have hupkeep (ha : a.IsUpkeep) := Chores.affords (s.upkeep_act ha).chores
    (s.upkeep_thrifty hflight ha hstart hc hf.used) hflight he hs ht hf hover
  have hturns {t : TaskId} (h : Turns t s (s.act a)) :=
    Turns.affords h hflight he hp hs hm ht hf (Throttle.budget_lt ..) hdue
  have hworker (h : s.act a = s ∨ ∃ t, Turns t s (s.act a)) :
      s.Affords (s.act a) c name due (s.scheduler.throttle.budget load) := by
    rcases h with he | ⟨t, h⟩
    · exact he.symm ▸ .refl ht hf
    · exact hturns h
  cases a with
  | setConfig | setSchedule | remove | restart => exact hcall trivial
  | pass | askPhase | start | tick | scan | revive | shutDown => exact hupkeep trivial
  | fetch w => exact hworker (s.take_turns w)
  | take w => exact hworker (s.begin_turns w)
  | advance t => exact hturns (s.advance_turns t)
  | answer t x => exact hturns (s.answer_turns t x)
  | proceed t => exact hturns (s.drive_turns t)
  | conclude t x => exact hturns (s.conclude_turns t x)
  | detect =>
    obtain ⟨s', inventory, h, e⟩ := detect_edits hr
    have hcurbs : s.scheduler.pool.Curbs s'.scheduler.pool := by
      have hdetect := (detect_trims hr).curbs
      rw [e] at hdetect
      exact hdetect
    rw [act, e] at hs hover ⊢
    exact (Chores.affords h.chores (.of_curbs hcurbs (Chores.used_le h.chores name)) hflight he hs ht hf
      hover).withInventory inventory

end Site

end BatchTraversal
