import BatchTraversal.Proofs.Process.Funding
import BatchTraversal.Proofs.World.Edits
import BatchTraversal.Proofs.World.Reuse
import Mathlib.Data.List.Infix

/-!
# The load ceiling along a run

As long as a connector's load stays the same and its adapters hand over no more than they are asked for, the
documents counted for it within one load period stay within the budget of that load, if no batch is
counted that was still executed when its coordinator had another one in flight (`World.load_ceiling`). A
batch that was made to give way is such a batch: it goes on, its documents are counted, and the hint for
the next batch knew nothing of them (`World.load_ceiling_exceeded`).
-/

namespace BatchTraversal

/-- Whether a point in time is in the present load period of a connector. -/
def Throttle.InPeriod (t : Throttle) (name : String) (m : Instant) : Prop :=
  ∃ e ∈ t.entries.find? name, ∃ stop ∈ e.periodStart.after? t.period,
    e.periodStart.nanos ≤ m.nanos ∧ m.nanos < stop.nanos

instance (t : Throttle) (name : String) (m : Instant) : Decidable (t.InPeriod name m) :=
  inferInstanceAs (Decidable (∃ e ∈ _, ∃ stop ∈ _, _))

namespace World

open LoadAccount

variable {w : World} {s : Site} {events before done : List Event} {i : Nat} {c : CoordinatorId}
  {k : Coordinator} {name : String} {load : Nat} {p q : Scheduler}

/-- Whether the clock never goes back along some events, the load of a coordinator's schedule stays the same,
and its batches are started by passes. -/
structure Governed (w : World) (events : List Event) (i : Nat) (c : CoordinatorId) (load : Nat) :
    Prop where
  forward : ∀ before after, before <+: after → after <+: events →
    (w.run before).clock.now.nanos ≤ (w.run after).clock.now.nanos
  load : ∀ before p k schedule, before <+: events → (w.run before).schedulers[i]? = some p →
    p.coordinators[c]? = some k → k.schedule = some schedule → schedule.load = load
  passes : ∀ a, .act i a ∈ events → ¬ a.Starts c

/-- Whether a batch was still executed, at some moment of a run, when its coordinator had another one in
flight. -/
def Overtaken (w : World) (events : List Event) (i : Nat) (c : CoordinatorId) (t : TaskId) : Prop :=
  ∃ before p, before <+: events ∧ (w.run before).schedulers[i]? = some p ∧ p.Overtakes c t

/-- Whether, after some of the events of a run, the batches of a coordinator are temperate, its connector is
funded for those that are not overtaken, and the account of the connector covers every moment at which the
coordinator was there. -/
structure Rationed (w : World) (events : List Event) (i : Nat) (c : CoordinatorId) (name : String)
    (load : Nat) (done : List Event) (p : Scheduler) : Prop where
  temperate : p.Temperate c name
  funded : p.Funded c name (fun t => ¬ w.Overtaken events i c t) (p.throttle.budget load)
  covers : ∀ before p₀ k, before <+: done → (w.run before).schedulers[i]? = some p₀ →
    p₀.coordinators[c]? = some k → 0 < p.throttle.period.nanos →
    Covers p.throttle.period (w.run before).clock.now (p₀.tally name) (p.account name)

theorem rationed_start (hw : w.Initial) (hp : w.schedulers[i]? = some p) :
    w.Rationed events i c name load [] p := by
  have hstart := hw p (List.mem_of_getElem? hp)
  refine ⟨Scheduler.temperate_start hstart, Scheduler.funded_start hstart,
    fun before p₀ k hb hp₀ _ _ => ?_⟩
  rw [List.prefix_nil.1 hb] at hp₀
  cases hp.symm.trans hp₀
  exact Covers.refl (p.account name)

/-- A step in which the process has no part changes nothing. -/
theorem Rationed.idle {e : Event} (h : w.Rationed events i c name load done p)
    (hp : (w.run (done ++ [e])).schedulers[i]? = some p) :
    w.Rationed events i c name load (done ++ [e]) p := by
  refine ⟨h.temperate, h.funded, fun before p₀ k hb hp₀ hk hpos => ?_⟩
  rcases List.prefix_concat_iff.1 hb with rfl | hb
  · cases hp.symm.trans hp₀
    exact Covers.refl (p.account name)
  · exact h.covers before p₀ k hb hp₀ hk hpos

/-- An action of the process keeps to the budget, if the coordinator stands at the end of the run, the
adapters have been modest and nothing was counted for batches that are overtaken. -/
theorem Rationed.act {a : Action} (hw : w.Initial) (hg : w.Governed events i c load)
    (hq : (w.run events).schedulers[i]? = some q) (hs : q.Stands c name) (hm : q.Modest name)
    (hdue : q.CountsDue fun t => ¬ w.Overtaken events i c t) (hsite : (w.run done).site? i = some s)
    (hpre : done ++ [.act i a] <+: events) (h : w.Rationed events i c name load done s.scheduler) :
    w.Rationed events i c name load (done ++ [.act i a]) (s.act a).scheduler := by
  have hpre₀ : done <+: events := (List.prefix_append done _).trans hpre
  obtain ⟨hp₀, -, hclock⟩ := site?_eq_some.1 hsite
  have hp : (w.run (done ++ [.act i a])).schedulers[i]? = some (s.act a).scheduler := by
    rw [run_act hsite]
    exact withSite_self hsite _
  have hlasts₀ := run_lasts hw hpre₀ hp₀ hq
  have hlasts := run_lasts hw hpre hp hq
  have ho := run_orderly hw done _ (List.mem_of_getElem? hp₀)
  have hcharged : s.scheduler.Charged c name load := fun k hk =>
    ⟨(hlasts₀.stands hs k hk).1, fun schedule => hg.load done _ k schedule hpre₀ hp₀ hk⟩
  have hstart : ¬ a.Starts c :=
    hg.passes a (hpre.subset (List.mem_append_right _ (List.mem_singleton_self _)))
  have hafford := Site.act_affords ho.flight ho.registered
    (run_enrolled hw done _ (List.mem_of_getElem? hp₀)) (run_reserved hw hp₀).1 a hstart
    (hlasts.stands hs) (hlasts.modest hm) (hlasts.countsDue hdue)
    (fun t hnot hover => hnot ⟨_, _, hpre, hp, hover⟩) hcharged h.temperate h.funded
  have hperiod := (Site.act_lasts ho.registered a).period
  refine ⟨hafford.temperate, Throttle.budget_congr hperiod load ▸ hafford.funded,
    fun before p₀ k hb hp₁ hk hpos => ?_⟩
  rcases List.prefix_concat_iff.1 hb with rfl | hb
  · cases hp.symm.trans hp₁
    exact Covers.refl (Scheduler.account _ name)
  · obtain ⟨k₁, hk₁, -⟩ := (run_lasts hw hb hp₁ hp₀).coordinators c k hk
    rw [hperiod] at hpos ⊢
    refine (hafford.nexts k₁ hk₁).covers hpos ?_ (h.covers before p₀ k hb hp₁ hk hpos)
    rw [Site.now, hclock]
    exact hg.forward before done hb hpre₀

/-- Along a run the connector of a coordinator that stands keeps to the budget. -/
theorem run_rationed (hw : w.Initial) (hg : w.Governed events i c load)
    (hq : (w.run events).schedulers[i]? = some q) (hs : q.Stands c name) (hm : q.Modest name)
    (hdue : q.CountsDue fun t => ¬ w.Overtaken events i c t) (hpre : done <+: events)
    (hp : (w.run done).schedulers[i]? = some p) : w.Rationed events i c name load done p := by
  induction done using List.reverseRecOn generalizing p with
  | nil => exact rationed_start hw hp
  | append_singleton done e ih =>
    have hpre₀ : done <+: events := (List.prefix_append done [e]).trans hpre
    have hstep := hp
    rw [run_concat] at hstep
    rcases step_schedulers (w.run done) e i hstep with ⟨a, s, rfl, hsite, -, rfl⟩ | hsame
    · exact (ih hpre₀ (site?_eq_some.1 hsite).1).act hw hg hq hs hm hdue hsite hpre
    · exact (ih hpre₀ hsame).idle hp

/-- At every moment of a run, for every coordinator that is not removed: if the clock never went back, the
load of the coordinator's schedule has always been the same, its batches were started by passes, its
adapters have handed over no more than they were asked for, and no documents were counted for batches that
were still executed when the coordinator had another one in flight, then the documents counted in the
connector's present load period are no more than the throttle's budget for that load. That is so for the
documents in the throttle's entry, and for those the journal tells were counted since any moment of the
period at which the coordinator was there. -/
theorem load_ceiling (hw : w.Initial) (hg : w.Governed events i c load)
    (hp : (w.run events).schedulers[i]? = some p) (hk : p.coordinators[c]? = some k)
    (hlive : k.removed = false) (hm : p.Modest k.name)
    (hover : ∀ t, w.Overtaken events i c t → ∀ count ∈ p.folds t, count = 0) :
    p.throttle.used k.name ≤ p.throttle.budget load ∧
      ∀ before p₀ k₀, before <+: events → (w.run before).schedulers[i]? = some p₀ →
        p₀.coordinators[c]? = some k₀ → p.throttle.InPeriod k.name (w.run before).clock.now →
        p.tally k.name ≤ p₀.tally k.name + p.throttle.budget load := by
  have hs : p.Stands c k.name := by
    intro l hl
    cases hk.symm.trans hl
    exact ⟨rfl, hlive⟩
  have hdue : p.CountsDue fun t => ¬ w.Overtaken events i c t := by
    intro t other count hfold
    by_cases ht : w.Overtaken events i c t
    · exact .inr (hover t ht count (List.mem_filterMap.2 ⟨_, hfold, if_pos rfl⟩))
    · exact .inl ht
  have h := run_rationed hw hg hp hs hm hdue List.prefix_rfl hp
  refine ⟨h.funded.used k hk, fun before p₀ k₀ hb hp₀ hk₀ ⟨e, he, stop, hstop, hbegun, hin⟩ => ?_⟩
  have hpos : 0 < p.throttle.period.nanos := by
    have := (Instant.after?_eq_some_iff.1 hstop).1
    omega
  have hsince := (h.covers before p₀ k₀ hb hp₀ hk₀ hpos).since e.periodStart
    (by rw [Scheduler.account, Throttle.account, Option.mem_def.1 he]; rfl) hbegun
  exact Nat.le_trans hsince (Nat.add_le_add_left (h.funded.used k hk) _)

/-- A clock that stands still governs, with one load and no batch started outside of a pass. -/
theorem governed_of_inits (hclock : ∀ before ∈ events.inits, (w.run before).clock = w.clock)
    (hload : ∀ before ∈ events.inits, ∀ p ∈ (w.run before).schedulers, ∀ k ∈ p.coordinators,
      ∀ schedule ∈ k.schedule, schedule.load = load)
    (hpasses : ∀ a, .act i a ∈ events → ¬ a.Starts c) : w.Governed events i c load := by
  refine ⟨fun before after hba ha => ?_, fun before p k schedule hb hp hk hs => ?_, hpasses⟩
  · have hstill : (w.run before).clock = (w.run after).clock :=
      (hclock _ ((List.mem_inits ..).2 (hba.trans ha))).trans (hclock _ ((List.mem_inits ..).2 ha)).symm
    exact Int.le_of_eq (congrArg (·.now.nanos) hstill)
  · exact hload before ((List.mem_inits ..).2 hb) p (List.mem_of_getElem? hp) k
      (List.mem_of_getElem? hk) schedule hs

/-- Where only the batches in flight are executed, none is overtaken. -/
theorem not_overtaken_of_inits (h : ∀ before ∈ events.inits, ∀ p ∈ (w.run before).schedulers,
    ∀ k ∈ p.coordinators, ∀ t ∈ p.pool.executing.map (·.2), ∀ u ∈ k.handle, u = t) (t : TaskId) :
    ¬ w.Overtaken events i c t := by
  rintro ⟨before, p, hb, hp, k, u, g, hk, hh, hne, -, hx⟩
  exact hne (h before ((List.mem_inits ..).2 hb) p (List.mem_of_getElem? hp) k
    (List.mem_of_getElem? hk) t (Pool.isExecuting_iff.1 hx) u hh)

/-- Once it is configured, a connector has a coordinator, and nothing was counted for it. -/
theorem tally_configured : ∃ p k, (solo.run (firstBatch.take 1)).schedulers[0]? = some p ∧
    p.coordinators[0]? = some k ∧ p.tally "a" = 0 := by
  have h : ((solo.run (firstBatch.take 1)).schedulers[0]?).map (fun p =>
      (p.tally "a", (p.coordinators[0]?).isSome)) = some (0, true) := by decide +kernel
  obtain ⟨p, hp, he⟩ := Option.map_eq_some_iff.1 h
  obtain ⟨htally, hthere⟩ := Prod.mk.inj he
  obtain ⟨k, hk⟩ := Option.isSome_iff_exists.1 hthere
  exact ⟨p, k, hp, hk, htally⟩

/-- Two batches of a connector, one after the other, use up what its load allows. -/
def spent : List Event :=
  firstBatch ++ [.act 0 (.conclude 0 (.page ⟨40, none⟩)), .act 0 (.pass [0]), .act 0 (.take 0),
    .act 0 (.conclude 1 (.page ⟨20, none⟩))]

theorem governed_spent : solo.Governed spent 0 0 60 := by
  refine governed_of_inits (by decide +kernel) (by decide +kernel) fun a ha hs => ?_
  simp only [spent, firstBatch, List.cons_append, List.nil_append, List.mem_cons, List.not_mem_nil,
    or_false, Event.act.injEq, true_and] at ha
  obtain rfl | rfl | rfl | rfl | rfl | rfl | rfl | rfl := ha <;> cases hs

/-- The two batches have exactly what the load allows, in a period that began with the first of them. -/
theorem load_ceiling_spent : ∃ p p₀ k, (solo.run spent).schedulers[0]? = some p ∧
    p.coordinators[0]? = some k ∧ solo.Governed spent 0 0 60 ∧ p.Modest k.name ∧
    (∀ t, solo.Overtaken spent 0 0 t → ∀ count ∈ p.folds t, count = 0) ∧
    (solo.run (firstBatch.take 1)).schedulers[0]? = some p₀ ∧
    p.throttle.InPeriod k.name (solo.run (firstBatch.take 1)).clock.now ∧
    (p.throttle.used k.name = 60 ∧ p.tally k.name = 60 ∧ p.throttle.budget 60 = 60) ∧
    p₀.tally k.name = 0 ∧ p.throttle.used k.name ≤ p.throttle.budget 60 ∧
    p.tally k.name ≤ p₀.tally k.name + p.throttle.budget 60 := by
  obtain ⟨p, hp⟩ : ∃ p, (solo.run spent).schedulers[0]? = some p := ⟨_, rfl⟩
  obtain ⟨p₀, k₀, hp₀, hk₀, hnothing⟩ := tally_configured
  have hend : ((solo.run spent).schedulers[0]?).map (fun p =>
      ((p.coordinators[0]?).map fun k => (k.name, k.removed), decide (p.Modest "a" ∧
        p.throttle.InPeriod "a" (solo.run (firstBatch.take 1)).clock.now ∧ p.throttle.used "a" = 60 ∧
        p.tally "a" = 60 ∧ p.throttle.budget 60 = 60))) = some (some ("a", false), true) := by
    decide +kernel
  rw [hp, Option.map_some, Option.some.injEq] at hend
  obtain ⟨hcoordinator, hfacts⟩ := Prod.mk.inj hend
  obtain ⟨k, hk, he⟩ := Option.map_eq_some_iff.1 hcoordinator
  obtain ⟨hname, hlive⟩ := Prod.mk.inj he
  rw [← hname] at hfacts hnothing
  obtain ⟨hmodest, hin, hnumbers⟩ := of_decide_eq_true hfacts
  have hnone : ∀ t, solo.Overtaken spent 0 0 t → ∀ count ∈ p.folds t, count = 0 :=
    fun t ht => absurd ht (not_overtaken_of_inits (by decide +kernel) t)
  obtain ⟨hused, hsince⟩ := load_ceiling initial_solo governed_spent hp hk hlive hmodest hnone
  exact ⟨p, p₀, k, hp, hk, governed_spent, hmodest, hnone, hp₀, hin, hnumbers, hnothing, hused,
    hsince _ p₀ k₀ ⟨spent.drop 1, rfl⟩ hp₀ hk₀ hin⟩

/-- A batch is made to give way by another schedule with the same load, and ends only after a pass has
started the next one. -/
def crowded : List Event :=
  firstBatch ++ [.act 0 (.setSchedule "a" "a:60:1000:0-24"), .act 0 (.pass [0]),
    .act 0 (.conclude 0 (.page ⟨60, none⟩)), .act 0 (.take 0), .act 0 (.conclude 1 (.page ⟨60, none⟩))]

theorem governed_crowded : solo.Governed crowded 0 0 60 := by
  refine governed_of_inits (by decide +kernel) (by decide +kernel) fun a ha hs => ?_
  simp only [crowded, firstBatch, List.cons_append, List.nil_append, List.mem_cons, List.not_mem_nil,
    or_false, Event.act.injEq, true_and] at ha
  obtain rfl | rfl | rfl | rfl | rfl | rfl | rfl | rfl | rfl := ha <;> cases hs

/-- Each of the two batches has what the load allows by itself. -/
theorem load_ceiling_exceeded : ¬ ∀ (w : World) (events before : List Event) (i : Nat)
    (c : CoordinatorId) (load : Nat) (p p₀ : Scheduler) (k k₀ : Coordinator), w.Initial →
    w.Governed events i c load → (w.run events).schedulers[i]? = some p →
    p.coordinators[c]? = some k → k.removed = false → p.Modest k.name → before <+: events →
    (w.run before).schedulers[i]? = some p₀ → p₀.coordinators[c]? = some k₀ →
    p.throttle.InPeriod k.name (w.run before).clock.now →
    p.tally k.name ≤ p₀.tally k.name + p.throttle.budget load := by
  intro h
  obtain ⟨p, hp⟩ : ∃ p, (solo.run crowded).schedulers[0]? = some p := ⟨_, rfl⟩
  obtain ⟨p₀, k₀, hp₀, hk₀, hnothing⟩ := tally_configured
  have hend : ((solo.run crowded).schedulers[0]?).map (fun p =>
      ((p.coordinators[0]?).map fun k => (k.name, k.removed), decide (p.Modest "a" ∧
        p.throttle.InPeriod "a" (solo.run (firstBatch.take 1)).clock.now ∧
        p.tally "a" = 120 ∧ p.throttle.budget 60 = 60))) = some (some ("a", false), true) := by
    decide +kernel
  rw [hp, Option.map_some, Option.some.injEq] at hend
  obtain ⟨hcoordinator, hfacts⟩ := Prod.mk.inj hend
  obtain ⟨k, hk, he⟩ := Option.map_eq_some_iff.1 hcoordinator
  obtain ⟨hname, hlive⟩ := Prod.mk.inj he
  rw [← hname] at hfacts hnothing
  obtain ⟨hmodest, hin, htally, hbudget⟩ := of_decide_eq_true hfacts
  have hle := h solo crowded _ 0 0 60 p p₀ k k₀ initial_solo governed_crowded hp hk hlive hmodest
    ⟨crowded.drop 1, rfl⟩ hp₀ hk₀ hin
  omega

end World

end BatchTraversal
