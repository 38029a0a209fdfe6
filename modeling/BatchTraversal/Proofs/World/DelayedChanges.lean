import BatchTraversal.Proofs.Detection.Misses
import BatchTraversal.Proofs.World.Runs
import Mathlib.Data.List.Induction

/-!
# Changes that a failing store delays

Once the store does not fail any more, the next detection of a process brings it up to what is stored
(`World.changes_delayed`), whatever failed before and whoever wrote to the store meanwhile. The exception is
a schedule that the process overlooks (`Site.Overlooks`): of that one the process has missed the change at
some earlier moment (`World.Missed`), and it has overlooked it ever since. So there are changes that a
failing store does not delay but loses (`World.changes_lost`), of schedules and never of configurations.
-/

namespace BatchTraversal

/-- Whether a write of somebody else is one of the edits that a store offers. -/
def Event.Genuine : Event → Prop
  | write edit => ∃ e : Store.Edit, edit = e.apply
  | act .. | setClock _ | advanceClock _ | fate .. => True

/-- Whether every live coordinator whose connector is listed goes by the stored configuration and by the
stored schedule, if there is one. -/
def Site.UpToDate (s : Site) : Prop :=
  ∀ (c : CoordinatorId) (k : Coordinator) (config : ConnectorConfig),
    s.scheduler.coordinators[c]? = some k → k.removed = false →
    s.backend.store.configuration? k.name = some config → k.config = some config ∧
      ∀ schedule, s.backend.store.schedule? k.name = some schedule → k.schedule = some schedule

namespace World

variable {w : World} {events : List Event} {i : Nat} {s : Site} {name : String} {y : Stamped Schedule}

/-! ## What the processes know along a run -/

/-- Whether all processes are informed, with stamps that were given out in order. -/
structure Informed (w : World) : Prop where
  dated : w.backend.store.Dated
  orderly : ∀ p ∈ w.schedulers, p.Orderly
  informed : ∀ p ∈ w.schedulers, p.Informed w.backend.store

theorem informed_initial (hw : w.Initial) (hd : w.backend.store.Dated) : w.Informed := by
  refine ⟨hd, run_orderly hw [], fun p hp => ⟨?_, ?_, ?_⟩⟩ <;> intro name stamps <;>
    simp [Scheduler.inventory_start (hw p hp)]

/-- Whatever happens lets the store evolve, if what somebody else writes is an edit. -/
theorem Informed.evolves (h : w.Informed) {e : Event} (he : e.Genuine) :
    w.backend.store.Evolves (w.step e).backend.store := by
  cases e with
  | setClock | advanceClock | fate => exact .refl _
  | write edit =>
    obtain ⟨e, rfl⟩ := he
    exact e.evolves w.backend.store
  | act j a =>
    cases hs : w.site? j with
    | none =>
      rw [step, hs]
      exact .refl _
    | some s =>
      obtain ⟨hp, hb, -⟩ := site?_eq_some.1 hs
      have hact := Site.act_becomes (h.orderly _ (List.mem_of_getElem? hp)).registered a
      rw [step_act hs]
      exact hb ▸ hact.store

theorem Informed.step (h : w.Informed) {e : Event} (he : e.Genuine) : (w.step e).Informed := by
  have hevolves := h.evolves he
  refine ⟨hevolves.dated h.dated, fun p hp => ?_, fun p hp => ?_⟩ <;>
    obtain ⟨j, hj⟩ := List.getElem?_of_mem hp <;>
    rcases step_schedulers w e j hj with ⟨a, s, rfl, hs, hstep, rfl⟩ | hsame
  · exact Site.orderly_act (h.orderly _ (List.mem_of_getElem? (site?_eq_some.1 hs).1)) a
  · exact h.orderly p (List.mem_of_getElem? hsame)
  · obtain ⟨hq, hb, -⟩ := site?_eq_some.1 hs
    have hq := List.mem_of_getElem? hq
    rw [hstep]
    exact Site.informed_act (h.orderly _ hq).registered (hb ▸ h.dated) (hb ▸ h.informed _ hq) a
  · exact (h.informed p (List.mem_of_getElem? hsame)).evolves hevolves

/-- All processes are informed along every run. -/
theorem run_informed (h : w.Informed) (he : ∀ e ∈ events, e.Genuine) : (w.run events).Informed := by
  induction events generalizing w with
  | nil => exact h
  | cons e rest ih =>
    exact ih (h.step (he e List.mem_cons_self)) fun e' he' => he e' (List.mem_cons_of_mem e he')

/-! ## What the processes overlook along a run -/

/-- Whether along a run a process missed a schedule in one of its actions, which it did not overlook
before, and has overlooked it ever since. -/
def Missed (w : World) (events : List Event) (i : Nat) (name : String) (y : Stamped Schedule) : Prop :=
  ∃ before a after s, events = before ++ .act i a :: after ∧ (w.run before).site? i = some s ∧
    ¬ s.Overlooks name y ∧ s.Misses name y a ∧ ∀ more s', more <+: after →
      (w.run (before ++ .act i a :: more)).site? i = some s' → s'.Overlooks name y

/-- What was missed and is overlooked after one more event has been overlooked ever since. -/
theorem Missed.concat (h : w.Missed events i name y) {e : Event}
    (hs : (w.run (events ++ [e])).site? i = some s) (ho : s.Overlooks name y) :
    w.Missed (events ++ [e]) i name y := by
  obtain ⟨before, a, after, s₀, rfl, hs₀, hnew, hmiss, hsince⟩ := h
  refine ⟨before, a, after ++ [e], s₀, by simp, hs₀, hnew, hmiss, fun more s' hmore hs' => ?_⟩
  rcases List.prefix_concat_iff.1 hmore with rfl | hmore
  · rw [List.append_assoc, List.cons_append, hs'] at hs
    cases hs
    exact ho
  · exact hsince more s' hmore hs'

/-- A schedule that is overlooked after an event was overlooked before, or the process acted and missed
it. -/
theorem overlooks_step (h : w.Informed) {e : Event} (he : e.Genuine) {s' : Site}
    (hs' : (w.step e).site? i = some s') (ho : s'.Overlooks name y) :
    (∃ s, w.site? i = some s ∧ s.Overlooks name y) ∨
      ∃ a s, e = .act i a ∧ w.site? i = some s ∧ s.Misses name y a := by
  obtain ⟨hp', hb', -⟩ := site?_eq_some.1 hs'
  rcases step_schedulers w e i hp' with ⟨a, s, rfl, hs, hstep, -⟩ | hsame
  · obtain ⟨hp, hb, -⟩ := site?_eq_some.1 hs
    have hp := List.mem_of_getElem? hp
    rw [hstep] at hs'
    cases eq_of_site?_withSite hs'
    rcases Site.overlooks_act (h.orderly _ hp).registered (hb ▸ h.informed _ hp) ho with hold | hmiss
    · exact .inl ⟨s, hs, hold⟩
    · exact .inr ⟨a, s, rfl, hs, hmiss⟩
  · -- the process did nothing, and the schedule that it has seen was stored before
    obtain ⟨hy, ⟨stamps, hfound, hstamp⟩, hlive⟩ := ho
    refine .inl ⟨⟨s'.scheduler, w.backend, w.clock⟩, site?_eq_some.2 ⟨hsame, rfl, rfl⟩, ?_,
      ⟨stamps, hfound, hstamp⟩, hlive⟩
    rw [hb'] at hy
    exact (h.informed _ (List.mem_of_getElem? hsame)).schedule_stored (h.evolves he) hfound hy hstamp

/-- A schedule that a process overlooks it has missed at some moment of the run, and it has overlooked it
ever since. -/
theorem run_missed (hw : w.Initial) (hd : w.backend.store.Dated) (he : ∀ e ∈ events, e.Genuine)
    (hs : (w.run events).site? i = some s) (ho : s.Overlooks name y) : w.Missed events i name y := by
  induction events using List.reverseRecOn generalizing s with
  | nil =>
    obtain ⟨stamps, hfound, -⟩ := ho.seen
    have hp := List.mem_of_getElem? (site?_eq_some.1 hs).1
    rw [Scheduler.inventory_start (hw _ hp)] at hfound
    cases hfound
  | append_singleton events e ih =>
    have hbefore : ∀ e ∈ events, e.Genuine := fun e' he' => he e' (List.mem_append_left _ he')
    have hinformed := run_informed (informed_initial hw hd) hbefore
    have hstep := hs
    rw [run_concat] at hstep
    by_cases hold : ∃ s₀, (w.run events).site? i = some s₀ ∧ s₀.Overlooks name y
    · obtain ⟨s₀, hs₀, ho₀⟩ := hold
      exact (ih hbefore hs₀ ho₀).concat hs ho
    · obtain ⟨a, s₀, rfl, hs₀, hmiss⟩ :=
        (overlooks_step hinformed (he e (by simp)) hstep ho).resolve_left hold
      refine ⟨events, a, [], s₀, rfl, hs₀, fun ho₀ => hold ⟨s₀, hs₀, ho₀⟩, hmiss,
        fun more s' hmore hs' => ?_⟩
      rw [List.prefix_nil.1 hmore, hs] at hs'
      cases hs'
      exact ho

/-! ## The detection after the failures -/

/-- At every moment of every run at which the store will not fail any more, whatever failed before, a
detection of a process succeeds and leaves the store as it is. Afterwards every live coordinator whose
connector is listed goes by the stored configuration, and by the stored schedule, if there is one, exactly
if the process did not overlook that schedule before. A schedule that it overlooked it has missed at some
moment of the run, and it has overlooked it ever since. -/
theorem changes_delayed (hw : w.Initial) (hd : w.backend.store.Dated) (he : ∀ e ∈ events, e.Genuine)
    (hs : (w.run events).site? i = some s) (hb : s.backend.Reliable) :
    (∃ total, s.detect.1 = .ok total) ∧ (s.act .detect).backend.store = s.backend.store ∧
    ∀ (c : CoordinatorId) (k : Coordinator) (config : ConnectorConfig),
      (s.act .detect).scheduler.coordinators[c]? = some k → k.removed = false →
      s.backend.store.configuration? k.name = some config → k.config = some config ∧
        ∀ y, (s.backend.store.task k.name).schedule = some y →
          (k.schedule = some y.value ↔ ¬ s.Overlooks k.name y) ∧
          (s.Overlooks k.name y → w.Missed events i k.name y) := by
  obtain ⟨hp, hback, -⟩ := site?_eq_some.1 hs
  have hp := List.mem_of_getElem? hp
  have hinformed := run_informed (informed_initial hw hd) he
  have hr := (hinformed.orderly _ hp).registered
  have hi : s.scheduler.Informed s.backend.store := hback ▸ hinformed.informed _ hp
  obtain ⟨hok, -, hstore, hinv, -⟩ := Site.terms?_detect hr hb
  refine ⟨hok, hstore, fun c k config hk hlive hconfig => ?_⟩
  obtain ⟨x, hx, rfl⟩ := Option.map_eq_some_iff.1 hconfig
  have hreg := (Site.enrolled_act hr (run_enrolled hw events _ hp) .detect).registered c k hk hlive
  have hterms := Scheduler.terms?_of_coordinator? hreg hk
  refine ⟨?_, fun y hy => ⟨Site.schedule_detect_iff hr hb hx hy hterms, run_missed hw hd he hs⟩⟩
  -- the inventory is the listing now
  have hi' := Site.informed_detect hr (hback ▸ hinformed.dated) hi
  refine hi'.configuration k.name _ x k.terms ?_ (hstore.symm ▸ hx) (Store.stamps_configuration hx) hterms
  rw [hinv]
  exact Store.find?_list_of_stored hx

/-- Whenever the load allows it, and at every hour. -/
def allDay : Schedule :=
  { name := "a", disabled := false, load := 60, retryDelay := .millis 0, intervals := [⟨0, 24⟩] }

/-- Somebody else configures a connector and schedules it, and then one call of the store fails a
detection. -/
def foreign (m : StoreMethod) : List Event :=
  [.write (Store.Edit.apply (.configuration "a" { kind := "any" })),
    .write (Store.Edit.apply (.schedule "a" allDay)), .fate m [true], .act 0 .detect]

theorem genuine_foreign (m : StoreMethod) : ∀ e ∈ foreign m, e.Genuine := by
  intro e he
  simp only [foreign, List.mem_cons, List.not_mem_nil, or_false] at he
  rcases he with rfl | rfl | rfl | rfl
  · exact ⟨_, rfl⟩
  · exact ⟨_, rfl⟩
  · trivial
  · trivial

/-- A detection that cannot read the new configuration is made up for by the next one. -/
theorem changes_delayed_reread : ∃ s k, (solo.run (foreign .readConfiguration)).site? 0 = some s ∧
    (s.act .detect).scheduler.coordinators[0]? = some k ∧
    k.config = some { kind := "any" } ∧ k.schedule = some allDay := by
  obtain ⟨s, hs⟩ : ∃ s, (solo.run (foreign .readConfiguration)).site? 0 = some s := ⟨_, rfl⟩
  have hback := (site?_eq_some.1 hs).2.1
  have hb : s.backend.Reliable := by
    rw [hback]
    intro m
    cases m <;> decide +kernel
  have hshown : ((solo.run (foreign .readConfiguration)).site? 0).map (fun s =>
      (s.scheduler.inventory.find? "a", s.backend.store.configuration? "a",
        (s.backend.store.task "a").schedule)) =
      some (none, some { kind := "any" }, some ⟨2, allDay⟩) := by decide +kernel
  have hlive : ((solo.run (foreign .readConfiguration)).site? 0).map (fun s =>
      ((s.act .detect).scheduler.coordinators[0]?).map fun k => (k.name, k.removed)) =
      some (some ("a", false)) := by decide +kernel
  rw [hs, Option.map_some, Option.some.injEq, Prod.mk.injEq, Prod.mk.injEq] at hshown
  rw [hs, Option.map_some, Option.some.injEq] at hlive
  obtain ⟨hinv, hconfig, hy⟩ := hshown
  obtain ⟨k, hk, he⟩ := Option.map_eq_some_iff.1 hlive
  obtain ⟨hname, hremoved⟩ := Prod.mk.inj he
  obtain ⟨-, -, h⟩ := changes_delayed initial_solo Store.dated_empty (genuine_foreign _) hs hb
  obtain ⟨hset, hscheduled⟩ := h 0 k { kind := "any" } hk hremoved (by rw [hname]; exact hconfig)
  -- the aborted detection has left the inventory as it was
  refine ⟨s, k, hs, hk, hset, (hscheduled _ (by rw [hname]; exact hy)).1.2 fun ho => ?_⟩
  obtain ⟨stamps, hfound, -⟩ := ho.seen
  rw [hname, hinv] at hfound
  cases hfound

/-- A connector is configured and scheduled, not to be polled again once there is nothing new, and
detected. Its batch finds nothing new while the store fails. -/
def exhausted : List Event :=
  [.act 0 (.setConfig "a" { kind := "any" }), .act 0 (.setSchedule "a" "a:60:-1:0-24"), .act 0 .detect,
    .act 0 (.pass [0]), .act 0 (.take 0), .fate .storeSchedule [true], .act 0 (.conclude 0 .noContent)]

/-- What the schedule of that connector says. -/
def untilExhausted : Schedule := { allDay with retryDelay := .pollingDisabled }

/-- Whether after these events, in every world in which the store will not fail any more, a detection leaves
every process up to date. -/
def Recovers (events : List Event) : Prop :=
  ∀ (w : World) (i : Nat) (s : Site), w.Initial → w.backend.store.Dated → (∀ e ∈ events, e.Genuine) →
    (w.run events).site? i = some s → s.backend.Reliable → (s.act .detect).UpToDate

/-- A run of the process by itself does not recover if a detection leaves the only coordinator with another
schedule than the stored one. -/
theorem not_recovers_of_shown (shown : Option Schedule) (stored : Schedule) (he : ∀ e ∈ events, e.Genuine)
    (hb : (solo.run events).backend.Reliable)
    (hshown : ((solo.run events).site? 0).map (fun s =>
      ((s.act .detect).scheduler.coordinators[0]?.map fun k => (k.name, k.removed, k.schedule),
        (s.act .detect).backend.store.configuration? "a",
        (s.act .detect).backend.store.schedule? "a")) =
      some (some ("a", false, shown), some { kind := "any" }, some stored)) (hne : shown ≠ some stored) :
    ¬ Recovers events := by
  intro h
  obtain ⟨s, hs, hshown⟩ := Option.map_eq_some_iff.1 hshown
  obtain ⟨hlive, hstore⟩ := Prod.mk.inj hshown
  obtain ⟨hconfig, hschedule⟩ := Prod.mk.inj hstore
  obtain ⟨k, hk, hterms⟩ := Option.map_eq_some_iff.1 hlive
  obtain ⟨hname, hterms⟩ := Prod.mk.inj hterms
  obtain ⟨hremoved, rfl⟩ := Prod.mk.inj hterms
  rw [← hname] at hconfig hschedule
  have hup := h solo 0 s initial_solo Store.dated_empty he hs ((site?_eq_some.1 hs).2.1 ▸ hb)
  exact hne ((hup 0 k _ hk hremoved hconfig).2 stored hschedule)

/-- A schedule that a listener could not read is not read again, and one that is disabled in the process
only stays so. -/
theorem changes_lost : ¬ Recovers (foreign .readSchedule) ∧ ¬ Recovers exhausted := by
  constructor
  · have hb : (solo.run (foreign .readSchedule)).backend.Reliable := by
      intro m
      cases m <;> decide +kernel
    exact not_recovers_of_shown none allDay (genuine_foreign _) hb (by decide +kernel) (by simp)
  · have hb : (solo.run exhausted).backend.Reliable := by
      intro m
      cases m <;> decide +kernel
    have he : ∀ e ∈ exhausted, e.Genuine := by
      intro e he
      simp only [exhausted, List.mem_cons, List.not_mem_nil, or_false] at he
      rcases he with rfl | rfl | rfl | rfl | rfl | rfl | rfl <;> trivial
    exact not_recovers_of_shown (some (untilExhausted.withDisabled true)) untilExhausted he hb
      (by decide +kernel) (by decide)

end World

end BatchTraversal
