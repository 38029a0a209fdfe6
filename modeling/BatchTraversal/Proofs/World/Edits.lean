import BatchTraversal.Proofs.Process.Calls
import BatchTraversal.Proofs.World.Convergence

/-!
# Schedules that are stored and disabled

A process that disables a schedule stores it as a whole, as it goes by it. So what is stored for a
connector after its schedule was set stays what was set, perhaps disabled, as long as nobody sets it again
or removes the connector, unless another process went by another schedule at that moment, one that turns
polling off: that one may come back, disabled (`World.set_schedule_kept`). It does come back if a batch of
that process ends without finding anything new before the process has noticed the edit
(`World.set_schedule_lost`).
-/

namespace BatchTraversal

/-- Whether an action is a call that sets the schedule of a connector or removes it. -/
def Action.Edits (name : String) : Action → Prop
  | setSchedule other _ | remove other => other = name
  | _ => False

/-- Whether some schedules are disabled to stored ones wherever polling is turned off. -/
structure Schedule.Closed (live stored : Schedule → Prop) : Prop where
  covers : ∀ x, stored x → live x
  disabled : ∀ x, live x → x.retryDelay = .pollingDisabled → stored (x.withDisabled true)

/-- What may be left of a schedule that was set while others were in force: itself, or it or one of the
others, which turned polling off, disabled. -/
def Schedule.LeftOf (schedule : Schedule) (others : Schedule → Prop) (x : Schedule) : Prop :=
  x = schedule ∨ x = schedule.withDisabled true ∨
    ∃ y, others y ∧ y.retryDelay = .pollingDisabled ∧ x = y.withDisabled true

/-- What is left is left when it is disabled again. -/
theorem Schedule.closed_leftOf (schedule : Schedule) (others : Schedule → Prop) :
    Closed (fun x => schedule.LeftOf others x ∨ others x) (schedule.LeftOf others) := by
  refine ⟨fun x => .inl, fun x hx hpolling => ?_⟩
  rcases hx with (rfl | rfl | ⟨y, hy, hoff, rfl⟩) | hx
  · exact .inr (.inl rfl)
  · exact .inr (.inl rfl)
  · exact .inr (.inr ⟨y, hy, hoff, rfl⟩)
  · exact .inr (.inr ⟨x, hx, hpolling, rfl⟩)

/-- Whether the schedule that a process goes by for a connector, if it has one, is a certain one. -/
def Scheduler.GoesBy (p : Scheduler) (name : String) (live : Schedule → Prop) : Prop :=
  ∀ v x, p.terms? name = some v → v.schedule = some x → live x

/-- Whether a schedule is stored for a connector, and a certain one. -/
def Store.Keeps (st : Store) (name : String) (stored : Schedule → Prop) : Prop :=
  ∃ x, st.schedule? name = some x ∧ stored x

namespace Site

variable {s s' : Site} {name : String} {t : TaskId} {live stored : Schedule → Prop}

/-- Whether a process and its store go by certain schedules of a connector. -/
structure Follows (s : Site) (name : String) (live stored : Schedule → Prop) : Prop where
  live : s.scheduler.GoesBy name live
  stored : s.backend.store.Keeps name stored

/-- Whether a process follows a schedule depends on its terms and on what is stored. -/
theorem Follows.congr (h : s.Follows name live stored)
    (hterms : s'.scheduler.terms? name = s.scheduler.terms? name)
    (hstore : s'.backend.store.schedule? name = s.backend.store.schedule? name) :
    s'.Follows name live stored := by
  refine ⟨fun v x hv => h.live v x (hterms ▸ hv), ?_⟩
  rw [Store.Keeps, hstore]
  exact h.stored

/-- A coordinator that keeps its terms follows as before. -/
theorem Follows.modify (h : s.Follows name live stored) {c : CoordinatorId}
    {f : Coordinator → Coordinator} (hreg : s'.scheduler.registry = s.scheduler.registry)
    (hc : s'.scheduler.coordinators = s.scheduler.coordinators.modify c f)
    (hf : ∀ k, (f k).terms = k.terms)
    (hstore : s'.backend.store.schedule? name = s.backend.store.schedule? name) :
    s'.Follows name live stored :=
  h.congr (Scheduler.terms?_modify_same hreg hc (fun k _ => hf k) name) hstore

/-! ## Calls -/

/-- A call that sets a connector up changes the terms of that one. -/
theorem Sets.terms? {k : Option Coordinator} {st : Store} (h : s.Sets name k st s') (other : String) :
    s'.scheduler.terms? other = if other = name then k.map (·.terms) else s.scheduler.terms? other := by
  have hknown (p : Scheduler) (other : String) : p.terms? other = (p.known? other).map (·.terms) := by
    rw [Scheduler.terms?, Scheduler.known?, Option.map_bind]
    rfl
  rw [hknown, h.known]
  split
  · rfl
  · exact (hknown _ _).symm

/-- A call that leaves the schedule of the coordinator, and of what is stored, has no part in edits. -/
theorem Follows.sets (h : s.Follows name live stored) {other : String} {k : Coordinator} {st : Store}
    (hs : s.Sets other (some k) st s')
    (hk : k.schedule = none ∨ ∃ k₀, s.scheduler.known? other = some k₀ ∧ k.schedule = k₀.schedule)
    (hstore : st.schedule? name = s.backend.store.schedule? name) : s'.Follows name live stored := by
  refine ⟨fun v x hv hx => ?_, by rw [hs.store, Store.Keeps, hstore]; exact h.stored⟩
  rw [hs.terms?] at hv
  split at hv
  · next he =>
    subst he
    cases hv
    rcases hk with hnone | ⟨k₀, hk₀, hsame⟩
    · rw [show (Coordinator.terms k).schedule = none from hnone] at hx
      cases hx
    · obtain ⟨c, hreg, hc⟩ := Scheduler.known?_eq_some.1 hk₀
      exact h.live _ x (Scheduler.terms?_of_coordinator? hreg hc) (hsame.symm.trans hx)
  · exact h.live v x hv hx

/-- A call on another connector lets the schedule be followed. -/
theorem call_follows (hr : s.scheduler.Registered) (he : s.scheduler.Enrolled)
    (hb : s.backend.Reliable) (h : s.Follows name live stored) {a : Action} (ha : a.IsCall)
    (hn : ¬ a.Edits name) : (s.act a).Follows name live stored := by
  cases a with
  | setConfig other config =>
    rcases setConfig_cases hr he hb other config with ⟨e, hs⟩ | ⟨-, ⟨-, hs⟩ |
      ⟨k, hk, ⟨-, hs⟩ | ⟨-, hs⟩⟩⟩
    · rw [act, hs]
      exact h
    · exact h.sets hs (.inl rfl) (Store.schedule?_storeConfiguration ..)
    · exact h.sets hs (.inr ⟨k, hk, rfl⟩) (Store.schedule?_storeConfiguration ..)
    · refine h.sets hs (.inr ⟨k, hk, rfl⟩) ?_
      rw [Store.schedule?_storeCheckpoint, Store.schedule?_storeConfiguration]
  | restart other =>
    rcases restartConnector_cases hr hb other with ⟨-, e, hs⟩ | ⟨k, hk, -, hs⟩
    · rw [act, hs]
      exact h
    · exact h.sets hs (.inr ⟨k, hk, rfl⟩) (Store.schedule?_storeCheckpoint ..)
  | setSchedule other text =>
    have hne : name ≠ other := fun e => hn e.symm
    rcases setSchedule_call_cases hr hb other text with ⟨e, hs⟩ | ⟨schedule, k, -, hk, -, hs⟩
    · rw [act, hs]
      exact h
    · refine h.congr ((hs.terms? name).trans (if_neg hne)) ?_
      exact (congrArg (Store.schedule? · name) hs.store).trans
        ((Store.schedule?_storeSchedule ..).trans (if_neg hne))
  | remove other =>
    have hne : name ≠ other := fun e => hn e.symm
    rcases removeConnector_cases hr hb other with ⟨e, hs⟩ | ⟨-, hs⟩
    · rw [act, hs]
      exact h
    · refine h.congr ((hs.terms? name).trans (if_neg hne)) ?_
      exact (congrArg (Store.schedule? · name) hs.store).trans
        ((Store.schedule?_removeTask ..).trans (if_neg hne))
  | _ => cases ha

/-! ## Upkeep, turns and detections -/

/-- Upkeep changes no terms and nothing that is stored. -/
theorem Upkeep.follows (h : Upkeep s s') (hf : s.Follows name live stored) :
    s'.Follows name live stored :=
  hf.congr (h.terms? name) (by rw [h.backend])

/-- A step of a run leaves the stored schedules. -/
theorem schedule?_moved (hb : s.backend.Reliable) {b : Batch} {w : Workbench}
    (hback : w.backend = s.backend) :
    (s.moved t b w).backend.store.schedule? name = s.backend.store.schedule? name := by
  have hadv := RunStage.advance_reliable (hback.symm ▸ hb) t (s.scheduler.pool.isTripped t) b.stage
  rw [hback] at hadv
  show ((b.stage.advance t (s.scheduler.pool.isTripped t) w).2.1.backend.store).schedule? name = _
  obtain ⟨-, ⟨-, hstore, -⟩ | ⟨-, -, -, hstore, -⟩ | ⟨count, next, -, -, -, hstore, -⟩⟩ := hadv <;>
    rw [hstore]
  exact Store.schedule?_storeCheckpoint ..

/-- A turn of a batch changes at most the schedule of its connector, which it disables in the coordinator
and in the store. -/
theorem Turn.follows (hc : Schedule.Closed live stored) (h : Turn t s s')
    (hr : s.scheduler.Registered) (he : s.scheduler.Enrolled) (hb : s.backend.Reliable)
    (hf : s.Follows name live stored) : s'.Follows name live stored := by
  cases h with
  | take | answer | crash | retire | choke | count => exact hf.congr rfl rfl
  | move => exact hf.modify rfl rfl (fun _ => rfl) (schedule?_moved hb rfl)
  | @settle b k code hx hbatch hst hk hlive =>
    rcases settleBatch_cases (s.counted t k (BatchResult.ofCode code).count) t b k (.ofCode code) with
      ⟨-, hs⟩ | ⟨-, disabled, hoff, hs⟩ <;> rw [hs]
    · exact hf.modify (f := .settled none) rfl rfl (fun _ => rfl) rfl
    · cases disabled with
      | none => exact hf.modify (f := .settled none) rfl rfl (fun _ => rfl) rfl
      | some d =>
        obtain ⟨schedule, hsch, hpolling, rfl⟩ := hoff d rfl
        have hreg := he.registered _ k hk hlive
        -- the coordinator is the one its name goes by
        have hstored (hname : name = k.name) : stored (schedule.withDisabled true) := by
          subst hname
          exact hc.disabled schedule
            (hf.live _ schedule (Scheduler.terms?_of_coordinator? hreg hk) hsch) hpolling
        refine ⟨fun v x hv hx => ?_, ?_⟩
        · rcases Scheduler.terms?_modify_cases (p := s.scheduler) (c := b.coordinator)
            (f := .settled (some (schedule.withDisabled true))) hv rfl rfl with hv | ⟨l, hregl, hl, rfl⟩
          · exact hf.live v x hv hx
          · rw [hk] at hl
            cases hl
            cases hx
            have hname := (hr.of_known? (Scheduler.known?_of_coordinator? hregl hk)).1
            exact hc.covers _ (hstored hname.symm)
        · show ((s.backend.storeSchedule k.name (schedule.withDisabled true)).2.store).Keeps name stored
          rw [Backend.storeSchedule, hb.call, Store.Keeps]
          dsimp only
          rw [Store.schedule?_storeSchedule]
          split
          · next hname => exact ⟨_, rfl, hstored hname⟩
          · exact hf.stored

/-- A detection replaces the schedule of a process by the stored one, if it changes it at all. -/
theorem detect_follows (hc : Schedule.Closed live stored) (hr : s.scheduler.Registered)
    (hb : s.backend.Reliable) (hf : s.Follows name live stored) :
    s.detect.2.Follows name live stored := by
  have hstore := (terms?_detect hr hb).2.2.1
  have hstored {x : Schedule} (hx : s.backend.store.schedule? name = some x) : live x := by
    obtain ⟨y, hy, hs⟩ := hf.stored
    rw [hx] at hy
    cases hy
    exact hc.covers x hs
  refine ⟨fun v x hv hx => ?_, by rw [hstore]; exact hf.stored⟩
  rcases terms?_detect_cases hr hb name with
    ⟨-, he⟩ | ⟨config, -, ⟨-, he⟩ | ⟨before, -, he⟩⟩ <;> rw [he] at hv
  · split at hv
    · cases hv
    · exact hf.live v x hv hx
  · cases hv
    rcases Option.or_eq_some_iff.1 hx with hx | ⟨-, hx⟩
    · exact hstored hx
    · obtain ⟨v, hv, hx⟩ := Option.bind_eq_some_iff.1 hx
      exact hf.live v x hv hx
  · obtain ⟨v, hold, rfl⟩ := Option.map_eq_some_iff.1 hv
    simp only [Terms.revised] at hx
    split at hx
    · exact hf.live v x hold hx
    · rcases Option.or_eq_some_iff.1 hx with hx | ⟨-, hx⟩
      · exact hstored hx
      · exact hf.live v x hold hx

/-- However much upkeep is done, the schedule is followed. -/
theorem Upkeeps.follows (h : Upkeeps s s') (hf : s.Follows name live stored) :
    s'.Follows name live stored := by
  induction h with
  | refl => exact hf
  | tail _ h ih => exact h.follows ih

/-- The turns of a batch may disable the schedule, which is among those that are followed. -/
theorem Turns.follows (hc : Schedule.Closed live stored) (h : Turns t s s')
    (hr : s.scheduler.Registered) (he : s.scheduler.Enrolled) (hb : s.backend.Reliable)
    (hf : s.Follows name live stored) : s'.Follows name live stored := by
  induction h with
  | refl => exact hf
  | tail h₀ h ih =>
    have hmoves := Turns.moves h₀
    exact h.follows hc (Moves.registered hmoves hr) (Moves.enrolled hmoves he)
      (Moves.reliable hmoves hb) ih

/-- Whatever a process does but editing a connector, the process and the store go on following. -/
theorem follows_act (hc : Schedule.Closed live stored) (hr : s.scheduler.Registered)
    (he : s.scheduler.Enrolled) (hb : s.backend.Reliable) (hf : s.Follows name live stored) {a : Action}
    (hn : ¬ a.Edits name) : (s.act a).Follows name live stored := by
  rcases s.act_kinds a with rfl | ha | hu | ⟨t, ht⟩
  · exact detect_follows hc hr hb hf
  · exact call_follows hr he hb hf ha hn
  · exact Upkeeps.follows hu hf
  · exact Turns.follows hc ht hr he hb hf

end Site

/-- Whether something that happens is a call that sets the schedule of a connector or removes it, in
whatever process. -/
def Event.Edits (name : String) : Event → Prop
  | act _ a => a.Edits name
  | _ => False

namespace World

variable {w : World} {name : String} {live stored : Schedule → Prop}

/-- Whether all processes and their store, which does not fail, go by certain schedules of a connector. -/
structure Following (w : World) (name : String) (live stored : Schedule → Prop) : Prop where
  reliable : w.backend.Reliable
  orderly : ∀ p ∈ w.schedulers, p.Orderly
  enrolled : ∀ p ∈ w.schedulers, p.Enrolled
  live : ∀ p ∈ w.schedulers, p.GoesBy name live
  stored : w.backend.store.Keeps name stored

/-- Everybody follows the schedule while nobody edits it. -/
theorem Following.step (hc : Schedule.Closed live stored) (h : w.Following name live stored) {e : Event}
    (he : e.Inner) (hn : ¬ e.Edits name) : (w.step e).Following name live stored := by
  cases e with
  | setClock | advanceClock => exact ⟨h.reliable, h.orderly, h.enrolled, h.live, h.stored⟩
  | fate | write => cases he
  | act i a =>
    rw [World.step]
    cases hs : w.site? i with
    | none => exact h
    | some s =>
      obtain ⟨hi, hback, -⟩ := site?_eq_some.1 hs
      have hp := List.mem_of_getElem? hi
      have ho := h.orderly _ hp
      have hb : s.backend.Reliable := hback ▸ h.reliable
      have hf : s.Follows name live stored := ⟨h.live _ hp, hback ▸ h.stored⟩
      have hf' := Site.follows_act hc ho.registered (h.enrolled _ hp) hb hf hn
      have hall {P : Scheduler → Prop} (hold : ∀ q ∈ w.schedulers, P q) (hnew : P (s.act a).scheduler) :
          ∀ q ∈ (w.withSite i (s.act a)).schedulers, P q := by
        intro q hq
        rcases List.mem_or_eq_of_mem_set hq with hq | rfl
        · exact hold q hq
        · exact hnew
      exact ⟨Site.reliable_act ho.registered hb a, hall h.orderly (Site.orderly_act ho a),
        hall h.enrolled (Site.enrolled_act ho.registered (h.enrolled _ hp) a), hall h.live hf'.live,
        hf'.stored⟩

/-- Everybody follows the schedule all along a run in which nobody edits it. -/
theorem Following.run (hc : Schedule.Closed live stored) (h : w.Following name live stored)
    {events : List Event} (he : ∀ e ∈ events, e.Inner ∧ ¬ e.Edits name) :
    (w.run events).Following name live stored := by
  induction events generalizing w with
  | nil => exact h
  | cons e rest ih =>
    obtain ⟨hin, hn⟩ := he e List.mem_cons_self
    exact ih (h.step hc hin hn) fun e' he' => he e' (List.mem_cons_of_mem e he')

/-- Whether a process other than the one at a place goes by a schedule for a connector. -/
def Elsewhere (w : World) (i : Nat) (name : String) (x : Schedule) : Prop :=
  ∃ j p v, j ≠ i ∧ w.schedulers[j]? = some p ∧ p.terms? name = some v ∧ v.schedule = some x

/-- No run makes the store fail. -/
theorem run_reliable (hw : w.Initial) (hb : w.backend.Reliable) {events : List Event}
    (he : ∀ e ∈ events, e.Inner) : (w.run events).backend.Reliable := by
  induction events using List.reverseRecOn with
  | nil => exact hb
  | append_singleton events e ih =>
    have hrest := ih fun e' he' => he e' (List.mem_append_left _ he')
    have hlast := he e (List.mem_append_right _ List.mem_cons_self)
    rw [run_concat]
    cases e with
    | setClock | advanceClock => exact hrest
    | fate | write => cases hlast
    | act i a =>
      rw [step]
      cases hs : (w.run events).site? i with
      | none => exact hrest
      | some s =>
        obtain ⟨hi, hback, -⟩ := site?_eq_some.1 hs
        exact Site.reliable_act (run_orderly hw events _ (List.mem_of_getElem? hi)).registered
          (hback ▸ hrest) a

/-- Once a schedule is set, the processes and the store follow what may be left of it. -/
theorem following_setSchedule (hw : w.Initial) (hb : w.backend.Reliable) {before : List Event}
    (hbefore : ∀ e ∈ before, e.Inner) {i : Nat} {s : Site} (hs : (w.run before).site? i = some s)
    {text : String} {schedule : Schedule} (hparse : Schedule.parse text = .ok schedule)
    (hok : (s.setSchedule name text).1 = .ok ()) :
    (w.run (before ++ [.act i (.setSchedule name text)])).Following name
      (fun x => schedule.LeftOf ((w.run before).Elsewhere i name) x ∨ (w.run before).Elsewhere i name x)
      (schedule.LeftOf ((w.run before).Elsewhere i name)) := by
  have hinner := Event.inner_concat hbefore i (.setSchedule name text)
  obtain ⟨hi, hback, -⟩ := site?_eq_some.1 hs
  have hr := (run_orderly hw before _ (List.mem_of_getElem? hi)).registered
  have hbs : s.backend.Reliable := hback ▸ run_reliable hw hb hbefore
  obtain ⟨schedule', k, hparse', hk, hsets⟩ : ∃ schedule' k, Schedule.parse text = .ok schedule' ∧
      k.schedule = some schedule' ∧ s.Sets name (some k) (s.backend.store.storeSchedule name schedule')
        (s.setSchedule name text).2 := by
    rcases Site.setSchedule_call_cases hr hbs name text with ⟨e, he⟩ | ⟨schedule', k, hp, -, -, hsets⟩
    · rw [he] at hok
      cases hok
    · refine ⟨schedule', _, hp, ?_, hsets⟩
      split
      · next hsame => exact hsame
      · rfl
  obtain rfl : schedule' = schedule := Except.ok.inj (hparse'.symm.trans hparse)
  have hstep : w.run (before ++ [.act i (.setSchedule name text)]) =
      (w.run before).withSite i (s.setSchedule name text).2 := run_act hs (.setSchedule name text)
  refine ⟨run_reliable hw hb hinner, run_orderly hw _, run_enrolled hw _, ?_, ?_⟩
  · rw [hstep]
    intro p hp v x hv hx
    obtain ⟨j, hj⟩ := List.getElem?_of_mem hp
    rcases withSite_schedulers hj with ⟨-, rfl⟩ | ⟨hne, hj⟩
    · -- the process that was called goes by what was set
      rw [hsets.terms?, if_pos rfl, Option.map_some] at hv
      cases hv
      exact .inl (.inl (Option.some.inj (hx.symm.trans hk)))
    · exact .inr ⟨j, p, v, hne, hj, hv, hx⟩
  · rw [hstep]
    refine ⟨schedule', ?_, .inl rfl⟩
    show (s.setSchedule name text).2.backend.store.schedule? name = _
    rw [hsets.store, Store.schedule?_storeSchedule, if_pos rfl]

/-- Once a schedule was set for a connector, and as long as nobody sets it again or removes the connector,
in whatever process, there is a schedule stored for the connector, and it is what was set, or what was set
but disabled, or else one that another process went by when it was set, which turned polling off and is
disabled now. -/
theorem set_schedule_kept (hw : w.Initial) (hb : w.backend.Reliable) {before after : List Event}
    (hbefore : ∀ e ∈ before, e.Inner) {i : Nat} {s : Site} (hs : (w.run before).site? i = some s)
    {text : String} {schedule : Schedule} (hparse : Schedule.parse text = .ok schedule)
    (hok : (s.setSchedule name text).1 = .ok ())
    (hafter : ∀ e ∈ after, e.Inner ∧ ¬ e.Edits name) :
    ∃ x, (w.run (before ++ .act i (.setSchedule name text) :: after)).backend.store.schedule? name =
        some x ∧
      (x = schedule ∨ x = schedule.withDisabled true ∨ ∃ y, (w.run before).Elsewhere i name y ∧
        y.retryDelay = .pollingDisabled ∧ x = y.withDisabled true) := by
  rw [List.append_cons, run_append]
  exact ((following_setSchedule hw hb hbefore hs hparse hok).run
    (schedule.closed_leftOf _) hafter).stored

/-- A connector gets a schedule that turns polling off, and the second process finds both. -/
def scheduled : List Event :=
  added ++ [.act 0 (.setSchedule "a" "a:60:-1:0-24"), .act 1 .detect]

/-- The second process runs a batch, which finds nothing new. -/
def fruitless : List Event :=
  [.act 1 (.start 0 1 true), .act 1 (.take 0), .act 1 (.conclude 0 .noContent)]

/-- A schedule that keeps polling on. -/
def polled : Schedule :=
  { name := "a", disabled := false, load := 100, retryDelay := .millis 5000, intervals := [⟨0, 24⟩] }

theorem parse_polled : Schedule.parse "a:100:5000:0-24" = .ok polled := by decide +kernel

theorem inner_scheduled : ∀ e ∈ scheduled, e.Inner := by
  intro e he
  simp only [scheduled, added, List.cons_append, List.nil_append, List.mem_cons, List.not_mem_nil,
    or_false] at he
  rcases he with rfl | rfl | rfl <;> trivial

theorem inner_fruitless : ∀ e ∈ fruitless, e.Inner ∧ ¬ e.Edits "a" := by
  intro e he
  simp only [fruitless, List.mem_cons, List.not_mem_nil, or_false] at he
  rcases he with rfl | rfl | rfl <;> exact ⟨trivial, id⟩

theorem setSchedule_scheduled {s : Site} (hs : (duo.run scheduled).site? 0 = some s) :
    (s.setSchedule "a" "a:100:5000:0-24").1 = .ok () := by
  have hok : ((duo.run scheduled).site? 0).map (fun s =>
      (s.setSchedule "a" "a:100:5000:0-24").1.isOk) = some true := by decide +kernel
  rw [hs, Option.map_some, Option.some.injEq] at hok
  exact eq_ok_of_isOk hok

/-- The second process went by the schedule that turns polling off when the other one was set. -/
theorem set_schedule_kept_fruitless : ∃ s x, (duo.run scheduled).site? 0 = some s ∧
    (s.setSchedule "a" "a:100:5000:0-24").1 = .ok () ∧
    (duo.run (scheduled ++ .act 0 (.setSchedule "a" "a:100:5000:0-24") :: fruitless)
      ).backend.store.schedule? "a" = some x ∧
    (x = polled ∨ x = polled.withDisabled true ∨ ∃ y, (duo.run scheduled).Elsewhere 0 "a" y ∧
      y.retryDelay = .pollingDisabled ∧ x = y.withDisabled true) := by
  obtain ⟨s, hs⟩ : ∃ s, (duo.run scheduled).site? 0 = some s := ⟨_, rfl⟩
  have hok := setSchedule_scheduled hs
  obtain ⟨x, hx⟩ := set_schedule_kept initial_duo reliable_duo inner_scheduled hs parse_polled hok
    inner_fruitless
  exact ⟨s, x, hs, hok, hx⟩

/-- The batch of the second process disables the schedule that was replaced, and stores it over the one
that was set. -/
theorem set_schedule_lost : ¬ ∀ (w : World) (before after : List Event) (i : Nat) (s : Site)
    (name text : String) (schedule : Schedule), w.Initial → w.backend.Reliable →
    (∀ e ∈ before, e.Inner) → (w.run before).site? i = some s →
    Schedule.parse text = .ok schedule → (s.setSchedule name text).1 = .ok () →
    (∀ e ∈ after, e.Inner ∧ ¬ e.Edits name) →
    ∃ x, (w.run (before ++ .act i (.setSchedule name text) :: after)).backend.store.schedule? name =
      some x ∧ (x = schedule ∨ x = schedule.withDisabled true) := by
  intro h
  obtain ⟨s, hs⟩ : ∃ s, (duo.run scheduled).site? 0 = some s := ⟨_, rfl⟩
  obtain ⟨x, hx, hkept⟩ := h duo scheduled fruitless 0 s "a" "a:100:5000:0-24" polled initial_duo
    reliable_duo inner_scheduled hs parse_polled (setSchedule_scheduled hs) inner_fruitless
  have hload : ((duo.run (scheduled ++ .act 0 (.setSchedule "a" "a:100:5000:0-24") :: fruitless)
      ).backend.store.schedule? "a").map (·.load) = some 60 := by decide +kernel
  rw [hx, Option.map_some, Option.some.injEq] at hload
  rcases hkept with rfl | rfl <;> cases hload

end World

end BatchTraversal
