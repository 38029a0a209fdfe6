import BatchTraversal.Proofs.Detection.Agreement
import BatchTraversal.Proofs.World.Runs
import Mathlib.Data.List.Induction

/-!
# Convergence of processes that share a store

A detection compares the store with the inventory, the listing of the detection before it, and not with
what is registered. A process that added or removed connectors itself since then may find no difference
where there is one. `Site.InStep` says what has to hold before a detection for it to leave the process
with exactly the stored connectors and their stored terms (`Site.Converged`). That is the exact condition
in every world whose store does not fail (`World.detect_converges_iff`), and a world with two processes in
which it does not hold is soon found (`World.detect_misses_removal`).
-/

namespace BatchTraversal

namespace Site

/-- Whether a process knows exactly the stored connectors, each with its stored configuration and with its
stored schedule, if there is one. -/
structure Converged (s : Site) : Prop where
  names : s.scheduler.names = s.backend.store.list.keys
  configuration : ∀ name c k, s.scheduler.coordinator? name = some c →
    s.scheduler.coordinators[c]? = some k → k.config = s.backend.store.configuration? name
  schedule : ∀ name c k schedule, s.scheduler.coordinator? name = some c →
    s.scheduler.coordinators[c]? = some k → s.backend.store.schedule? name = some schedule →
    k.schedule = some schedule

/-- Whether the inventory of a process accounts for what it has registered: a connector that is listed
as before is registered, one that is listed neither before nor now is not, and one whose stored schedule
has been seen has a schedule. -/
structure InStep (s : Site) : Prop where
  present : ∀ name, (s.scheduler.inventory.find? name).isSome →
    (s.backend.store.list.find? name).isSome → (s.scheduler.coordinator? name).isSome
  absent : ∀ name, s.scheduler.inventory.find? name = none →
    s.backend.store.list.find? name = none → s.scheduler.coordinator? name = none
  schedule : ∀ name before y c k, s.scheduler.inventory.find? name = some before →
    (s.backend.store.list.find? name).isSome → (s.backend.store.task name).schedule = some y →
    before.schedule = some y.stamp → s.scheduler.coordinator? name = some c →
    s.scheduler.coordinators[c]? = some k → k.schedule ≠ none

variable {s : Site}

theorem registered_detect (hr : s.scheduler.Registered) : s.detect.2.scheduler.Registered := by
  obtain ⟨s', inventory, h, e⟩ := detect_edits hr
  have hr' : s'.scheduler.Registered := Edits.registered h hr
  rw [e]
  exact hr'

/-- The names are the listed ones if the connectors with terms are the listed ones. -/
theorem names_eq_iff (hr : s.scheduler.Registered) :
    s.scheduler.names = s.backend.store.list.keys ↔ ∀ name,
      (s.scheduler.terms? name).isSome ↔ (s.backend.store.list.find? name).isSome := by
  rw [Scheduler.names, NameMap.keys_eq_iff]
  refine forall_congr' fun name => ?_
  rw [hr.isSome_terms?, Scheduler.coordinator?]

/-- After a detection a connector has terms exactly if it is listed, provided the inventory accounted for
what was registered. -/
theorem isSome_terms?_detect (hr : s.scheduler.Registered) (hb : s.backend.Reliable) (name : String) :
    ((s.detect.2.scheduler.terms? name).isSome ↔ (s.backend.store.list.find? name).isSome) ↔
      ((s.scheduler.inventory.find? name).isSome → (s.backend.store.list.find? name).isSome →
        (s.scheduler.coordinator? name).isSome) ∧
      (s.scheduler.inventory.find? name = none → s.backend.store.list.find? name = none →
        s.scheduler.coordinator? name = none) := by
  have hreg : (s.scheduler.terms? name).isSome ↔ (s.scheduler.coordinator? name).isSome :=
    hr.isSome_terms?
  have hlisted {config : ConnectorConfig} (hc : s.backend.store.configuration? name = some config) :
      s.backend.store.list.find? name = some (s.backend.store.task name).stamps :=
    Store.find?_list_eq_some.2 ⟨by rw [hc]; rfl, rfl⟩
  rcases terms?_detect_cases hr hb name with
    ⟨hnone, he⟩ | ⟨config, hconfig, ⟨hi, he⟩ | ⟨before, hi, he⟩⟩
  · have hl := Store.find?_list_eq_none.2 hnone
    cases hi : s.scheduler.inventory.find? name with
    | none =>
      rw [hi] at he
      simp only [Option.isSome_none, Bool.false_eq_true, if_false] at he
      rw [he, hl, hreg]
      cases s.scheduler.coordinator? name <;> simp
    | some before =>
      rw [hi] at he
      simp only [Option.isSome_some, if_true] at he
      simp [he, hl]
  · simp [he, hi, hlisted hconfig]
  · rw [he, Option.isSome_map, hreg]
    simp [hi, hlisted hconfig]

/-- A detection brings the names up to the listed ones exactly if the inventory accounted for what was
registered. -/
theorem names_detect_iff (hr : s.scheduler.Registered) (hb : s.backend.Reliable) :
    s.detect.2.scheduler.names = s.detect.2.backend.store.list.keys ↔ ∀ name,
      ((s.scheduler.inventory.find? name).isSome → (s.backend.store.list.find? name).isSome →
        (s.scheduler.coordinator? name).isSome) ∧
      (s.scheduler.inventory.find? name = none → s.backend.store.list.find? name = none →
        s.scheduler.coordinator? name = none) := by
  rw [names_eq_iff (registered_detect hr), (terms?_detect hr hb).2.2.1]
  exact forall_congr' (isSome_terms?_detect hr hb)

/-- A detection passes over a schedule whose stamp it has seen. -/
theorem schedule_detect_seen (hr : s.scheduler.Registered) (hb : s.backend.Reliable) {name : String}
    {before : TaskStamps} {y : Stamped Schedule} {v : Terms}
    (hi : s.scheduler.inventory.find? name = some before)
    (hl : (s.backend.store.list.find? name).isSome)
    (hy : (s.backend.store.task name).schedule = some y) (hs : before.schedule = some y.stamp)
    (hv : s.scheduler.terms? name = some v) :
    ∃ v', s.detect.2.scheduler.terms? name = some v' ∧ v'.schedule = v.schedule := by
  rcases terms?_detect_cases hr hb name with
    ⟨hgone, -⟩ | ⟨config, -, ⟨hi', -⟩ | ⟨before', hi', he⟩⟩
  · rw [Store.find?_list_eq_none.2 hgone] at hl
    cases hl
  · rw [hi] at hi'
    cases hi'
  · rw [hi] at hi'
    cases hi'
    refine ⟨_, he.trans (congrArg _ hv), ?_⟩
    rw [Terms.revised, Store.stamps_schedule hy, hs, if_pos rfl]

/-- If a detection brings a process up to the store, its inventory accounted for what it had
registered. -/
theorem inStep_of_converged (hr : s.scheduler.Registered) (hb : s.backend.Reliable)
    (h : s.detect.2.Converged) : s.InStep := by
  have hall := (names_detect_iff hr hb).1 h.names
  refine ⟨fun name => (hall name).1, fun name => (hall name).2, ?_⟩
  intro name before y c k hi hl hy hs hreg hk hnone
  have hstored : s.detect.2.backend.store.schedule? name = some y.value := by
    rw [(terms?_detect hr hb).2.2.1, Store.schedule?_of_stored hy]
  obtain ⟨v', hv', hkept⟩ :=
    schedule_detect_seen hr hb hi hl hy hs (Scheduler.terms?_of_coordinator? hreg hk)
  obtain ⟨c', k', hc', hk', rfl⟩ := Scheduler.terms?_eq_some.1 hv'
  have hsch : k'.schedule = some y.value := h.schedule name c' k' y.value hc' hk' hstored
  have hmissing : k'.schedule = none := hkept.trans hnone
  rw [hmissing] at hsch
  cases hsch

/-- If the inventory of a process accounts for what it has registered, a detection brings the process up
to the store. -/
theorem converged_of_inStep (hr : s.scheduler.Registered) (hb : s.backend.Reliable)
    (ha : s.scheduler.Agrees s.backend.store) (h : s.InStep) : s.detect.2.Converged := by
  have hstore := (terms?_detect hr hb).2.2.1
  have hnames := (names_detect_iff hr hb).2 fun name => ⟨h.present name, h.absent name⟩
  -- whatever is registered afterwards is listed, so its configuration is stored
  have hstored {name : String} {v : Terms} (hv : s.detect.2.scheduler.terms? name = some v) :
      ∃ x, (s.backend.store.task name).configuration = some x := by
    have hsome := ((names_eq_iff (registered_detect hr)).1 hnames name).1 (by rw [hv]; rfl)
    rw [hstore, Option.isSome_iff_ne_none, Ne, Store.find?_list_eq_none, Store.configuration?,
      Option.map_eq_none_iff] at hsome
    exact Option.ne_none_iff_exists'.1 hsome
  refine ⟨hnames, ?_, ?_⟩
  · intro name c k hc hk
    have hv := Scheduler.terms?_of_coordinator? hc hk
    obtain ⟨x, hx⟩ := hstored hv
    rw [hstore, Store.configuration?_of_stored hx]
    exact (terms?_detect_listed hr hb ha hv hx).1
  · intro name c k schedule hc hk hs
    have hv := Scheduler.terms?_of_coordinator? hc hk
    obtain ⟨x, hx⟩ := hstored hv
    rw [hstore] at hs
    obtain ⟨y, hy, rfl⟩ := Option.map_eq_some_iff.1 hs
    rcases (terms?_detect_listed hr hb ha hv hx).2 y hy with
      hsch | ⟨-, before, v, hi, hseen, hv, hnone⟩
    · exact hsch
    · obtain ⟨c₀, k₀, hc₀, hk₀, rfl⟩ := Scheduler.terms?_eq_some.1 hv
      have hl : (s.backend.store.list.find? name).isSome := by
        rw [Store.find?_list, if_pos (by rw [hx]; rfl)]
        rfl
      exact absurd hnone (h.schedule name before y c₀ k₀ hi hl hy hseen hc₀ hk₀)

/-- As long as the store does not fail, an action of a process keeps its agreement with the store. -/
theorem act_agrees (hr : s.scheduler.Registered) (hb : s.backend.Reliable)
    (hd : s.backend.store.Dated) (ha : s.scheduler.Agrees s.backend.store) (a : Action) :
    (s.act a).scheduler.Agrees (s.act a).backend.store := by
  rcases act_cases hr a with rfl | h | ⟨t, h⟩
  · have ha' := agrees_detect hr hb hd ha
    rw [← (terms?_detect hr hb).2.2.1] at ha'
    exact ha'
  · exact Moves.agrees h.moves hr hb ha
  · exact Moves.agrees h.moves hr hb ha

end Site

/-- Whether something that happens is an action of a process or a movement of the clock. Nobody but the
processes writes to the store then, and nobody makes it fail. -/
def Event.Inner : Event → Prop
  | act .. | setClock _ | advanceClock _ => True
  | fate .. | write _ => False

theorem Event.inner_concat {events : List Event} (he : ∀ e ∈ events, e.Inner) (i : Nat) (a : Action) :
    ∀ e ∈ events ++ [.act i a], e.Inner := by
  intro e hmem
  rcases List.mem_append.1 hmem with hmem | hmem
  · exact he e hmem
  · rw [List.mem_singleton.1 hmem]
    trivial

namespace World

/-- Whether the store does not fail and all processes agree with it. -/
structure Agreeing (w : World) : Prop where
  reliable : w.backend.Reliable
  dated : w.backend.store.Dated
  orderly : ∀ p ∈ w.schedulers, p.Orderly
  agrees : ∀ p ∈ w.schedulers, p.Agrees w.backend.store

variable {w : World}

theorem agreeing_initial (hw : w.Initial) (hb : w.backend.Reliable) (hd : w.backend.store.Dated) :
    w.Agreeing := by
  refine ⟨hb, hd, run_orderly hw [], ?_⟩
  intro p hp
  exact Scheduler.agrees_start (hw p hp) w.backend.store

/-- An action of one process keeps the agreement of all of them. -/
theorem Agreeing.act (h : w.Agreeing) {i : Nat} {s : Site} (hs : w.site? i = some s) (a : Action) :
    (w.withSite i (s.act a)).Agreeing := by
  obtain ⟨hi, hback, -⟩ := site?_eq_some.1 hs
  have hp := List.mem_of_getElem? hi
  have hr := (h.orderly _ hp).registered
  have hb : s.backend.Reliable := hback ▸ h.reliable
  have ha : s.scheduler.Agrees s.backend.store := hback ▸ h.agrees _ hp
  have hd : s.backend.store.Dated := hback ▸ h.dated
  have ha' := Site.act_agrees hr hb hd ha a
  have hbecomes := Site.act_becomes hr a
  refine ⟨hbecomes.reliable hb, hbecomes.store.dated hd, ?_, ?_⟩
  · intro q hq
    rcases List.mem_or_eq_of_mem_set hq with hq | rfl
    · exact h.orderly q hq
    · exact Site.orderly_act (h.orderly _ hp) a
  · intro q hq
    rcases List.mem_or_eq_of_mem_set hq with hq | rfl
    · exact (h.agrees q hq).evolves (hback ▸ hbecomes.store)
    · exact ha'

theorem Agreeing.step (h : w.Agreeing) {e : Event} (he : e.Inner) : (w.step e).Agreeing := by
  cases e with
  | act i a =>
    rw [World.step]
    cases hs : w.site? i with
    | none => exact h
    | some s => exact h.act hs a
  | setClock | advanceClock => exact ⟨h.reliable, h.dated, h.orderly, h.agrees⟩
  | fate | write => cases he

/-- All processes agree with the store along every run in which it does not fail. -/
theorem run_agreeing (h : w.Agreeing) {events : List Event} (he : ∀ e ∈ events, e.Inner) :
    (w.run events).Agreeing := by
  induction events generalizing w with
  | nil => exact h
  | cons e rest ih =>
    have hstep := h.step (he e List.mem_cons_self)
    exact ih hstep fun e' he' => he e' (List.mem_cons_of_mem e he')

/-- In every world whose processes share a store that does not fail, and at every moment of every run, a
detection of a process succeeds, and it leaves the process with exactly the stored connectors and their
stored terms if and only if its inventory accounted for what it had registered. -/
theorem detect_converges_iff (hw : w.Initial) (hb : w.backend.Reliable)
    (hd : w.backend.store.Dated) {events : List Event} (he : ∀ e ∈ events, e.Inner) {i : Nat}
    {s : Site} (hs : (w.run events).site? i = some s) :
    (∃ summary, s.detect.1 = .ok summary) ∧ ((s.act .detect).Converged ↔ s.InStep) := by
  have h := run_agreeing (agreeing_initial hw hb hd) he
  obtain ⟨hi, hback, -⟩ := site?_eq_some.1 hs
  have hp := List.mem_of_getElem? hi
  have hr := (h.orderly _ hp).registered
  have hbs : s.backend.Reliable := hback ▸ h.reliable
  exact ⟨(Site.terms?_detect hr hbs).1,
    ⟨Site.inStep_of_converged hr hbs, Site.converged_of_inStep hr hbs (hback ▸ h.agrees _ hp)⟩⟩

/-- Two processes that share a store. -/
def duo : World := { clock := { now := ⟨0⟩ }, schedulers := [soloProcess, soloProcess] }

theorem initial_duo : duo.Initial := by
  intro p hp
  refine ⟨{}, soloProcess.pool.settings, soloProcess.kinds, ?_⟩
  simp only [duo, List.mem_cons, List.not_mem_nil, or_false, or_self] at hp
  rw [hp]
  rfl

theorem reliable_duo : duo.backend.Reliable := fun _ h => nomatch h

/-- The first process configures a connector. -/
def added : List Event := [.act 0 (.setConfig "a" { kind := "any" })]

/-- The second one finds it by a detection. -/
theorem detect_converges_iff_added : ∃ s, (duo.run added).site? 1 = some s ∧ s.InStep ∧
    (s.act .detect).Converged := by
  have hin : ∀ e ∈ added, e.Inner := by
    intro e he
    rw [List.mem_singleton.1 he]
    trivial
  obtain ⟨s, hs⟩ : ∃ s, (duo.run added).site? 1 = some s := ⟨_, rfl⟩
  have hfresh : s.scheduler = soloProcess := by
    have hi := (site?_eq_some.1 hs).1
    rw [show (duo.run added).schedulers[1]? = some soloProcess from rfl] at hi
    exact (Option.some.inj hi).symm
  -- nothing is listed and nothing is registered yet
  have hstep : s.InStep := by
    refine ⟨fun name hi => ?_, fun name _ _ => ?_, fun name before y c k hi => ?_⟩ <;>
      rw [hfresh] at *
    · cases hi
    · rfl
    · cases hi
  have h := detect_converges_iff initial_duo reliable_duo Store.dated_empty hin hs
  exact ⟨s, hs, hstep, h.2.2 hstep⟩

/-- The second process finds the connector and removes it. -/
def addedAndRemoved : List Event := added ++ [.act 1 .detect, .act 1 (.remove "a")]

/-- The first process, which never listed the connector while it was there, does not notice that it is
gone. -/
theorem detect_misses_removal : ¬ ∀ (w : World) (events : List Event) (i : Nat) (s : Site),
    w.Initial → w.backend.Reliable → w.backend.store.Dated → (∀ e ∈ events, e.Inner) →
    (w.run events).site? i = some s → (s.act .detect).Converged := by
  intro h
  have hin : ∀ e ∈ addedAndRemoved, e.Inner := by
    intro e he
    simp only [addedAndRemoved, added, List.cons_append, List.nil_append, List.mem_cons,
      List.not_mem_nil, or_false] at he
    rcases he with rfl | rfl | rfl <;> trivial
  obtain ⟨s, hs⟩ : ∃ s, (duo.run addedAndRemoved).site? 0 = some s := ⟨_, rfl⟩
  have hshown : ((duo.run addedAndRemoved).site? 0).map (fun s =>
      ((s.act .detect).scheduler.names, (s.act .detect).backend.store.list.keys)) =
      some (["a"], []) := by decide +kernel
  rw [hs, Option.map_some, Option.some.injEq, Prod.mk.injEq] at hshown
  have hnames := (h duo addedAndRemoved 0 s initial_duo reliable_duo Store.dated_empty hin hs).names
  rw [hshown.1, hshown.2] at hnames
  cases hnames

end World

end BatchTraversal
