import BatchTraversal.Proofs.Process.Admission
import BatchTraversal.Proofs.Store.Failures
import BatchTraversal.Proofs.World.Removal

/-!
# A removal that is called again

A removal takes the connector out of the process first and out of the store last. If the store fails, the
connector is gone from the process all the same, and from the throttle, while the store still has it; the
next call does not find it and leaves the store as it is. The second call completes the removal only if
the connector was registered again in between (`World.removal_repeated`): by a call that configures it while
it is not registered, or by a detection of this process that had not listed it before.
-/

namespace BatchTraversal

namespace Site

variable {s : Site} {name : String} {c : CoordinatorId}

/-- Whether nothing of a connector is registered, tracked or stored. -/
structure FreeOf (s : Site) (name : String) : Prop where
  registry : s.scheduler.coordinator? name = none
  throttle : s.scheduler.throttle.entries.find? name = none
  store : s.backend.store.task name = {}

theorem removeConnector_of_registered (hreg : s.scheduler.coordinator? name = some c) :
    s.removeConnector name = ((s.backend.removeTask name).1,
      { s with scheduler := s.scheduler.detach name c, backend := (s.backend.removeTask name).2 }) := by
  simp only [removeConnector, Scheduler.require, hreg]

theorem removeConnector_of_unregistered (hnone : s.scheduler.coordinator? name = none) :
    s.removeConnector name = (.error (.connectorNotFound name), s) := by
  simp only [removeConnector, Scheduler.require, hnone]

/-- A removal takes a registered connector out of the process, whatever the store does. -/
theorem detached_removeConnector (hr : s.scheduler.Registered)
    (hreg : s.scheduler.coordinator? name = some c) :
    (s.removeConnector name).2.scheduler.coordinator? name = none ∧
      (s.removeConnector name).2.scheduler.throttle.entries.find? name = none := by
  obtain ⟨k, hk, rfl, hlive⟩ := hr name c hreg
  rw [removeConnector_of_registered hreg, Scheduler.detach_eq hk hlive]
  exact ⟨NameMap.find?_erase_self .., NameMap.find?_erase_self ..⟩

/-- A removal that the store fails has found the connector and leaves the store as it is. -/
theorem removeConnector_error {reason : String}
    (h : (s.removeConnector name).1 = .error (.store reason)) :
    (∃ c, s.scheduler.coordinator? name = some c) ∧
      (s.removeConnector name).2.backend.store = s.backend.store := by
  cases hreg : s.scheduler.coordinator? name with
  | none =>
    rw [removeConnector_of_unregistered hreg] at h
    cases h
  | some c =>
    rw [removeConnector_of_registered hreg] at h ⊢
    refine ⟨⟨c, rfl⟩, ?_⟩
    cases hf : s.backend.fails .removeTask with
    | true =>
      rw [Backend.removeTask, Backend.call_of_fails hf]
      rfl
    | false =>
      rw [Backend.removeTask, Backend.call_of_works hf] at h
      cases h

/-- A removal of a registered connector that the store does not fail completes. -/
theorem removeConnector_ok (hr : s.scheduler.Registered)
    (hreg : s.scheduler.coordinator? name = some c) (hworks : s.backend.fails .removeTask = false) :
    (s.removeConnector name).1 = .ok () ∧ (s.removeConnector name).2.FreeOf name ∧
      (s.removeConnector name).2.backend.store = s.backend.store.removeTask name := by
  have hcall : s.backend.removeTask name = (.ok (), { s.backend.used .removeTask with
      store := s.backend.store.removeTask name }) := Backend.call_of_works hworks _ _
  obtain ⟨hregistry, hthrottle⟩ := detached_removeConnector hr hreg
  rw [removeConnector_of_registered hreg, hcall] at *
  refine ⟨rfl, ⟨hregistry, hthrottle, ?_⟩, rfl⟩
  exact (s.backend.store.task_removeTask name name).trans (if_pos rfl)

end Site

namespace World

variable {w : World} {i : Nat} {name : String}

/-- Whether along a run a process is called to configure a connector that it has not registered, or runs a
detection that did not list it the last time. -/
def Admits (w : World) (events : List Event) (i : Nat) (name : String) : Prop :=
  ∃ before a after s, events = before ++ .act i a :: after ∧ (w.run before).site? i = some s ∧
    s.Admits name a

/-- A connector that a process has not registered it does not register along a run that does not admit
it. -/
theorem run_unregistered {p q : Scheduler} (hp : w.schedulers[i]? = some p)
    (hnone : p.coordinator? name = none) {events : List Event} (h : ¬ w.Admits events i name)
    (hq : (w.run events).schedulers[i]? = some q) : q.coordinator? name = none := by
  induction events generalizing w p with
  | nil =>
    cases hp.symm.trans hq
    exact hnone
  | cons e rest ih =>
    obtain ⟨p', hp'⟩ : ∃ p', (w.step e).schedulers[i]? = some p' :=
      ⟨_, List.getElem?_eq_getElem (w.length_step e ▸ (List.getElem?_eq_some_iff.1 hp).1)⟩
    have hrest : ¬ (w.step e).Admits rest i name := by
      rintro ⟨before, a, after, s, rfl, hs, ha⟩
      exact h ⟨e :: before, a, after, s, rfl, hs, ha⟩
    refine ih hp' ?_ hrest hq
    rcases step_schedulers w e i hp' with ⟨a, s, rfl, hs, -, rfl⟩ | hsame
    · refine (Site.conserves_act fun ha => h ⟨[], a, rest, s, rfl, hs, ha⟩).unregistered ?_
      cases hp.symm.trans (site?_eq_some.1 hs).1
      exact hnone
    · cases hp.symm.trans hsame
      exact hnone

/-- A removal that fails, because the store does, leaves the store as it was, and the connector is neither
registered nor tracked any more. Whenever it is called again while the store works: if the connector is
registered, the call succeeds and leaves nothing of it in the process or in the store; if it is not, the
call does not find it and changes nothing. It is registered only if in between the process was called to
configure it while it had not registered it, or ran a detection that did not list it the last time. -/
theorem removal_repeated (hw : w.Initial) (before after : List Event) {s s' : Site} {reason : String}
    (hs : (w.run before).site? i = some s)
    (hfail : (s.removeConnector name).1 = .error (.store reason))
    (hs' : (w.run (before ++ .act i (.remove name) :: after)).site? i = some s')
    (hworks : s'.backend.fails .removeTask = false) :
    ((s.removeConnector name).2.backend.store = s.backend.store ∧
      (s.removeConnector name).2.scheduler.coordinator? name = none ∧
      (s.removeConnector name).2.scheduler.throttle.entries.find? name = none) ∧
    ((s'.scheduler.coordinator? name).isSome → (s'.removeConnector name).1 = .ok () ∧
      (s'.removeConnector name).2.FreeOf name ∧
      (s'.removeConnector name).2.backend.store = s'.backend.store.removeTask name) ∧
    (s'.scheduler.coordinator? name = none →
      s'.removeConnector name = (.error (.connectorNotFound name), s')) ∧
    ((s'.scheduler.coordinator? name).isSome →
      (w.run (before ++ [.act i (.remove name)])).Admits after i name) := by
  have hr := (run_orderly hw before _ (List.mem_of_getElem? (site?_eq_some.1 hs).1)).registered
  have hr' := (run_orderly hw _ _ (List.mem_of_getElem? (site?_eq_some.1 hs').1)).registered
  obtain ⟨⟨c, hreg⟩, hstore⟩ := Site.removeConnector_error hfail
  have hgone := Site.detached_removeConnector hr hreg
  refine ⟨⟨hstore, hgone⟩, fun hsome => ?_, Site.removeConnector_of_unregistered, fun hsome => ?_⟩
  · obtain ⟨d, hd⟩ := Option.isSome_iff_exists.1 hsome
    exact Site.removeConnector_ok hr' hd hworks
  · by_contra hadmits
    have hp : (w.run (before ++ [.act i (.remove name)])).schedulers[i]? =
        some (s.removeConnector name).2.scheduler := by
      rw [run_act hs]
      exact withSite_self hs _
    rw [List.append_cons, run_append] at hs'
    rw [run_unregistered hp hgone.1 hadmits (site?_eq_some.1 hs').1] at hsome
    cases hsome

/-- A connector is configured, and the next removal in the store is to fail. -/
def removalFailing : List Event :=
  [.act 0 (.setConfig "a" { kind := "any" }), .fate .removeTask [true]]

/-- A detection finds the connector that only the store has left, and the second removal succeeds. -/
theorem removal_repeated_detected : ∃ s s', (solo.run removalFailing).site? 0 = some s ∧
    (s.removeConnector "a").1 = .error (.store "remove_task unavailable") ∧
    (solo.run (removalFailing ++ [.act 0 (.remove "a"), .act 0 .detect])).site? 0 = some s' ∧
    (s'.removeConnector "a").1 = .ok () ∧ (s'.removeConnector "a").2.FreeOf "a" := by
  obtain ⟨s, hs⟩ : ∃ s, (solo.run removalFailing).site? 0 = some s := ⟨_, rfl⟩
  have hfail : ((solo.run removalFailing).site? 0).map (fun s => (s.removeConnector "a").1) =
      some (.error (.store "remove_task unavailable")) := by rfl
  rw [hs, Option.map_some, Option.some.injEq] at hfail
  have hfound : ((solo.run (removalFailing ++ [.act 0 (.remove "a"), .act 0 .detect])).site? 0).map
      (fun s => (s.backend.fails .removeTask, s.scheduler.coordinator? "a")) = some (false, some 1) := by
    decide +kernel
  obtain ⟨s', hs', he⟩ := Option.map_eq_some_iff.1 hfound
  obtain ⟨hworks, hreg⟩ := Prod.mk.inj he
  obtain ⟨-, hok, -⟩ := removal_repeated initial_solo removalFailing [.act 0 .detect] hs hfail hs' hworks
  obtain ⟨hok, hfree, -⟩ := hok (by rw [hreg]; rfl)
  exact ⟨s, s', hs, hfail, hs', hok, hfree⟩

/-- Right after a removal that failed, the second one does not find the connector, which is still in the
store. -/
theorem removal_repeated_unfound : ¬ ∀ (w : World) (events : List Event) (i : Nat) (s : Site)
    (name reason : String), w.Initial → (w.run events).site? i = some s →
    (s.removeConnector name).1 = .error (.store reason) →
    (s.removeConnector name).2.backend.fails .removeTask = false →
    ((s.removeConnector name).2.removeConnector name).1 = .ok () ∧
      ((s.removeConnector name).2.removeConnector name).2.FreeOf name := by
  intro h
  obtain ⟨s, hs⟩ : ∃ s, (solo.run removalFailing).site? 0 = some s := ⟨_, rfl⟩
  have hrun : ((solo.run removalFailing).site? 0).map (fun s => ((s.removeConnector "a").1,
      (s.removeConnector "a").2.backend.fails .removeTask,
      ((s.removeConnector "a").2.removeConnector "a").1)) =
      some (.error (.store "remove_task unavailable"), false, .error (.connectorNotFound "a")) := by rfl
  rw [hs, Option.map_some, Option.some.injEq, Prod.mk.injEq, Prod.mk.injEq] at hrun
  obtain ⟨hfail, hworks, hretry⟩ := hrun
  obtain ⟨hok, -⟩ := h solo removalFailing 0 s "a" _ initial_solo hs hfail hworks
  rw [hretry] at hok
  cases hok

end World

end BatchTraversal
