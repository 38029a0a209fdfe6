import BatchTraversal.Proofs.Process.Chores

/-!
# The coordinators a process goes by

A process goes by the coordinator that is registered under a name (`Scheduler.known?`). Every operation
changes what it goes by for one name, and there is one equation for each. A new configuration or schedule
amends a live coordinator, unless it is the one that the coordinator has.
-/

namespace BatchTraversal

namespace Scheduler

/-- The live coordinator of a name. -/
def known? (p : Scheduler) (name : String) : Option Coordinator :=
  (p.coordinator? name).bind fun c => p.coordinators[c]?

variable {p q : Scheduler} {name : String} {c : CoordinatorId} {k : Coordinator}

theorem known?_eq_some : p.known? name = some k ↔
    ∃ c, p.coordinator? name = some c ∧ p.coordinators[c]? = some k := Option.bind_eq_some_iff

theorem known?_of_coordinator? (hreg : p.coordinator? name = some c)
    (hk : p.coordinators[c]? = some k) : p.known? name = some k := known?_eq_some.2 ⟨c, hreg, hk⟩

theorem known?_of_unregistered (hreg : p.coordinator? name = none) : p.known? name = none := by
  rw [known?, hreg]
  rfl

/-- A known coordinator has the name it is known by, and it is not removed. -/
theorem Registered.of_known? (hr : p.Registered) (h : p.known? name = some k) :
    k.name = name ∧ k.removed = false := by
  obtain ⟨c, hreg, hk⟩ := known?_eq_some.1 h
  obtain ⟨l, hl, hname, hlive⟩ := hr name c hreg
  rw [hk] at hl
  cases hl
  exact ⟨hname, hlive⟩

/-- The known names are the registered ones. -/
theorem Registered.known?_eq_none (hr : p.Registered) :
    p.known? name = none ↔ p.coordinator? name = none := by
  refine ⟨fun h => ?_, known?_of_unregistered⟩
  cases hreg : p.coordinator? name with
  | none => rfl
  | some c =>
    obtain ⟨k, hk, -⟩ := hr name c hreg
    rw [known?_of_coordinator? hreg hk] at h
    cases h

/-- Two names are not registered to the same coordinator. -/
theorem Registered.coordinator?_eq_some_iff (hr : p.Registered)
    (hreg : p.coordinator? name = some c) (other : String) :
    p.coordinator? other = some c ↔ other = name := by
  refine ⟨fun hother => ?_, fun he => he ▸ hreg⟩
  obtain ⟨k, hk, hname, -⟩ := hr name c hreg
  obtain ⟨l, hl, hother, -⟩ := hr other c hother
  rw [hk] at hl
  cases hl
  exact hother.symm.trans hname

/-- A change of one coordinator changes it for whoever goes by it. -/
theorem known?_modify {f : Coordinator → Coordinator} (hreg : q.registry = p.registry)
    (hc : q.coordinators = p.coordinators.modify c f) (name : String) : q.known? name =
      if p.coordinator? name = some c then (p.known? name).map f else p.known? name := by
  rw [known?, known?, coordinator?, coordinator?, hreg]
  cases hd : p.registry.find? name with
  | none => simp
  | some d =>
    have hget := getElem?_modifyCoordinator p c d f
    rw [modifyCoordinator] at hget
    rw [Option.bind_some, Option.bind_some, hc, hget]
    by_cases hcd : c = d
    · rw [if_pos hcd, if_pos (congrArg some hcd.symm)]
    · rw [if_neg hcd, if_neg fun he => hcd (Option.some.inj he).symm]

/-- A change of a registered coordinator changes it for its name and no other. -/
theorem Registered.known?_modify (hr : p.Registered) (hname : p.coordinator? name = some c)
    {f : Coordinator → Coordinator} (hreg : q.registry = p.registry)
    (hc : q.coordinators = p.coordinators.modify c f) (other : String) : q.known? other =
      if other = name then (p.known? other).map f else p.known? other := by
  rw [Scheduler.known?_modify hreg hc, if_congr (hr.coordinator?_eq_some_iff hname other) rfl rfl]

/-- A change of one coordinator keeps for every name whatever it leaves to that one. -/
theorem map_known?_modify {α : Type} {g : Coordinator → α} {f : Coordinator → Coordinator}
    (hreg : q.registry = p.registry) (hc : q.coordinators = p.coordinators.modify c f)
    (hf : ∀ k, p.coordinators[c]? = some k → g (f k) = g k) (name : String) :
    (q.known? name).map g = (p.known? name).map g := by
  rw [known?, known?, coordinator?, coordinator?, hreg, Option.map_bind, Option.map_bind]
  refine congrArg _ (funext fun d => ?_)
  rw [Function.comp, Function.comp, hc]
  exact map_modify_coordinator hf d

theorem Registered.known?_interrupt (hr : p.Registered) (hreg : p.coordinator? name = some c)
    (f : Coordinator → Coordinator) (other : String) : (p.interrupt c f).known? other =
      if other = name then (p.known? other).map (.interrupted f) else p.known? other := by
  obtain ⟨k, hk, -⟩ := hr name c hreg
  exact hr.known?_modify hreg (registry_interrupt p c f) (by rw [interrupt_eq hk]; rfl) other

/-- A new coordinator is the one its name goes by. -/
theorem Registered.known?_enlist (hr : p.Registered) (name : String) (config : ConnectorConfig)
    (other : String) : (p.enlist name config).known? other = if other = name then
      some { cell := { connector := name }, config := some config, generation := 1 }
      else p.known? other := by
  simp only [known?, coordinator?, Scheduler.enlist, NameMap.find?_insert]
  by_cases he : other = name
  · rw [if_pos he, if_pos he]
    simp
  · rw [if_neg he, if_neg he]
    cases hd : p.registry.find? other with
    | none => rfl
    | some d =>
      obtain ⟨k, hk, -⟩ := hr other d hd
      rw [Option.bind_some, Option.bind_some, hk]
      exact getElem?_enlist hk

/-- A connector that was detached has no coordinator any more. -/
theorem Registered.known?_detach (hr : p.Registered) (hreg : p.coordinator? name = some c)
    (other : String) : (p.detach name c).known? other =
      if other = name then none else p.known? other := by
  obtain ⟨k, hk, rfl, hlive⟩ := hr name c hreg
  rw [detach_eq hk hlive]
  by_cases he : other = k.name
  · rw [if_pos he, known?, coordinator?, he, NameMap.find?_erase_self]
    rfl
  · have hint := hr.known?_interrupt hreg (fun k =>
      { k with removed := true, config := none, schedule := none, traverser := none }) other
    rw [if_neg he] at hint ⊢
    rw [← hint]
    simp only [known?, coordinator?, NameMap.find?_erase, if_neg he, registry_interrupt]

/-! ## Calls on a coordinator -/

/-- A configuration that is new to a live coordinator amends it. -/
theorem setConfiguration_cases (hk : p.coordinators[c]? = some k) (hlive : k.removed = false)
    (config : ConnectorConfig) :
    (k.config = some config ∧ p.setConfiguration c config = (.ok false, p)) ∨
    (k.config ≠ some config ∧ p.setConfiguration c config =
      (.ok true, p.interrupt c (Amendment.configure config).apply)) := by
  simp only [setConfiguration, live_eq_ok.2 ⟨hk, hlive⟩]
  split
  · next he => exact .inl ⟨he, rfl⟩
  · next hne => exact .inr ⟨hne, rfl⟩

/-- A schedule that is new to a live coordinator amends it. -/
theorem setSchedule_cases (hk : p.coordinators[c]? = some k) (hlive : k.removed = false)
    (schedule : Schedule) :
    (k.schedule = some schedule ∧ p.setSchedule c schedule = (.ok false, p)) ∨
    (k.schedule ≠ some schedule ∧ p.setSchedule c schedule =
      (.ok true, p.interrupt c (Amendment.reschedule schedule).apply)) := by
  simp only [setSchedule, live_eq_ok.2 ⟨hk, hlive⟩]
  split
  · next he => exact .inl ⟨he, rfl⟩
  · next hne => exact .inr ⟨hne, rfl⟩

end Scheduler

/-- Upkeep leaves of every known coordinator all but what it keeps for its batches. -/
theorem Site.Upkeep.known? {s s' : Site} (h : Upkeep s s') (name : String) :
    (s'.scheduler.known? name).map (·.bare) = (s.scheduler.known? name).map (·.bare) := by
  rw [Scheduler.known?, Scheduler.known?, Scheduler.coordinator?, Scheduler.coordinator?, h.registry,
    Option.map_bind, Option.map_bind]
  exact congrArg _ (funext h.bare)

end BatchTraversal
