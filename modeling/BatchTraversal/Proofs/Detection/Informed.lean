import BatchTraversal.Proofs.Detection.Evolution

/-!
# What a process has seen of the store

The stamps that a process has seen are never those of a later write. While calls of the store fail a process
may lose track of a stored schedule, but not of a configuration: where its inventory has the stamp of the
stored configuration its live coordinator goes by that very configuration (`Scheduler.Informed`). Every chore
of a process and every turn of a batch keeps that.
-/

namespace BatchTraversal

/-! ## Terms and inventories -/

namespace Scheduler

variable {p q : Scheduler} {c : CoordinatorId}

/-- A process that has just started has listed nothing. -/
theorem inventory_start (h : ∃ settings pool kinds, Scheduler.start settings pool kinds = .ok p)
    (name : String) : p.inventory.find? name = none := by
  obtain ⟨settings, pool, kinds, h⟩ := h
  rw [(start_eq_ok h).2]
  rfl

/-- A change of one coordinator that leaves its terms leaves those of every connector. -/
theorem terms?_modify_same {f : Coordinator → Coordinator} (hreg : q.registry = p.registry)
    (hc : q.coordinators = p.coordinators.modify c f)
    (hf : ∀ k, p.coordinators[c]? = some k → (f k).terms = k.terms) (name : String) :
    q.terms? name = p.terms? name := by
  refine terms?_congr hreg (fun d => ?_) name
  have hd := getElem?_modifyCoordinator p c d f
  rw [modifyCoordinator] at hd
  rw [hc, hd]
  split
  · next he =>
    subst he
    cases hk : p.coordinators[c]? with
    | none => rfl
    | some k => exact congrArg some (hf k hk)
  · rfl

/-- A change of one coordinator changes the terms of no connector but its own. -/
theorem terms?_modify_cases {f : Coordinator → Coordinator} {name : String} {v : Terms}
    (hv : q.terms? name = some v) (hreg : q.registry = p.registry)
    (hc : q.coordinators = p.coordinators.modify c f) : p.terms? name = some v ∨
      ∃ k, p.coordinator? name = some c ∧ p.coordinators[c]? = some k ∧ v = (f k).terms := by
  obtain ⟨d, l, hd, hl, rfl⟩ := terms?_eq_some.1 hv
  rw [coordinator?, hreg] at hd
  have hdl := getElem?_modifyCoordinator p c d f
  rw [modifyCoordinator] at hdl
  rw [hc, hdl] at hl
  split at hl
  · next he =>
    subst he
    obtain ⟨k, hk, rfl⟩ := Option.map_eq_some_iff.1 hl
    exact .inr ⟨k, hd, hk, rfl⟩
  · exact .inl (terms?_of_coordinator? hd hl)

end Scheduler

namespace Site

variable {s s' : Site} {t : TaskId}

/-- Upkeep leaves the terms of every connector. -/
theorem Upkeep.terms? (h : Upkeep s s') (name : String) :
    s'.scheduler.terms? name = s.scheduler.terms? name := by
  refine Scheduler.terms?_congr h.registry (fun c => ?_) name
  have hb := congrArg (Option.map Coordinator.terms) (h.bare c)
  rwa [Option.map_map, Option.map_map] at hb

/-- A chore leaves the inventory, and of every connector the terms that it had or those that are stored; the
schedule may be missing. -/
theorem Chore.revises (h : Chore s s') (hr : s.scheduler.Registered) :
    s'.scheduler.inventory = s.scheduler.inventory ∧
    ∀ name v', s'.scheduler.terms? name = some v' →
      (v'.configuration = s'.backend.store.configuration? name ∨
        ∃ v, s.scheduler.terms? name = some v ∧ v.configuration = v'.configuration) ∧
      (v'.schedule = none ∨ v'.schedule = s'.backend.store.schedule? name ∨
        ∃ v, s.scheduler.terms? name = some v ∧ v.schedule = v'.schedule) := by
  -- where the terms of all connectors stay there is nothing to show
  have hsame (hterms : ∀ name, s'.scheduler.terms? name = s.scheduler.terms? name) (name : String)
      (v' : Terms) (hv' : s'.scheduler.terms? name = some v') :
      (v'.configuration = s'.backend.store.configuration? name ∨
        ∃ v, s.scheduler.terms? name = some v ∧ v.configuration = v'.configuration) ∧
      (v'.schedule = none ∨ v'.schedule = s'.backend.store.schedule? name ∨
        ∃ v, s.scheduler.terms? name = some v ∧ v.schedule = v'.schedule) := by
    rw [hterms name] at hv'
    exact ⟨.inr ⟨v', hv', rfl⟩, .inr (.inr ⟨v', hv', rfl⟩)⟩
  cases h with
  | upkeep h => exact ⟨h.inventory, hsame h.terms?⟩
  | edit h =>
    cases h with
    | @amend c k a hreg hk hlive hback =>
      have hinv : (s.scheduler.interrupt c a.apply).inventory = s.scheduler.inventory := by
        rw [Scheduler.interrupt_eq hk]
        rfl
      refine ⟨hinv, fun name v' hv' => ?_⟩
      have hterms := Scheduler.terms?_amend hr hreg a name
      rw [show (s.scheduler.interrupt c a.apply).terms? name = some v' from hv'] at hterms
      split at hterms
      · next he =>
        subst he
        obtain ⟨v, hv, rfl⟩ := Option.map_eq_some_iff.1 hterms.symm
        cases a with
        | configure config => exact ⟨.inl (Eq.symm hback), .inr (.inr ⟨v, hv, rfl⟩)⟩
        | reschedule schedule => exact ⟨.inr ⟨v, hv, rfl⟩, .inr (.inl (Eq.symm hback))⟩
        | dropTraverser => exact ⟨.inr ⟨v, hv, rfl⟩, .inr (.inr ⟨v, hv, rfl⟩)⟩
      · exact ⟨.inr ⟨v', hterms.symm, rfl⟩, .inr (.inr ⟨v', hterms.symm, rfl⟩)⟩
    | @enlist name config hnew hback =>
      refine ⟨rfl, fun other v' hv' => ?_⟩
      have hterms := Scheduler.terms?_enlist hr name config other
      rw [show (s.scheduler.enlist name config).terms? other = some v' from hv'] at hterms
      split at hterms
      · next he =>
        subst he
        cases hterms
        exact ⟨.inl (Eq.symm hback), .inl rfl⟩
      · exact ⟨.inr ⟨v', hterms.symm, rfl⟩, .inr (.inr ⟨v', hterms.symm, rfl⟩)⟩
    | @detach c k hreg hk hlive =>
      have hinv : (s.scheduler.detach k.name c).inventory = s.scheduler.inventory := by
        rw [Scheduler.detach_eq hk hlive, Scheduler.interrupt_eq hk]
        rfl
      refine ⟨hinv, fun other v' hv' => ?_⟩
      have hterms := Scheduler.terms?_detach hr hreg other
      rw [show (s.scheduler.detach k.name c).terms? other = some v' from hv'] at hterms
      split at hterms
      · cases hterms
      · exact ⟨.inr ⟨v', hterms.symm, rfl⟩, .inr (.inr ⟨v', hterms.symm, rfl⟩)⟩
    | look | storeConfiguration | storeSchedule | removeTask => exact ⟨rfl, hsame fun _ => rfl⟩
    | clearCheckpoint =>
      exact ⟨rfl, hsame (Scheduler.terms?_modify_same rfl rfl fun _ _ => rfl)⟩

/-- A turn of a batch leaves the inventory and the configurations. -/
theorem Turn.revises (h : Turn t s s') : s'.scheduler.inventory = s.scheduler.inventory ∧
    ∀ name v', s'.scheduler.terms? name = some v' →
      ∃ v, s.scheduler.terms? name = some v ∧ v.configuration = v'.configuration := by
  -- a change of one coordinator that leaves its configuration
  have hmodify {q : Scheduler} {c : CoordinatorId} {f : Coordinator → Coordinator}
      (hreg : q.registry = s.scheduler.registry)
      (hc : q.coordinators = s.scheduler.coordinators.modify c f)
      (hf : ∀ k, (f k).config = k.config) (name : String) (v' : Terms)
      (hv' : q.terms? name = some v') :
      ∃ v, s.scheduler.terms? name = some v ∧ v.configuration = v'.configuration := by
    rcases Scheduler.terms?_modify_cases hv' hreg hc with hv | ⟨k, hreg', hk, rfl⟩
    · exact ⟨v', hv, rfl⟩
    · exact ⟨k.terms, Scheduler.terms?_of_coordinator? hreg' hk, (hf k).symm⟩
  cases h with
  | take | answer | crash | retire | choke | count => exact ⟨rfl, fun _ v' hv' => ⟨v', hv', rfl⟩⟩
  | move => exact ⟨rfl, hmodify rfl rfl fun _ => rfl⟩
  | @settle b k code =>
    rcases settleBatch_cases (s.counted t k (BatchResult.ofCode code).count) t b k (.ofCode code) with
      ⟨-, he⟩ | ⟨-, disabled, -, he⟩ <;> rw [he]
    · exact ⟨rfl, hmodify (f := .settled none) rfl rfl fun _ => rfl⟩
    · exact ⟨rfl, hmodify (f := .settled disabled) rfl rfl fun _ => rfl⟩

theorem Chores.inventory (h : Chores s s') (hr : s.scheduler.Registered) :
    s'.scheduler.inventory = s.scheduler.inventory := by
  induction h with
  | refl => rfl
  | tail h₀ h ih => exact (h.revises (Moves.registered (Chores.moves h₀) hr)).1.trans ih

end Site

/-! ## What a process knows of the configurations -/

namespace Scheduler

/-- Whether the live configurations are those that the process has seen in the store. -/
structure Informed (p : Scheduler) (st : Store) : Prop where
  configurationSeen : ∀ name stamps n, p.inventory.find? name = some stamps →
    stamps.configuration = some n → n ≤ st.lastStamp
  scheduleSeen : ∀ name stamps n, p.inventory.find? name = some stamps →
    stamps.schedule = some n → n ≤ st.lastStamp
  configuration : ∀ name stamps x v, p.inventory.find? name = some stamps →
    (st.task name).configuration = some x → stamps.configuration = some x.stamp →
    p.terms? name = some v → v.configuration = some x.value

variable {p q : Scheduler} {st st' : Store}

/-- What was stored since has a stamp that the process cannot have seen. -/
theorem Informed.evolves (h : p.Informed st) (he : st.Evolves st') : p.Informed st' := by
  refine ⟨fun name stamps n hi hn => ?_, fun name stamps n hi hn => ?_, fun name stamps x v hi hx hs => ?_⟩
  · exact Nat.le_trans (h.configurationSeen name stamps n hi hn) he.lastStamp
  · exact Nat.le_trans (h.scheduleSeen name stamps n hi hn) he.lastStamp
  · rcases he.configuration name x hx with hold | hlater
    · exact h.configuration name stamps x v hi hold hs
    · exact absurd (h.configurationSeen name stamps x.stamp hi hs) (Nat.not_le_of_lt hlater)

/-- A process that has seen the stamp of a stored schedule has seen that schedule. -/
theorem Informed.schedule_stored (h : p.Informed st) (he : st.Evolves st') {name : String}
    {stamps : TaskStamps} {y : Stamped Schedule} (hi : p.inventory.find? name = some stamps)
    (hy : (st'.task name).schedule = some y) (hs : stamps.schedule = some y.stamp) :
    (st.task name).schedule = some y :=
  he.schedule_of_le hy (h.scheduleSeen name stamps y.stamp hi hs)

/-- A process stays informed if its configurations are what they were or what is stored. -/
theorem Informed.revise (h : p.Informed st) (hinv : q.inventory = p.inventory)
    (hterms : ∀ name v', q.terms? name = some v' → v'.configuration = st.configuration? name ∨
      ∃ v, p.terms? name = some v ∧ v.configuration = v'.configuration) : q.Informed st := by
  refine ⟨hinv ▸ h.configurationSeen, hinv ▸ h.scheduleSeen, fun name stamps x v' hi hx hs hv' => ?_⟩
  rw [hinv] at hi
  rcases hterms name v' hv' with hstored | ⟨v, hv, hsame⟩
  · rw [hstored, Store.configuration?_of_stored hx]
  · rw [← hsame]
    exact h.configuration name stamps x v hi hx hs hv

end Scheduler

namespace Site

variable {s s' : Site} {t : TaskId}

theorem Chores.informed (h : Chores s s') (hr : s.scheduler.Registered)
    (hi : s.scheduler.Informed s.backend.store) : s'.scheduler.Informed s'.backend.store := by
  induction h with
  | refl => exact hi
  | tail h₀ h ih =>
    have hrev := h.revises (Moves.registered (Chores.moves h₀) hr)
    exact (ih.evolves h.becomes.store).revise hrev.1 fun name v' hv' => (hrev.2 name v' hv').1

theorem Turns.informed (h : Turns t s s') (hi : s.scheduler.Informed s.backend.store) :
    s'.scheduler.Informed s'.backend.store := by
  induction h with
  | refl => exact hi
  | tail _ h ih =>
    exact (ih.evolves h.becomes.store).revise h.revises.1 fun name v' hv' =>
      .inr (h.revises.2 name v' hv')

end Site

end BatchTraversal
