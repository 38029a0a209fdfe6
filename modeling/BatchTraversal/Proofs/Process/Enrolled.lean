import BatchTraversal.Proofs.Process.Known
import BatchTraversal.Proofs.Process.Turns

/-!
# Live coordinators are the registered ones

A coordinator that is not removed is the one registered under its name, and it has a configuration
(`Scheduler.Enrolled`); every chore and every turn keeps that.
-/

namespace BatchTraversal

namespace Scheduler

/-- Whether every coordinator that is not removed is registered under its name and has a configuration. -/
structure Enrolled (p : Scheduler) : Prop where
  registered : ∀ (c : CoordinatorId) (k : Coordinator), p.coordinators[c]? = some k →
    k.removed = false → p.coordinator? k.name = some c
  configured : ∀ (c : CoordinatorId) (k : Coordinator), p.coordinators[c]? = some k →
    k.removed = false → k.config.isSome

variable {p q : Scheduler} {name : String} {c : CoordinatorId} {k : Coordinator}

/-- A process that has just started has no coordinators. -/
theorem enrolled_start (h : ∃ settings pool kinds, Scheduler.start settings pool kinds = .ok p) :
    p.Enrolled := by
  obtain ⟨settings, pool, kinds, h⟩ := h
  obtain ⟨-, rfl⟩ := start_eq_ok h
  exact ⟨fun _ _ hk => (nomatch hk), fun _ _ hk => (nomatch hk)⟩

/-- Coordinators stay enrolled if the registry stays and every one of them was there before, under the
same name, unless it is removed. -/
theorem Enrolled.congr (h : p.Enrolled) (hreg : q.registry = p.registry)
    (hc : ∀ (c : CoordinatorId) (k' : Coordinator), q.coordinators[c]? = some k' →
      ∃ k, p.coordinators[c]? = some k ∧ k.name = k'.name ∧ k.removed = k'.removed ∧
        (k.config.isSome → k'.config.isSome)) : q.Enrolled := by
  refine ⟨fun c k' hk' hlive => ?_, fun c k' hk' hlive => ?_⟩ <;>
    obtain ⟨k, hk, hname, hremoved, hconfig⟩ := hc c k' hk'
  · rw [coordinator?, hreg, ← hname]
    exact h.registered c k hk (hremoved.trans hlive)
  · exact hconfig (h.configured c k hk (hremoved.trans hlive))

/-- A change of a coordinator that leaves its name, does not remove it and leaves it configured keeps all
enrolled. -/
theorem Enrolled.modify (h : p.Enrolled) {f : Coordinator → Coordinator}
    (hreg : q.registry = p.registry) (hc : q.coordinators = p.coordinators.modify c f)
    (hf : ∀ k, p.coordinators[c]? = some k → (f k).name = k.name ∧ (f k).removed = k.removed ∧
      (k.config.isSome → (f k).config.isSome)) : q.Enrolled := by
  refine h.congr hreg fun d k' hk' => ?_
  have hget := getElem?_modifyCoordinator p c d f
  rw [modifyCoordinator] at hget
  rw [hc, hget] at hk'
  split at hk'
  · next hcd =>
    subst hcd
    obtain ⟨k, hk, rfl⟩ := Option.map_eq_some_iff.1 hk'
    obtain ⟨hname, hremoved, hconfig⟩ := hf k hk
    exact ⟨k, hk, hname.symm, hremoved.symm, hconfig⟩
  · exact ⟨k', hk', rfl, rfl, id⟩

/-- A new coordinator is enrolled if its name was not registered. -/
theorem Enrolled.enlist (h : p.Enrolled) (hnew : p.coordinator? name = none)
    (config : ConnectorConfig) : (p.enlist name config).Enrolled := by
  refine ⟨fun c k hk hlive => ?_, fun c k hk hlive => ?_⟩
  · simp only [Scheduler.enlist, coordinator?, NameMap.find?_insert]
    rcases enlist_cases hk with hk | ⟨rfl, rfl⟩
    · have hreg := h.registered c k hk hlive
      rw [if_neg]
      · exact hreg
      · intro he
        rw [he, hnew] at hreg
        cases hreg
    · exact if_pos rfl
  · rcases enlist_cases hk with hk | ⟨-, rfl⟩
    · exact h.configured c k hk hlive
    · rfl

/-- The coordinators that are left when one is detached are enrolled. -/
theorem Enrolled.detach (h : p.Enrolled) (hreg : p.coordinator? k.name = some c)
    (hk : p.coordinators[c]? = some k) (hlive : k.removed = false) :
    (p.detach k.name c).Enrolled := by
  have hleft {d : CoordinatorId} {l : Coordinator}
      (hl : (p.detach k.name c).coordinators[d]? = some l) (hlivel : l.removed = false) :
      c ≠ d ∧ p.coordinators[d]? = some l := by
    rw [detach_eq hk hlive] at hl
    simp only [interrupt_eq hk] at hl
    rw [getElem?_modifyCoordinator] at hl
    by_cases hcd : c = d
    · subst hcd
      rw [if_pos rfl, hk] at hl
      cases hl
      cases hlivel
    · rw [if_neg hcd] at hl
      exact ⟨hcd, hl⟩
  refine ⟨fun d l hl hlivel => ?_, fun d l hl hlivel => ?_⟩ <;> obtain ⟨hcd, hl⟩ := hleft hl hlivel
  · have hregl := h.registered d l hl hlivel
    rw [detach_eq hk hlive]
    simp only [coordinator?, NameMap.find?_erase]
    rw [if_neg]
    · exact hregl
    · intro he
      rw [he, hreg] at hregl
      exact hcd (Option.some.inj hregl)
  · exact h.configured d l hl hlivel

end Scheduler

namespace Site

variable {s s' : Site} {t : TaskId}

/-- Upkeep registers nothing and removes nothing. -/
theorem Upkeep.enrolled (h : Upkeep s s') (he : s.scheduler.Enrolled) : s'.scheduler.Enrolled := by
  refine he.congr h.registry fun c k' hk' => ?_
  have hb := h.bare c
  rw [hk'] at hb
  obtain ⟨k, hk, hbare⟩ := Option.map_eq_some_iff.1 hb.symm
  have hname : k.bare.name = k'.bare.name := congrArg Coordinator.name hbare
  have hremoved : k.bare.removed = k'.bare.removed := congrArg Coordinator.removed hbare
  have hconfig : k.bare.config = k'.bare.config := congrArg Coordinator.config hbare
  exact ⟨k, hk, hname, hremoved, fun hsome => (congrArg Option.isSome hconfig).symm.trans hsome⟩

/-- A coordinator that a chore makes is registered with its configuration, and one that it removes is taken out.
-/
theorem Chore.enrolled (h : Chore s s') (he : s.scheduler.Enrolled) : s'.scheduler.Enrolled := by
  cases h with
  | upkeep h => exact h.enrolled he
  | edit h =>
    cases h with
    | @amend c k a _ hk =>
      refine he.modify (c := c) (f := .interrupted a.apply) (Scheduler.registry_interrupt ..) ?_
        fun l _ => ⟨(a.apply_name_removed l).1, (a.apply_name_removed l).2, fun hsome => ?_⟩
      · show (s.scheduler.interrupt c a.apply).coordinators = _
        rw [Scheduler.interrupt_eq hk]
        rfl
      · cases a with
        | configure config => rfl
        | reschedule | dropTraverser => exact hsome
    | enlist hnew => exact he.enlist hnew _
    | detach hreg hk hlive => exact he.detach hreg hk hlive
    | look | storeConfiguration | storeSchedule | removeTask => exact ⟨he.registered, he.configured⟩
    | clearCheckpoint hk =>
      refine he.modify rfl rfl fun l hl => ?_
      rw [hk] at hl
      cases hl
      exact ⟨CheckpointCell.connector_write _ _ _, rfl, id⟩

/-- A turn of a batch leaves the registry and the configurations. -/
theorem Turn.enrolled (h : Turn t s s') (he : s.scheduler.Enrolled) : s'.scheduler.Enrolled := by
  cases h with
  | take | answer | crash | retire | choke | count => exact ⟨he.registered, he.configured⟩
  | @move b k r _ _ _ hk =>
    refine he.modify (c := b.coordinator) rfl rfl fun l hl => ?_
    rw [hk] at hl
    cases hl
    exact ⟨RunStage.connector_advance .., rfl, id⟩
  | @settle b k code =>
    rcases settleBatch_cases (s.counted t k (BatchResult.ofCode code).count) t b k (.ofCode code) with
      ⟨-, he'⟩ | ⟨-, disabled, -, he'⟩ <;> rw [he']
    all_goals exact he.modify (c := b.coordinator) rfl rfl fun _ _ => ⟨rfl, rfl, id⟩

/-- At every moment the live coordinators are the registered ones. -/
theorem Moves.enrolled (h : Moves s s') (he : s.scheduler.Enrolled) : s'.scheduler.Enrolled := by
  induction h with
  | refl => exact he
  | tail _ h ih =>
    cases h with
    | chore h => exact h.enrolled ih
    | turn t h => exact h.enrolled ih

/-- Every action of a process keeps all enrolled. -/
theorem enrolled_act (hr : s.scheduler.Registered) (he : s.scheduler.Enrolled) (a : Action) :
    (s.act a).scheduler.Enrolled := by
  obtain ⟨s', inventory, h, e⟩ := act_moves hr a
  have he' := Moves.enrolled h he
  rw [e]
  exact ⟨he'.registered, he'.configured⟩

end Site

end BatchTraversal
