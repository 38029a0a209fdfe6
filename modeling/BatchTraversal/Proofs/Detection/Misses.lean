import BatchTraversal.Proofs.Detection.Overlooked

/-!
# How a process comes to overlook a schedule

A process begins to overlook a schedule in three cases only (`Site.Misses`). A detection found the connector
added and passed over the listener, which could not read the schedule. Or a batch of the connector ended
where its schedule says not to poll again, and the schedule was disabled in the process but could not be
stored. Or the connector had lost its coordinator, after the schedule was seen, and is configured again,
which gives it a new coordinator without a schedule. Whatever else a process does, it overlooks only what it
overlooked before (`Site.overlooks_act`).
-/

namespace BatchTraversal

/-- A schedule is not stored if what is stored afterwards has a stamp that was given out before. -/
theorem Backend.fails_of_storeSchedule {b : Backend} {name : String} {schedule : Schedule}
    {y : Stamped Schedule} (hy : ((b.storeSchedule name schedule).2.store.task name).schedule = some y)
    (hle : y.stamp ≤ b.store.lastStamp) : b.fails .storeSchedule = true := by
  by_contra hworks
  rw [Backend.storeSchedule, Backend.call_of_works (Bool.eq_false_iff.2 hworks)] at hy
  simp only [Store.storeSchedule, Store.task_write, if_pos] at hy
  cases hy
  exact absurd hle (Nat.not_succ_le_self _)

namespace Scheduler

variable {p q : Scheduler} {c : CoordinatorId} {name : String} {schedule : Schedule}

/-- Whether a coordinator belongs to a connector and, unless it is removed, goes by a schedule. -/
def Assigned (p : Scheduler) (c : CoordinatorId) (name : String) (schedule : Schedule) : Prop :=
  ∃ k, p.coordinators[c]? = some k ∧ k.name = name ∧ (k.removed = false → k.schedule = some schedule)

/-- A change of one coordinator that leaves its name leaves it with its schedule, if it does so with that
one coordinator. -/
theorem Assigned.modify {d : CoordinatorId} {f : Coordinator → Coordinator}
    (h : p.Assigned c name schedule) (hc : q.coordinators = p.coordinators.modify d f)
    (hf : ∀ k, p.coordinators[d]? = some k → k.name = name → (f k).name = k.name ∧
      ((k.removed = false → k.schedule = some schedule) →
        (f k).removed = false → (f k).schedule = some schedule)) :
    q.Assigned c name schedule := by
  obtain ⟨k, hk, hname, hlive⟩ := h
  have hget := getElem?_modifyCoordinator p d c f
  rw [modifyCoordinator] at hget
  by_cases hdc : d = c
  · obtain ⟨hname', hlive'⟩ := hf k (hdc ▸ hk) hname
    rw [if_pos hdc, hk, ← hc] at hget
    exact ⟨f k, hget, hname'.trans hname, hlive' hlive⟩
  · rw [if_neg hdc, hk, ← hc] at hget
    exact ⟨k, hget, hname, hlive⟩

end Scheduler

namespace Site

open Scheduler

variable {s s' : Site} {t : TaskId} {name : String} {y : Stamped Schedule}

/-! ## Chores -/

/-- A chore leaves a coordinator that goes by the stored schedule with it, unless it removes it. -/
theorem Chore.assigned (h : Chore s s') {c : CoordinatorId} {schedule : Schedule}
    (hst : s'.backend.store.schedule? name = some schedule)
    (ha : s.scheduler.Assigned c name schedule) : s'.scheduler.Assigned c name schedule := by
  cases h with
  | upkeep h =>
    obtain ⟨k, hk, hname, hlive⟩ := ha
    obtain ⟨k', hk', hbare⟩ := h.coordinator hk
    have hname' : k'.name = k.name := congrArg (·.name) hbare
    have hremoved : k'.removed = k.removed := congrArg (·.removed) hbare
    have hschedule : k'.schedule = k.schedule := congrArg (·.schedule) hbare
    exact ⟨k', hk', hname'.trans hname, by rwa [hremoved, hschedule]⟩
  | edit h =>
    cases h with
    | @amend d l a _ hl _ hback =>
      refine ha.modify (by rw [interrupt_eq hl]; rfl) fun k hk hname => ?_
      rw [hl] at hk
      cases hk
      cases a with
      | reschedule stored =>
        refine ⟨rfl, fun _ _ => ?_⟩
        rw [hname] at hback
        exact hback.symm.trans hst
      | configure | dropTraverser => exact ⟨rfl, id⟩
    | enlist =>
      obtain ⟨k, hk, hka⟩ := ha
      exact ⟨k, getElem?_enlist hk, hka⟩
    | @detach d l _ hl hlive =>
      refine ha.modify (by rw [detach_eq hl hlive, interrupt_eq hl]; rfl) fun k _ _ => ?_
      exact ⟨rfl, fun _ hremoved => nomatch hremoved⟩
    | look | storeConfiguration | storeSchedule | removeTask => exact ha
    | @clearCheckpoint d l hl =>
      refine ha.modify rfl fun k hk _ => ?_
      rw [hl] at hk
      cases hk
      exact ⟨CheckpointCell.connector_write .., id⟩

/-- Chores leave a coordinator that goes by a stored schedule with it, as long as that is stored. -/
theorem Chores.assigned (h : Chores s s') {c : CoordinatorId}
    (hy : (s'.backend.store.task name).schedule = some y) (hle : y.stamp ≤ s.backend.store.lastStamp)
    (ha : s.scheduler.Assigned c name y.value) : s'.scheduler.Assigned c name y.value := by
  induction h with
  | refl => exact ha
  | @tail s₁ s₂ h₁ h ih =>
    have hle₁ := Nat.le_trans hle (Moves.becomes (Chores.moves h₁)).store.lastStamp
    exact h.assigned (Store.schedule?_of_stored hy) (ih (h.becomes.store.schedule_of_le hy hle₁))

/-- Chores after which a connector has the coordinator that it had make the process overlook nothing. -/
theorem Chores.overlooks (h : Chores s s') (hr : s.scheduler.Registered)
    (hi : s.scheduler.Informed s.backend.store) (hconserves : s.scheduler.Conserves s'.scheduler name)
    (ho : s'.Overlooks name y) : s.Overlooks name y := by
  obtain ⟨hy, ⟨stamps, hfound, hs⟩, v', hv', hne⟩ := ho
  rw [Chores.inventory h hr] at hfound
  have hle := hi.scheduleSeen name stamps y.stamp hfound hs
  have hevolves := (Moves.becomes (Chores.moves h)).store
  obtain ⟨c, k', hreg', hk', rfl⟩ := terms?_eq_some.1 hv'
  have hreg : s.scheduler.coordinator? name = some c := by
    rcases hconserves with hsame | hnone
    · exact hsame.symm.trans hreg'
    · rw [hnone] at hreg'
      cases hreg'
  obtain ⟨k, hk, hname, hlive⟩ := hr name c hreg
  refine ⟨hevolves.schedule_of_le hy hle, ⟨stamps, hfound, hs⟩, k.terms, terms?_of_coordinator? hreg hk,
    fun hschedule => hne ?_⟩
  -- otherwise the coordinator would have kept the schedule
  obtain ⟨l, hl, -, hkept⟩ := Chores.assigned h hy hle ⟨k, hk, hname, fun _ => hschedule⟩
  obtain ⟨l', hl', -, hlive'⟩ := Chores.registered h hr name c hreg'
  cases hl.symm.trans hk'
  cases hl.symm.trans hl'
  exact hkept hlive'

/-! ## Turns -/

/-- Whether a turn ends a batch of a connector, whose schedule says not to poll again and is disabled, but
in the process only: the store fails. -/
structure Unsaved (t : TaskId) (name : String) (y : Stamped Schedule) (s s' : Site) : Prop where
  delivered : ∃ count result, s'.scheduler.journal =
    s.scheduler.journal ++ [.folded t name count, .delivered t name result]
  fails : s.backend.fails .storeSchedule = true
  off : y.value.retryDelay = .pollingDisabled
  before : ∃ v, s.scheduler.terms? name = some v ∧ v.schedule = some y.value
  after : ∃ v, s'.scheduler.terms? name = some v ∧ v.schedule = some (y.value.withDisabled true)

/-- A turn makes the process overlook nothing, unless it ends a batch and the store fails. -/
theorem Turn.overlooks (h : Turn t s s') (hr : s.scheduler.Registered)
    (hi : s.scheduler.Informed s.backend.store) (ho : s'.Overlooks name y) :
    s.Overlooks name y ∨ Unsaved t name y s s' := by
  obtain ⟨hy, ⟨stamps, hfound, hs⟩, v', hv', hne⟩ := ho
  rw [h.revises.1] at hfound
  have hle := hi.scheduleSeen name stamps y.stamp hfound hs
  have hstored := h.becomes.store.schedule_of_le hy hle
  -- where the live terms stay, the schedule was overlooked before
  have hsame (hterms : ∀ name, s'.scheduler.terms? name = s.scheduler.terms? name) :
      s.Overlooks name y := ⟨hstored, ⟨stamps, hfound, hs⟩, v', (hterms name).symm.trans hv', hne⟩
  cases h with
  | take | answer | crash | retire | choke | count => exact .inl (hsame fun _ => rfl)
  | move => exact .inl (hsame (terms?_modify_same rfl rfl fun _ _ => rfl))
  | @settle b k code _ _ _ hk =>
    rcases settleBatch_cases (s.counted t k (BatchResult.ofCode code).count) t b k (.ofCode code) with
      ⟨-, he⟩ | ⟨-, disabled, hoff, he⟩ <;> rw [he] at hv' hy hsame ⊢
    · exact .inl (hsame (terms?_modify_same rfl rfl fun _ _ => rfl))
    · cases disabled with
      | none => exact .inl (hsame (terms?_modify_same rfl rfl fun _ _ => rfl))
      | some d =>
        obtain ⟨schedule, hschedule, hdelay, rfl⟩ := hoff d rfl
        rcases terms?_modify_cases (p := s.scheduler) (c := b.coordinator)
          (f := .settled (some (schedule.withDisabled true))) hv' rfl rfl with hv | ⟨l, hreg, hl, rfl⟩
        · exact .inl ⟨hstored, ⟨stamps, hfound, hs⟩, v', hv, hne⟩
        · cases hk.symm.trans hl
          obtain ⟨l', hl', hname, -⟩ := hr name _ hreg
          cases hk.symm.trans hl'
          subst hname
          by_cases hlive : schedule = y.value
          · subst hlive
            exact .inr ⟨⟨_, _, List.append_assoc ..⟩, Backend.fails_of_storeSchedule hy hle, hdelay,
              ⟨k.terms, terms?_of_coordinator? hreg hk, hschedule⟩, _, hv', rfl⟩
          · refine .inl ⟨hstored, ⟨stamps, hfound, hs⟩, k.terms, terms?_of_coordinator? hreg hk, ?_⟩
            exact fun h => hlive (Option.some.inj (hschedule.symm.trans h))

/-- Turns of a batch make the process overlook nothing, unless the batch ends in one of them and the store
fails. -/
theorem Turns.overlooks (h : Turns t s s') (hr : s.scheduler.Registered)
    (hi : s.scheduler.Informed s.backend.store) (ho : s'.Overlooks name y) :
    s.Overlooks name y ∨ ∃ s₁ s₂, Turns t s s₁ ∧ Unsaved t name y s₁ s₂ ∧ Turns t s₂ s' := by
  induction h with
  | refl => exact .inl ho
  | @tail s₁ s₂ h₁ h ih =>
    rcases h.overlooks (Moves.registered (Turns.moves h₁) hr) (Turns.informed h₁ hi) ho with ho₁ | hlost
    · rcases ih ho₁ with ho₀ | ⟨u, v, hu, hlost, hv⟩
      · exact .inl ho₀
      · exact .inr ⟨u, v, hu, hlost, hv.tail h⟩
    · exact .inr ⟨s₁, s₂, h₁, hlost, .refl⟩

/-! ## Actions -/

/-- The cases in which a process may begin to overlook a schedule. -/
inductive Misses (s : Site) (name : String) (y : Stamped Schedule) : Action → Prop
  /-- A detection succeeds though it finds the connector added and its listener is passed over. -/
  | skipped {config : ConnectorConfig} (hok : ∃ total, s.detect.1 = .ok total)
      (hpassed : .added name config ∈ s.passedOver) : Misses s name y .detect
  /-- A batch of the connector ends, and its schedule is disabled but not stored. -/
  | unsaved {a : Action} {t : TaskId} {s₁ s₂ : Site} (hbefore : Turns t s s₁)
      (hlost : Unsaved t name y s₁ s₂) (hafter : Turns t s₂ (s.act a)) : Misses s name y a
  /-- The connector is configured while it has no coordinator, though the schedule was seen. -/
  | rejoined {config : ConnectorConfig} {stamps : TaskStamps}
      (hnone : s.scheduler.coordinator? name = none)
      (hseen : s.scheduler.inventory.find? name = some stamps)
      (hstamp : stamps.schedule = some y.stamp) : Misses s name y (.setConfig name config)

/-- Whatever of an action fails, afterwards the process is informed if it was before. -/
theorem informed_act (hr : s.scheduler.Registered) (hd : s.backend.store.Dated)
    (hi : s.scheduler.Informed s.backend.store) (a : Action) :
    (s.act a).scheduler.Informed (s.act a).backend.store := by
  rcases act_cases hr a with rfl | h | ⟨t, h⟩
  · exact informed_detect hr hd hi
  · exact Chores.informed h hr hi
  · exact Turns.informed h hi

/-- An action after which a process overlooks a schedule is one of those that make it do so, or the process
overlooked the schedule before. -/
theorem overlooks_act (hr : s.scheduler.Registered) (hi : s.scheduler.Informed s.backend.store)
    {a : Action} (ho : (s.act a).Overlooks name y) : s.Overlooks name y ∨ s.Misses name y a := by
  rcases act_cases hr a with rfl | h | ⟨t, h⟩
  · exact (overlooks_detect hr ho).imp_right fun ⟨hok, config, hpassed⟩ => .skipped hok hpassed
  · by_cases hadmits : s.Admits name a
    · obtain ⟨stamps, hfound, hs⟩ := ho.seen
      rw [Chores.inventory h hr] at hfound
      cases a with
      | setConfig other config =>
        obtain ⟨rfl, hnone⟩ := hadmits
        exact .inr (.rejoined hnone hfound hs)
      | detect =>
        rw [show s.scheduler.inventory.find? name = none from hadmits] at hfound
        cases hfound
      | _ => cases hadmits
    · exact .inl (Chores.overlooks h hr hi (conserves_act hadmits) ho)
  · exact (Turns.overlooks h hr hi ho).imp_right fun ⟨s₁, s₂, h₁, hlost, h₂⟩ =>
      .unsaved h₁ hlost h₂

end Site

end BatchTraversal
