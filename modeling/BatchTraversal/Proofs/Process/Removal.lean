import BatchTraversal.Proofs.Process.Enrolled
import BatchTraversal.Proofs.Process.Flight
import BatchTraversal.Proofs.Throttle.Backoff

/-!
# What is left of a removed connector

A removed coordinator keeps nothing (`Coordinator.Defunct`), and the throttle keeps an entry only for a
name that is registered (`Scheduler.Purged`). Upkeep and the end of a batch make entries, but only for a
coordinator that is not removed, which is the registered one of its name; and a name goes out of the
registry together with its entry. So the late end of a batch of a removed coordinator, or of one whose
name was taken by a new one, leaves nothing behind. Whatever a removed coordinator is asked for it refuses
(`Site.Refuses`).
-/

namespace BatchTraversal

/-- Whether a coordinator is removed and keeps nothing. -/
structure Coordinator.Defunct (k : Coordinator) : Prop where
  removed : k.removed = true
  config : k.config = none
  schedule : k.schedule = none
  traverser : k.traverser = none
  handle : k.handle = none

namespace Scheduler

/-- Whether nothing is kept of the connectors that were removed. -/
structure Purged (p : Scheduler) : Prop where
  defunct : ∀ (c : CoordinatorId) (k : Coordinator), p.coordinators[c]? = some k → k.removed → k.Defunct
  tracked : ∀ name, p.coordinator? name = none → p.throttle.entries.find? name = none

variable {p q : Scheduler} {name : String} {c : CoordinatorId} {k : Coordinator}

/-- A process that has just started has no entries. -/
theorem purged_start (h : ∃ settings pool kinds, Scheduler.start settings pool kinds = .ok p) :
    p.Purged := by
  obtain ⟨settings, pool, kinds, h⟩ := h
  obtain ⟨-, rfl⟩ := start_eq_ok h
  exact ⟨fun _ _ hk => (nomatch hk), fun _ _ => rfl⟩

/-- Nothing is kept after a change of one coordinator, if it is not one that was removed or keeps nothing
all the same, and if the throttle's entries of names that are not registered are left as they were. -/
theorem Purged.modify (h : p.Purged) {f : Coordinator → Coordinator}
    (hreg : q.registry = p.registry) (hc : q.coordinators = p.coordinators.modify c f)
    (hf : ∀ k, p.coordinators[c]? = some k → (f k).removed → (f k).Defunct)
    (ht : ∀ name, p.coordinator? name = none →
      q.throttle.entries.find? name = p.throttle.entries.find? name) : q.Purged := by
  refine ⟨fun d l hl hremoved => ?_, fun name hn => ?_⟩
  · have hget := getElem?_modifyCoordinator p c d f
    rw [modifyCoordinator] at hget
    rw [hc, hget] at hl
    split at hl
    · next hcd =>
      subst hcd
      obtain ⟨k, hk, rfl⟩ := Option.map_eq_some_iff.1 hl
      exact hf k hk hremoved
    · exact h.defunct d l hl hremoved
  · rw [coordinator?, hreg] at hn
    exact (ht name hn).trans (h.tracked name hn)

/-- A process with the same coordinators is purged if no entry is made for an unregistered name. -/
theorem Purged.same (h : p.Purged) (hreg : q.registry = p.registry)
    (hc : q.coordinators = p.coordinators) (ht : ∀ name, p.coordinator? name = none →
      q.throttle.entries.find? name = p.throttle.entries.find? name) : q.Purged :=
  h.modify (c := 0) (f := id) hreg (by rw [hc, List.modify_id]) (fun k => h.defunct 0 k) ht

/-- What is changed for the name of a coordinator that is not removed is changed for a registered name. -/
theorem Enrolled.keeps_untracked (he : p.Enrolled) (hk : p.coordinators[c]? = some k)
    (hlive : k.removed = false) {throttle : Throttle} (ht : p.throttle.Alters k.name throttle) :
    ∀ name, p.coordinator? name = none →
      throttle.entries.find? name = p.throttle.entries.find? name := by
  intro name hn
  refine ht name fun hname => ?_
  rw [hname, he.registered c k hk hlive] at hn
  cases hn

/-- A new coordinator is not removed, and its name is registered, so an entry under it is allowed. -/
theorem Purged.enlist (h : p.Purged) (name : String) (config : ConnectorConfig) :
    (p.enlist name config).Purged := by
  refine ⟨fun c k hk hremoved => ?_, fun other hn => ?_⟩
  · rcases enlist_cases hk with hk | ⟨-, rfl⟩
    · exact h.defunct c k hk hremoved
    · cases hremoved
  · simp only [Scheduler.enlist, coordinator?, NameMap.find?_insert] at hn
    split at hn
    · cases hn
    · exact h.tracked other hn

/-- A coordinator that is detached keeps nothing, and its name is neither registered nor tracked. -/
theorem Purged.detach (h : p.Purged) (hk : p.coordinators[c]? = some k) (hlive : k.removed = false) :
    (p.detach k.name c).Purged := by
  rw [detach_eq hk hlive]
  refine ⟨fun d l hl hremoved => ?_, fun name hn => ?_⟩
  · simp only [interrupt_eq hk] at hl
    rw [getElem?_modifyCoordinator] at hl
    split at hl
    · obtain ⟨k', -, rfl⟩ := Option.map_eq_some_iff.1 hl
      exact ⟨rfl, rfl, rfl, rfl, rfl⟩
    · exact h.defunct d l hl hremoved
  · simp only [coordinator?, NameMap.find?_erase] at hn
    simp only [Throttle.remove, NameMap.find?_erase]
    split at hn
    · next hname => exact if_pos hname
    · next hname => exact (if_neg hname).trans (h.tracked name hn)

end Scheduler

namespace Site

open Scheduler

variable {s s' : Site} {t : TaskId} {c : CoordinatorId} {k : Coordinator}

/-! ## Chores and turns -/

/-- Upkeep makes entries for live coordinators only, and their names are registered. -/
theorem Upkeep.purged (h : Upkeep s s') (hf : s.scheduler.Flight) (he : s.scheduler.Enrolled)
    (hp : s.scheduler.Purged) : s'.scheduler.Purged := by
  cases h with
  | @giveUp c k t hk ht =>
    have hlive : k.removed = false := by
      refine eq_false_of_ne_true fun hr => ?_
      rw [hf.removed c k hk hr] at ht
      cases ht
    refine hp.modify (c := c) (f := .givenUp) rfl rfl (fun l hl hremoved => ?_)
      (he.keeps_untracked hk hlive (Throttle.alters_finish _ _ _ _))
    cases hk.symm.trans hl
    cases hlive.symm.trans hremoved
  | backOff hk hlive => exact hp.same rfl rfl (he.keeps_untracked hk hlive (Throttle.alters_finish _ _ _ _))
  | hint load hk hlive =>
    exact hp.same rfl rfl (he.keeps_untracked hk hlive (Throttle.alters_hint _ _ _ _))
  | @equip c k hk hlive hnone =>
    rcases s.scheduler.traverserFor_cases c hnone with ⟨e, he⟩ | ⟨config, adapter, -, -, he⟩ <;> rw [he]
    · exact hp
    · refine hp.modify (c := c) rfl rfl (fun l hl hremoved => ?_) fun _ _ => rfl
      cases hk.symm.trans hl
      cases hlive.symm.trans hremoved
  | @submit c k r maxItems metered hk hlive =>
    rcases s.scheduler.submit_cases c k r maxItems metered with he | ⟨t, pool, -, he⟩ <;> rw [he]
    all_goals
      refine hp.modify (c := c) rfl rfl (fun l hl hremoved => ?_) fun _ _ => rfl
      cases hk.symm.trans hl
      cases hlive.symm.trans hremoved
  | measure | curb => exact hp.same rfl rfl fun _ _ => rfl

/-- A chore that removes a coordinator drops the entry of its name. -/
theorem Chore.purged (h : Chore s s') (hf : s.scheduler.Flight) (he : s.scheduler.Enrolled)
    (hp : s.scheduler.Purged) : s'.scheduler.Purged := by
  cases h with
  | upkeep h => exact h.purged hf he hp
  | edit h =>
    cases h with
    | @amend c k a _ hk hlive =>
      show (s.scheduler.interrupt c a.apply).Purged
      rw [interrupt_eq hk]
      refine hp.modify (c := c) rfl rfl (fun l hl hremoved => ?_) fun _ _ => rfl
      cases hk.symm.trans hl
      cases (hlive.symm.trans (a.apply_name_removed k).2.symm).trans hremoved
    | enlist => exact hp.enlist _ _
    | detach _ hk hlive => exact hp.detach hk hlive
    | look | storeConfiguration | storeSchedule | removeTask => exact hp
    | @clearCheckpoint c k hk =>
      refine hp.modify (c := c) rfl rfl (fun l hl hremoved => ?_) fun _ _ => rfl
      have hd := hp.defunct c l hl hremoved
      exact ⟨hd.removed, hd.config, hd.schedule, hd.traverser, hd.handle⟩

/-- The end of a batch changes an entry only for a coordinator that is not removed. -/
theorem Turn.purged (h : Turn t s s') (he : s.scheduler.Enrolled) (hp : s.scheduler.Purged) :
    s'.scheduler.Purged := by
  cases h with
  | take | answer | crash | retire => exact ⟨hp.defunct, hp.tracked⟩
  | @move b k r _ _ _ hk =>
    refine hp.modify (c := b.coordinator) rfl rfl (fun l hl hremoved => ?_) fun _ _ => rfl
    have hd := hp.defunct _ l hl hremoved
    exact ⟨hd.removed, hd.config, hd.schedule, hd.traverser, hd.handle⟩
  | choke _ _ _ hk hlive =>
    exact hp.same rfl rfl (he.keeps_untracked hk hlive (Throttle.alters_fold _ _ _ _))
  | count _ _ _ hk hlive =>
    exact hp.same rfl rfl (he.keeps_untracked hk hlive (Throttle.alters_fold _ _ _ _))
  | @settle b k code _ _ _ hk hlive =>
    have hfolded := s.scheduler.throttle.alters_fold k.name (BatchResult.ofCode code).count s.now
    rcases settleBatch_cases (s.counted t k (BatchResult.ofCode code).count) t b k (.ofCode code) with
      ⟨-, hs⟩ | ⟨-, disabled, -, hs⟩ <;> rw [hs]
    all_goals
      refine hp.modify (c := b.coordinator) rfl rfl (fun l hl hremoved => ?_)
        (he.keeps_untracked hk hlive (hfolded.trans (Throttle.alters_finish _ _ _ _)))
      cases hk.symm.trans hl
      cases hlive.symm.trans hremoved

/-- At every moment the throttle keeps entries for registered names only. -/
theorem Moves.purged (h : Moves s s') (hf : s.scheduler.Flight) (he : s.scheduler.Enrolled)
    (hp : s.scheduler.Purged) : s'.scheduler.Purged := by
  induction h with
  | refl => exact hp
  | tail h₀ h ih =>
    cases h with
    | chore h => exact h.purged (Moves.flight h₀ hf) (Moves.enrolled h₀ he) ih
    | turn t h => exact h.purged (Moves.enrolled h₀ he) ih

/-- Every action of a process keeps it purged. -/
theorem purged_act (hr : s.scheduler.Registered) (hf : s.scheduler.Flight) (he : s.scheduler.Enrolled)
    (hp : s.scheduler.Purged) (a : Action) : (s.act a).scheduler.Purged := by
  obtain ⟨s', inventory, h, e⟩ := act_moves hr a
  have hp' := Moves.purged h hf he hp
  rw [e]
  exact ⟨hp'.defunct, hp'.tracked⟩

/-! ## Calls on a removed coordinator -/

/-- Whether a process refuses whatever a coordinator of a certain name is asked for, which is not found, and
is left as it was. -/
structure Refuses (s : Site) (c : CoordinatorId) (name : String) : Prop where
  setConfiguration : ∀ config, s.scheduler.setConfiguration c config =
    (.error (.connectorNotFound name), s.scheduler)
  setSchedule : ∀ schedule, s.scheduler.setSchedule c schedule =
    (.error (.connectorNotFound name), s.scheduler)
  startBatch : ∀ maxItems metered, s.scheduler.startBatch c maxItems metered s.clock =
    (.error (.connectorNotFound name), s.scheduler)
  restart : s.restart c = (.error (.connectorNotFound name), s)
  checkpointChanged : ∀ checkpoint, s.scheduler.checkpointChanged c checkpoint =
    (.error (.connectorNotFound name), s.scheduler)

/-- A removed coordinator refuses each call with the same error, and changes nothing by it. -/
theorem refuses_of_removed (hk : s.scheduler.coordinators[c]? = some k) (hr : k.removed = true) :
    s.Refuses c k.name := by
  have hlive : s.scheduler.live c = .error (.connectorNotFound k.name) := by
    simp [Scheduler.live, hk, hr]
  constructor
  · simp [Scheduler.setConfiguration, hlive]
  · simp [Scheduler.setSchedule, hlive]
  · simp [Scheduler.startBatch, hlive]
  · simp [Site.restart, hlive]
  · simp [Scheduler.checkpointChanged, hlive]

/-- A coordinator that is removed and keeps nothing is in the phase that says so, and looking at it changes
nothing. -/
theorem phase_of_defunct (hk : s.scheduler.coordinators[c]? = some k) (hd : k.Defunct) (now : Instant) :
    s.scheduler.phase c now = (.removed, s.scheduler) := by
  have hreap : s.scheduler.reap c now = s.scheduler := by
    simp [Scheduler.reap, hk, hd.handle]
  simp [Scheduler.phase, hreap, hk, hd.removed]

end Site

end BatchTraversal
