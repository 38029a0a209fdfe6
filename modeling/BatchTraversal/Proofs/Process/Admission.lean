import BatchTraversal.Proofs.Detection.Listings
import BatchTraversal.Proofs.Process.Tallies

/-!
# How a connector comes to be registered

A process makes a coordinator for a connector in two cases only: it is called to configure it and has none,
or a detection finds it in the store and not in the inventory of the last one (`Site.Admits`). Whatever
else a process does, the connector has afterwards the coordinator that it had, or none
(`Site.conserves_act`); in particular after a detection whose inventory has the name already, whatever it
finds and wherever it fails.
-/

namespace BatchTraversal

/-- Only the change that a connector was added is told as one. -/
theorem Change.eq_added_of_read {c : Change} {b : Backend} {name : String} {config : ConnectorConfig}
    (h : (c.read b).1 = .ok (some (.added name config))) : c = .added name := by
  have hmap {α : Type} (r : Except Error α) (f : α → Option Notification) {n : Notification}
      (h : r.map f = .ok (some n)) : ∃ a, f a = some n := by
    cases r with
    | error e => cases h
    | ok a => exact ⟨a, Except.ok.inj h⟩
  cases c with
  | removed other => cases h
  | added other =>
    obtain ⟨stored, hs⟩ := hmap (b.readConfiguration other).1 (Option.map (.added other)) h
    obtain ⟨config, -, he⟩ := Option.map_eq_some_iff.1 hs
    cases he
    rfl
  | configuration other =>
    obtain ⟨stored, hs⟩ := hmap (b.readConfiguration other).1 (Option.map (.configurationChanged other)) h
    obtain ⟨config, -, he⟩ := Option.map_eq_some_iff.1 hs
    cases he
  | checkpoint other =>
    obtain ⟨stored, hs⟩ := hmap (b.readCheckpoint other).1 (some ∘ .checkpointChanged other) h
    cases hs
  | schedule other =>
    obtain ⟨stored, hs⟩ := hmap (b.readSchedule other).1 (some ∘ .scheduleChanged other) h
    cases hs

/-- A name that is in the last listing is not found added. -/
theorem Change.find?_of_added {old new : NameMap TaskStamps} {name : String}
    (h : added name ∈ between old.entries new.entries) : old.find? name = none := by
  have habout := mem_about h
  rw [Change.name] at habout
  cases ho : old.find? name with
  | none => rfl
  | some before =>
    rw [ho] at habout
    cases hn : new.find? name with
    | none =>
      rw [hn] at habout
      cases List.mem_singleton.1 habout
    | some after =>
      rw [hn] at habout
      simp [about, facets] at habout

namespace Scheduler

variable {p : Scheduler} {name other : String} {c : CoordinatorId}

/-- A coordinator that is scheduled stays where it is registered. -/
@[simp] theorem registry_setSchedule (p : Scheduler) (c : CoordinatorId) (schedule : Schedule) :
    (p.setSchedule c schedule).2.registry = p.registry := by
  unfold setSchedule
  split
  · rfl
  · split
    · rfl
    · exact registry_interrupt ..

/-- A coordinator that is told of a checkpoint stays where it is registered. -/
@[simp] theorem registry_checkpointChanged (p : Scheduler) (c : CoordinatorId)
    (checkpoint : Option String) : (p.checkpointChanged c checkpoint).2.registry = p.registry := by
  unfold checkpointChanged
  split
  · rfl
  · split
    · rfl
    · exact registry_interrupt ..

/-- Whether a connector has afterwards the coordinator that it had, or none. -/
def Conserves (p q : Scheduler) (name : String) : Prop :=
  q.coordinator? name = p.coordinator? name ∨ q.coordinator? name = none

variable {q r : Scheduler}

theorem Conserves.refl (p : Scheduler) (name : String) : p.Conserves p name := .inl rfl

/-- Where the registry is left, so is every name in it. -/
theorem conserves_of_registry (h : q.registry = p.registry) : p.Conserves q name :=
  .inl (by rw [coordinator?, coordinator?, h])

/-- A name that is conserved step by step is conserved. -/
theorem Conserves.trans (h : p.Conserves q name) (h' : q.Conserves r name) : p.Conserves r name := by
  rcases h' with hr | hr
  · rcases h with hq | hq
    · exact .inl (hr.trans hq)
    · exact .inr (hr.trans hq)
  · exact .inr hr

/-- A connector that has none does not come by a coordinator. -/
theorem Conserves.unregistered (h : p.Conserves q name) (hnone : p.coordinator? name = none) :
    q.coordinator? name = none := h.elim (·.trans hnone) id

/-- The coordinator of one name is made without regard to the others. -/
theorem conserves_coordinatorFor (h : name ≠ other ∨ p.coordinator? name ≠ none) :
    p.Conserves (p.coordinatorFor other).2 name := by
  unfold coordinatorFor
  split
  · exact .refl p name
  · next hnone =>
    refine .inl (NameMap.find?_insert_of_ne _ _ fun he => ?_)
    rcases h with hne | hsome
    · exact hne he
    · exact hsome (he ▸ hnone)

/-- What is detached is not registered any more, and all else is as it was. -/
theorem conserves_detach : p.Conserves (p.detach other c) name := by
  have herase : (p.registry.erase other).find? name = p.registry.find? name ∨
      (p.registry.erase other).find? name = none := by
    rw [NameMap.find?_erase]
    split
    · exact .inr rfl
    · exact .inl rfl
  unfold detach remove
  split
  · exact herase
  · split
    · exact herase
    · refine Conserves.trans (q := { p with registry := p.registry.erase other }) herase
        (conserves_of_registry ?_)
      exact registry_interrupt ..

end Scheduler

namespace Site

open Scheduler

variable {s s' : Site} {name : String}

/-- A restart registers nothing. -/
theorem registry_restart (s : Site) (c : CoordinatorId) :
    (s.restart c).2.scheduler.registry = s.scheduler.registry := by
  unfold restart
  split
  · rfl
  · dsimp only
    split <;> exact registry_interrupt ..

/-- Whether an action can register a connector: it is the call that configures it while it has no
coordinator, or a detection that did not list it the last time. -/
def Admits (s : Site) (name : String) : Action → Prop
  | .setConfig other _ => other = name ∧ s.scheduler.coordinator? name = none
  | .detect => s.scheduler.inventory.find? name = none
  | _ => False

/-- What is heard gives no connector a coordinator but one that was added. -/
theorem conserves_hear {n : Notification} (hn : ∀ config, n ≠ .added name config) :
    s.scheduler.Conserves (hear n s).2.scheduler name := by
  cases n with
  | added other config =>
    have hne : name ≠ other := fun he => hn config (he ▸ rfl)
    have hfor := conserves_coordinatorFor (p := s.scheduler) (.inl hne)
    simp only [hear]
    generalize s.scheduler.coordinatorFor other = r at hfor ⊢
    obtain ⟨c, p⟩ := r
    have hset := hfor.trans (conserves_of_registry (registry_setConfiguration p c config))
    generalize p.setConfiguration c config = r at hset ⊢
    obtain ⟨e | changed, q⟩ := r <;> dsimp only at hset ⊢
    · exact hset
    · split
      · exact hset
      · exact hset
      · exact hset.trans (conserves_of_registry (registry_setSchedule ..))
  | removed other =>
    simp only [hear]
    split
    · exact .refl _ name
    · exact conserves_detach
  | checkpointChanged other checkpoint =>
    simp only [hear]
    split
    · exact .refl _ name
    · exact conserves_of_registry (registry_checkpointChanged ..)
  | configurationChanged other config =>
    simp only [hear]
    split
    · exact .refl _ name
    · exact conserves_of_registry (registry_setConfiguration ..)
  | scheduleChanged other schedule =>
    cases schedule with
    | none => exact .refl _ name
    | some schedule =>
      simp only [hear]
      split
      · exact .refl _ name
      · exact conserves_of_registry (registry_setSchedule ..)

/-- What is told gives no connector a coordinator that is not found added, however far the telling gets. -/
theorem conserves_tell {changes : List Change} (hc : .added name ∉ changes)
    (summary : ChangeSummary) (clock : Clock) (p : Scheduler) (b : Backend) :
    p.Conserves (Detector.tell (listener clock) changes summary p b).2.1 name := by
  induction changes generalizing summary p b with
  | nil => exact .refl p name
  | cons c rest ih =>
    have hrest : .added name ∉ rest := fun h => hc (List.mem_cons_of_mem c h)
    unfold Detector.tell
    split
    · exact .refl p name
    · exact ih hrest summary _ _
    · next n b' he =>
      refine (conserves_hear (s := ⟨p, b', clock⟩) fun config hn => hc ?_).trans (ih hrest _ _ _)
      subst hn
      have hread : (c.read b).1 = .ok (some (.added name config)) := congrArg Prod.fst he
      rw [Change.eq_added_of_read hread]
      exact List.mem_cons_self

/-- A detection gives no connector a coordinator that its inventory lists. -/
theorem conserves_detect (hlisted : s.scheduler.inventory.find? name ≠ none) :
    s.scheduler.Conserves s.detect.2.scheduler name := by
  rcases s.detect_cases with ⟨e, -, he⟩ | ⟨-, r, p, b, inventory, ht, he, -⟩ <;> rw [he]
  · exact .refl _ name
  · have hadded : .added name ∉
        Change.between s.scheduler.inventory.entries s.backend.store.list.entries :=
      fun h => hlisted (Change.find?_of_added h)
    have htell := conserves_tell hadded {} s.clock s.scheduler (s.backend.used .listTasks)
    rw [ht] at htell
    exact htell

/-- A call gives no connector a coordinator but the one that it configures. -/
theorem conserves_call {a : Action} (ha : a.IsCall) (hadmits : ¬ s.Admits name a) :
    s.scheduler.Conserves (s.act a).scheduler name := by
  cases a with
  | setConfig other config =>
    have hfor : s.scheduler.Conserves (s.scheduler.coordinatorFor other).2 name :=
      conserves_coordinatorFor
        ((Decidable.em (name = other)).symm.imp_right fun he hnone => hadmits ⟨he.symm, hnone⟩)
    show s.scheduler.Conserves (s.setConfig other config).2.scheduler name
    unfold setConfig
    split
    · exact .refl _ name
    · split
      · exact .refl _ name
      · generalize s.scheduler.coordinatorFor other = r at hfor ⊢
        obtain ⟨c, p⟩ := r
        have hset := hfor.trans (conserves_of_registry (registry_setConfiguration p c config))
        dsimp only
        generalize p.setConfiguration c config = r at hset ⊢
        obtain ⟨e | changed, q⟩ := r <;> dsimp only at hset ⊢
        · exact hset
        · split
          · exact hset.trans (conserves_of_registry (registry_restart ..))
          · exact hset
  | setSchedule other text =>
    show s.scheduler.Conserves (s.setSchedule other text).2.scheduler name
    unfold setSchedule
    split
    · exact .refl _ name
    · split
      · exact .refl _ name
      · split
        · exact .refl _ name
        · exact conserves_of_registry (registry_setSchedule ..)
  | remove other =>
    show s.scheduler.Conserves (s.removeConnector other).2.scheduler name
    unfold removeConnector
    split
    · exact .refl _ name
    · exact conserves_detach
  | restart other =>
    show s.scheduler.Conserves (s.restartConnector other).2.scheduler name
    unfold restartConnector
    split
    · exact .refl _ name
    · exact conserves_of_registry (registry_restart ..)
  | _ => cases ha

/-- The turns of a batch register nothing. -/
theorem Turns.registry {t : TaskId} (h : Turns t s s') :
    s'.scheduler.registry = s.scheduler.registry := by
  induction h with
  | refl => rfl
  | tail _ h ih => exact h.registry.trans ih

/-- An action leaves a connector its coordinator or takes it away, unless it admits the connector. -/
theorem conserves_act {a : Action} (ha : ¬ s.Admits name a) :
    s.scheduler.Conserves (s.act a).scheduler name := by
  rcases s.act_kinds a with rfl | hcall | h | ⟨t, h⟩
  · exact conserves_detect ha
  · exact conserves_call hcall ha
  · exact conserves_of_registry h.registry
  · exact conserves_of_registry h.registry

end Site

end BatchTraversal
