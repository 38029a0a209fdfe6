import BatchTraversal.Proofs.Pool.Isolation
import BatchTraversal.World
import Mathlib.Logic.Relation

/-!
# The chores of a process

What a process does apart from its batches (administrative calls, scheduling passes, detections, the
looks of the monitors) consists of a few kinds of small changes, its chores (`Site.Chore`). Every such
action is a sequence of them (`Site.act_cases`, `Site.detect_edits`), so that what each chore keeps is
kept by all of these actions. Calls and detections are made of edits (`Site.Edit`), what else there is of
upkeep (`Site.Upkeep`). A chore that changes the configuration or the schedule of a coordinator
changes it to what the store holds at that moment, and a batch is submitted only for a live
coordinator that has none in flight.
-/

namespace BatchTraversal

/-! ## Coordinators of a process -/

/-- The coordinator `f k` with its generation moved on and no batch in flight. -/
def Coordinator.interrupted (f : Coordinator → Coordinator) (k : Coordinator) : Coordinator :=
  { f k with generation := k.generation + 1, handle := none }

/-- A coordinator whose batch in flight has ended without reporting back. -/
def Coordinator.givenUp (k : Coordinator) : Coordinator :=
  { k with generation := k.generation + 1, handle := none, traverser := none }

/-- The batch that a coordinator submits next. -/
def Coordinator.nextBatch (k : Coordinator) (c : CoordinatorId) (r : TraverserId) (maxItems : Nat)
    (metered : Bool) : Batch :=
  { coordinator := c, generation := k.generation + 1, maxItems, traverser := r, metered }

/-- The coordinator without what it keeps for its batches. -/
def Coordinator.bare (k : Coordinator) : Coordinator :=
  { k with traverser := none, handle := none, generation := 0 }

/-- A change of one coordinator keeps whatever it leaves to that one. -/
theorem map_modify_coordinator {α : Type} {g : Coordinator → α} {l : List Coordinator}
    {c : CoordinatorId} {f : Coordinator → Coordinator} (hf : ∀ k, l[c]? = some k → g (f k) = g k)
    (d : CoordinatorId) : ((l.modify c f)[d]?).map g = (l[d]?).map g := by
  rw [List.getElem?_modify]
  by_cases hcd : c = d
  · subst hcd
    cases hk : l[c]? with
    | none => rfl
    | some k => simp [hf k hk]
  · cases l[d]? <;> simp [hcd]

/-- A place in a list with one more entry is one of the list, or that of the entry. -/
theorem getElem?_concat_cases {α : Type} {l : List α} {a b : α} {i : Nat}
    (h : (l ++ [a])[i]? = some b) : l[i]? = some b ∨ i = l.length ∧ b = a := by
  rcases Nat.lt_trichotomy i l.length with hlt | rfl | hgt
  · rw [List.getElem?_append_left hlt] at h
    exact .inl h
  · rw [List.getElem?_concat_length, Option.some.injEq] at h
    exact .inr ⟨rfl, h.symm⟩
  · rw [List.getElem?_eq_none (by simpa using Nat.succ_le_of_lt hgt)] at h
    cases h

/-- Reading and writing leaves a cell with its connector. -/
theorem CheckpointCell.connector_read (cell : CheckpointCell) (b : Backend) :
    (cell.read b).2.1.connector = cell.connector := by
  unfold read
  split <;> rfl

/-- Writing leaves a cell with its connector, too. -/
theorem CheckpointCell.connector_write (cell : CheckpointCell) (checkpoint : Option String)
    (b : Backend) : (cell.write checkpoint b).2.1.connector = cell.connector := by
  unfold write
  split <;> rfl

namespace Scheduler

variable {p : Scheduler} {c d : CoordinatorId} {k : Coordinator}

/-- A change of one coordinator is seen in its place only. -/
theorem getElem?_modifyCoordinator (p : Scheduler) (c d : CoordinatorId)
    (f : Coordinator → Coordinator) :
    (p.modifyCoordinator c f).coordinators[d]? =
      if c = d then p.coordinators[d]?.map f else p.coordinators[d]? := by
  simp only [modifyCoordinator, List.getElem?_modify]
  split
  · rfl
  · cases p.coordinators[d]? <;> rfl

theorem getElem?_modifyCoordinator_self (hk : p.coordinators[c]? = some k)
    (f : Coordinator → Coordinator) :
    (p.modifyCoordinator c f).coordinators[c]? = some (f k) := by
  rw [getElem?_modifyCoordinator, if_pos rfl, hk]
  rfl

/-- An interrupted coordinator is changed, and the batch it had in flight is cancelled. -/
theorem interrupt_eq (hk : p.coordinators[c]? = some k) (f : Coordinator → Coordinator) :
    p.interrupt c f = { p.modifyCoordinator c (.interrupted f) with
      pool := k.handle.elim p.pool (p.pool.cancel p.hook) } := by
  unfold interrupt
  rw [hk]
  dsimp only
  cases k.handle <;> rfl

/-- An interruption cancels at most one batch. -/
theorem curbs_interrupt (hk : p.coordinators[c]? = some k) (f : Coordinator → Coordinator) :
    p.pool.Curbs (p.interrupt c f).pool := by
  rw [interrupt_eq hk]
  cases k.handle with
  | none => exact .refl _
  | some t => exact Pool.curbs_cancel p.hook p.pool t

theorem getElem?_interrupt_self (hk : p.coordinators[c]? = some k)
    (f : Coordinator → Coordinator) :
    (p.interrupt c f).coordinators[c]? = some (k.interrupted f) := by
  rw [interrupt_eq hk]
  exact getElem?_modifyCoordinator_self hk _

/-- An interruption registers nothing. -/
@[simp] theorem registry_interrupt (p : Scheduler) (c : CoordinatorId)
    (f : Coordinator → Coordinator) : (p.interrupt c f).registry = p.registry := by
  unfold interrupt
  split
  · rfl
  · dsimp only
    split <;> rfl

/-- A coordinator that is configured stays where it is registered. -/
@[simp] theorem registry_setConfiguration (p : Scheduler) (c : CoordinatorId)
    (config : ConnectorConfig) : (p.setConfiguration c config).2.registry = p.registry := by
  unfold setConfiguration
  split
  · rfl
  · split
    · rfl
    · exact registry_interrupt ..

/-- A process starts with a pool that has just started, and nothing else. -/
theorem start_eq_ok {settings : SchedulerSettings} {pool : PoolSettings} {kinds : KindRegistry}
    (h : start settings pool kinds = .ok p) :
    Pool.start pool = .ok p.pool ∧
      p = { settings, kinds,
            pool := { settings := pool, workers := List.range pool.workers, spawned := pool.workers }
            throttle := .make settings.loadPeriod settings.maxBatchSize } := by
  unfold start at h
  split at h
  · cases h
  · next pool' hpool =>
    cases h
    exact ⟨hpool, by rw [← Pool.start_eq_ok hpool]⟩

/-- A live coordinator is one that was not removed. -/
theorem live_eq_ok : p.live c = .ok k ↔ p.coordinators[c]? = some k ∧ k.removed = false := by
  unfold live
  cases p.coordinators[c]? with
  | none => simp
  | some k' =>
    dsimp only
    split
    · next hr =>
      simp only [reduceCtorEq, Option.some.injEq, false_iff, not_and]
      rintro rfl
      simp [hr]
    · next hr =>
      simp only [Except.ok.injEq, Option.some.injEq]
      exact ⟨fun h => ⟨h, h ▸ eq_false_of_ne_true hr⟩, fun h => h.1⟩

/-- A coordinator is reaped if its batch in flight is done. -/
theorem reap_cases (hk : p.coordinators[c]? = some k) (now : Instant) :
    (p.reap c now = p ∧ ∀ t, k.handle = some t → ¬ p.pool.isDone t) ∨
      ∃ t, k.handle = some t ∧ p.pool.isDone t ∧
        p.reap c now = (p.modifyCoordinator c .givenUp).backOff k.name now := by
  unfold reap
  rw [hk]
  dsimp only
  split
  · next hh => exact .inl ⟨rfl, fun t ht => by rw [hh] at ht; cases ht⟩
  · next t hh =>
    split
    · next hd => exact .inr ⟨t, hh, hd, rfl⟩
    · next hd =>
      refine .inl ⟨rfl, fun u hu => ?_⟩
      rw [hh] at hu
      cases hu
      exact hd

/-- Every registered name is that of a live coordinator. -/
def Registered (p : Scheduler) : Prop :=
  ∀ name c, p.coordinator? name = some c →
    ∃ k, p.coordinators[c]? = some k ∧ k.name = name ∧ k.removed = false

/-- A process with a new coordinator, which starts out with a configuration. -/
def enlist (p : Scheduler) (name : String) (config : ConnectorConfig) : Scheduler :=
  { p with
    coordinators := p.coordinators ++
      [{ cell := { connector := name }, config := some config, generation := 1 }]
    registry := p.registry.insert name p.coordinators.length }

/-- A coordinator that was there stays in its place when a new one is made. -/
theorem getElem?_enlist {name : String} {config : ConnectorConfig}
    (hk : p.coordinators[c]? = some k) : (p.enlist name config).coordinators[c]? = some k := by
  simp only [enlist]
  rw [List.getElem?_append_left (List.getElem?_eq_some_iff.1 hk).1]
  exact hk

/-- A coordinator was there before or is the new one. -/
theorem enlist_cases {name : String} {config : ConnectorConfig}
    (hk : (p.enlist name config).coordinators[c]? = some k) :
    p.coordinators[c]? = some k ∨ c = p.coordinators.length ∧
      k = { cell := { connector := name }, config := some config, generation := 1 } :=
  getElem?_concat_cases hk

/-- A connector that has a coordinator keeps it. -/
theorem coordinatorFor_registered {name : String} (h : p.coordinator? name = some c) :
    p.coordinatorFor name = (c, p) := by
  simp only [coordinatorFor, h]

/-- The first configuration of an unknown connector makes a coordinator for it. -/
theorem coordinatorFor_new {name : String} (h : p.coordinator? name = none)
    (config : ConnectorConfig) :
    ∃ c q, p.coordinatorFor name = (c, q) ∧
      q.setConfiguration c config = (.ok true, p.enlist name config) ∧
      (q.coordinators[c]?.bind (·.config)) = none ∧
      (p.enlist name config).coordinator? name = some c := by
  refine ⟨p.coordinators.length, { p with
      coordinators := p.coordinators ++ [{ cell := { connector := name } }]
      registry := p.registry.insert name p.coordinators.length }, ?_, ?_⟩
  · simp only [coordinatorFor, h, addCoordinator]
  have hnew : (p.coordinators ++ [({ cell := { connector := name } } : Coordinator)])[
      p.coordinators.length]? = some { cell := { connector := name } } := by simp
  refine ⟨?_, by simp only [hnew]; rfl, NameMap.find?_insert_self ..⟩
  simp only [setConfiguration]
  rw [live_eq_ok.2 ⟨hnew, rfl⟩]
  simp only [reduceCtorEq, if_false]
  rw [interrupt_eq hnew]
  simp only [modifyCoordinator, enlist, Option.elim]
  congr 2
  refine List.ext_getElem? fun i => ?_
  rw [List.getElem?_modify]
  rcases Nat.lt_trichotomy i p.coordinators.length with hlt | rfl | hgt
  · rw [List.getElem?_append_left hlt, List.getElem?_append_left hlt]
    simp only [if_neg (Nat.ne_of_gt hlt)]
    cases p.coordinators[i]? <;> rfl
  · simp [Coordinator.interrupted]
  · rw [List.getElem?_eq_none (by simpa using Nat.succ_le_of_lt hgt),
      List.getElem?_eq_none (by simpa using Nat.succ_le_of_lt hgt)]
    rfl

/-- Coordinators that keep their names and are not removed stay registered. -/
theorem Registered.congr {q : Scheduler} (h : p.Registered) (hr : q.registry = p.registry)
    (hc : ∀ (c : CoordinatorId) (k : Coordinator), p.coordinators[c]? = some k →
      ∃ k', q.coordinators[c]? = some k' ∧ k'.name = k.name ∧ k'.removed = k.removed) :
    q.Registered := by
  intro name c hn
  rw [coordinator?, hr] at hn
  obtain ⟨k, hk, hkn, hkr⟩ := h name c hn
  obtain ⟨k', hk', hn', hr'⟩ := hc c k hk
  exact ⟨k', hk', hn'.trans hkn, hr'.trans hkr⟩

/-- A change of a coordinator that leaves its name and does not remove it keeps the registry. -/
theorem Registered.modifyCoordinator (h : p.Registered) (c : CoordinatorId)
    {f : Coordinator → Coordinator} (hf : ∀ k, p.coordinators[c]? = some k →
      (f k).name = k.name ∧ (f k).removed = k.removed) :
    (p.modifyCoordinator c f).Registered := by
  refine h.congr rfl fun d k hk => ?_
  rw [getElem?_modifyCoordinator, hk]
  split
  · next e => exact ⟨_, rfl, hf k (e ▸ hk)⟩
  · exact ⟨k, rfl, rfl, rfl⟩

/-- An interrupted coordinator stays registered. -/
theorem Registered.interrupt (h : p.Registered) (hk : p.coordinators[c]? = some k)
    {f : Coordinator → Coordinator} (hf : ∀ k, (f k).name = k.name ∧ (f k).removed = k.removed) :
    (p.interrupt c f).Registered := by
  rw [interrupt_eq hk]
  exact h.modifyCoordinator c fun k _ => hf k

/-- A new coordinator is registered under its name, in the place of none. -/
theorem Registered.enlist (h : p.Registered) (name : String) (config : ConnectorConfig) :
    (p.enlist name config).Registered := by
  intro n d hn
  simp only [coordinator?, Scheduler.enlist, NameMap.find?_insert] at hn
  simp only [Scheduler.enlist]
  split at hn
  · next e =>
    cases hn
    exact ⟨{ cell := { connector := name }, config := some config, generation := 1 }, by simp,
      e.symm, rfl⟩
  · obtain ⟨k, hk, hkn⟩ := h n d hn
    exact ⟨k, getElem?_enlist hk, hkn⟩

/-- A detached coordinator is out of the registry, removed, and nothing is kept for it. -/
theorem detach_eq (hk : p.coordinators[c]? = some k) (hlive : k.removed = false) :
    p.detach k.name c =
      let q := p.interrupt c fun k =>
        { k with removed := true, config := none, schedule := none, traverser := none }
      { q with registry := p.registry.erase k.name, throttle := p.throttle.remove k.name } := by
  have hk' : ({ p with registry := p.registry.erase k.name } : Scheduler).coordinators[c]? =
    some k := hk
  simp only [detach, remove]
  rw [hk']
  simp only [hlive, Bool.false_eq_true, if_false]
  rw [interrupt_eq hk', interrupt_eq hk]
  rfl

/-- A coordinator that is detached goes out of the registry before it is removed. -/
theorem Registered.detach (h : p.Registered) (hk : p.coordinators[c]? = some k)
    (hlive : k.removed = false) : (p.detach k.name c).Registered := by
  intro name d hn
  rw [detach_eq hk hlive] at hn ⊢
  simp only [coordinator?, NameMap.find?_erase] at hn
  split at hn
  · cases hn
  · next hne =>
    obtain ⟨l, hl, hln, hlr⟩ := h name d hn
    refine ⟨l, ?_, hln, hlr⟩
    have hcd : c ≠ d := by
      rintro rfl
      rw [hk] at hl
      cases hl
      exact hne hln.symm
    simp only [interrupt_eq hk]
    rw [getElem?_modifyCoordinator, if_neg hcd]
    exact hl

/-- A coordinator without a traverser gets one that is made from its configuration, if that can be
done. -/
theorem traverserFor_cases (p : Scheduler) (c : CoordinatorId) (hnone : k.traverser = none) :
    (∃ e, p.traverserFor c k = (.error e, p)) ∨
    ∃ config adapter, k.config = some config ∧ p.kinds.instantiate k.name config = .ok adapter ∧
      p.traverserFor c k = (.ok p.traversers.length,
        { p.modifyCoordinator c fun l => { l with traverser := some p.traversers.length } with
          traversers := p.traversers ++ [{ connector := k.name, config, adapter }]
          journal := p.journal ++ [.instantiated p.traversers.length k.name config] }) := by
  unfold traverserFor
  rw [hnone]
  cases hc : k.config with
  | none => exact .inl ⟨_, rfl⟩
  | some config =>
    cases ha : p.kinds.instantiate k.name config with
    | error e => exact .inl ⟨e, by simp only [ha]⟩
    | ok adapter => exact .inr ⟨config, adapter, rfl, ha, by simp only [ha]; rfl⟩

/-- A submission moves the generation on, and the batch becomes the one in flight unless the pool is
shut down. -/
theorem submit_cases (p : Scheduler) (c : CoordinatorId) (k : Coordinator) (r : TraverserId)
    (maxItems : Nat) (metered : Bool) :
    p.submit c k r maxItems metered = (.error .poolShutDown,
      p.modifyCoordinator c fun l => { l with generation := k.generation + 1 }) ∨
    ∃ t pool, p.pool.submit (k.nextBatch c r maxItems metered) = (some t, pool) ∧
      p.submit c k r maxItems metered = (.ok true,
        { p.modifyCoordinator c fun l =>
            { l with generation := k.generation + 1, handle := some t } with
          pool
          journal := p.journal ++ [.submitted t k.name] }) := by
  rcases hs : p.pool.submit (k.nextBatch c r maxItems metered) with ⟨_ | t, pool⟩ <;>
    rw [Coordinator.nextBatch] at hs
  · left
    obtain ⟨rfl, -⟩ := Pool.submit_eq_none hs
    simp only [submit, modifyCoordinator, hs]
  · right
    refine ⟨t, pool, rfl, ?_⟩
    simp only [submit, modifyCoordinator, hs, List.modify_modify_eq, note]
    rfl

/-- Whether `q` is set up as `p` is and has the same registry, inventory and metrics. What it may differ in is
what coordinators do for their batches: make traversers, submit and have the throttle armed. -/
structure Keeps (p q : Scheduler) : Prop where
  settings : q.settings = p.settings
  kinds : q.kinds = p.kinds
  registry : q.registry = p.registry
  inventory : q.inventory = p.inventory
  metrics : q.metrics = p.metrics

/-- Making a traverser concerns its coordinator and the journal. -/
theorem keeps_traverserFor (p : Scheduler) (c : CoordinatorId) (hnone : k.traverser = none) :
    p.Keeps (p.traverserFor c k).2 := by
  rcases p.traverserFor_cases c hnone with ⟨e, he⟩ | ⟨_, _, -, -, he⟩ <;> rw [he] <;>
    exact ⟨rfl, rfl, rfl, rfl, rfl⟩

/-- A submission concerns its coordinator, the pool and the journal. -/
theorem keeps_submit (p : Scheduler) (c : CoordinatorId) (k : Coordinator) (r : TraverserId) (maxItems : Nat)
    (metered : Bool) : p.Keeps (p.submit c k r maxItems metered).2 := by
  rcases p.submit_cases c k r maxItems metered with he | ⟨t, pool, -, he⟩ <;> rw [he] <;>
    exact ⟨rfl, rfl, rfl, rfl, rfl⟩

end Scheduler

/-! ## Chores -/

/-- The ways in which a call changes a live coordinator. -/
inductive Amendment where
  | configure (config : ConnectorConfig)
  | reschedule (schedule : Schedule)
  /-- The traverser is given up, and with it what it remembers of the traversal. -/
  | dropTraverser

namespace Amendment

/-- The coordinator with the amendment made. -/
def apply : Amendment → Coordinator → Coordinator
  | configure config, k => { k with config := some config, traverser := none }
  | reschedule schedule, k => { k with schedule := some schedule }
  | dropTraverser, k => { k with traverser := none }

/-- Whether the new value is the one that is stored for a name. -/
def BackedBy (store : Store) (name : String) : Amendment → Prop
  | configure config => store.configuration? name = some config
  | reschedule schedule => store.schedule? name = some schedule
  | dropTraverser => True

/-- No amendment renames a coordinator or removes it. -/
theorem apply_name_removed (a : Amendment) (k : Coordinator) :
    (a.apply k).name = k.name ∧ (a.apply k).removed = k.removed := by
  cases a <;> exact ⟨rfl, rfl⟩

end Amendment

namespace Site

/-- A small change of a process outside its batches in which neither a call nor a detection has a part. It
leaves the store, the registry and what the process takes the connectors' stored values to be. -/
inductive Upkeep (s : Site) : Site → Prop
  /-- A batch in flight has ended without reporting back. It is given up, and the connector backs off. -/
  | giveUp {c : CoordinatorId} {k : Coordinator} {t : TaskId}
      (hk : s.scheduler.coordinators[c]? = some k) (ht : k.handle = some t)
      (hdone : s.scheduler.pool.isDone t) :
      Upkeep s (s.withScheduler ((s.scheduler.modifyCoordinator c .givenUp).backOff k.name s.now))
  /-- No traverser can be made for a live coordinator, and the connector backs off. -/
  | backOff {c : CoordinatorId} {k : Coordinator} (hk : s.scheduler.coordinators[c]? = some k)
      (hlive : k.removed = false) (hon : s.scheduler.throttle.delays k.name s.now = false)
      (hfail : ∃ e, (s.scheduler.traverserFor c k).1 = .error e) :
      Upkeep s (s.withScheduler (s.scheduler.backOff k.name s.now))
  /-- The throttle is asked how large a batch of a live coordinator may be. -/
  | hint {c : CoordinatorId} {k : Coordinator} (load : Nat)
      (hk : s.scheduler.coordinators[c]? = some k) (hlive : k.removed = false) :
      Upkeep s (s.withScheduler
        (s.scheduler.withThrottle (s.scheduler.throttle.hint k.name load s.now).2))
  /-- A live coordinator without a traverser gets a new one. -/
  | equip {c : CoordinatorId} {k : Coordinator} (hk : s.scheduler.coordinators[c]? = some k)
      (hlive : k.removed = false) (hnone : k.traverser = none) :
      Upkeep s (s.withScheduler (s.scheduler.traverserFor c k).2)
  /-- A live coordinator with no batch in flight, whose connector is not backing off, submits a batch for
  its traverser. -/
  | submit {c : CoordinatorId} {k : Coordinator} {r : TraverserId} (maxItems : Nat) (metered : Bool)
      (hk : s.scheduler.coordinators[c]? = some k) (hlive : k.removed = false)
      (hidle : k.handle = none) (htr : k.traverser = some r)
      (hon : s.scheduler.throttle.delays k.name s.now = false) :
      Upkeep s (s.withScheduler (s.scheduler.submit c k r maxItems metered).2)
  | measure (metrics : Metrics) : Upkeep s (s.withScheduler { s.scheduler with metrics })
  /-- Something happens to the pool by which no task begins, and what it cancels it cancels
  deliberately. -/
  | curb {pool : Pool Batch} (h : s.scheduler.pool.Curbs pool)
      (hcare : s.scheduler.pool.Careful s.scheduler.hook pool) :
      Upkeep s (s.withScheduler { s.scheduler with pool })

/-- A small change of a process in which a call or a detection has a part. -/
inductive Edit (s : Site) : Site → Prop
  /-- A registered coordinator is amended, and its batch in flight interrupted. -/
  | amend {c : CoordinatorId} {k : Coordinator} (a : Amendment)
      (hreg : s.scheduler.coordinator? k.name = some c) (hk : s.scheduler.coordinators[c]? = some k)
      (hlive : k.removed = false) (hback : a.BackedBy s.backend.store k.name) :
      Edit s (s.withScheduler (s.scheduler.interrupt c a.apply))
  /-- A connector that was unknown gets its coordinator. -/
  | enlist {name : String} {config : ConnectorConfig}
      (hnew : s.scheduler.coordinator? name = none)
      (hback : s.backend.store.configuration? name = some config) :
      Edit s (s.withScheduler (s.scheduler.enlist name config))
  /-- A connector is removed from the process. -/
  | detach {c : CoordinatorId} {k : Coordinator} (hreg : s.scheduler.coordinator? k.name = some c)
      (hk : s.scheduler.coordinators[c]? = some k) (hlive : k.removed = false) :
      Edit s (s.withScheduler (s.scheduler.detach k.name c))
  /-- The store is asked for something. -/
  | look (m : StoreMethod) : Edit s { s with backend := s.backend.used m }
  | storeConfiguration (name : String) (config : ConnectorConfig) :
      Edit s { s with backend := (s.backend.storeConfiguration name config).2 }
  | storeSchedule (name : String) (schedule : Schedule) :
      Edit s { s with backend := (s.backend.storeSchedule name schedule).2 }
  | removeTask (name : String) : Edit s { s with backend := (s.backend.removeTask name).2 }
  /-- The stored checkpoint of a connector is cleared. -/
  | clearCheckpoint {c : CoordinatorId} {k : Coordinator}
      (hk : s.scheduler.coordinators[c]? = some k) :
      Edit s { s with
        scheduler := s.scheduler.modifyCoordinator c fun l =>
          { l with cell := (k.cell.write none s.backend).2.1 }
        backend := (k.cell.write none s.backend).2.2 }

/-- A small change of a process outside its batches. -/
inductive Chore (s s' : Site) : Prop
  | edit (h : Edit s s')
  | upkeep (h : Upkeep s s')

/-- Some upkeep done. -/
abbrev Upkeeps : Site → Site → Prop := Relation.ReflTransGen Upkeep

/-- Upkeep that leaves the metrics. A visit to a coordinator is made of it, whoever makes it. -/
structure Visit (s s' : Site) : Prop where
  upkeep : Upkeep s s'
  metrics : s'.scheduler.metrics = s.scheduler.metrics

/-- Some visits one after the other. -/
abbrev Visits : Site → Site → Prop := Relation.ReflTransGen Visit

/-- Some edits one after the other. -/
abbrev Edits : Site → Site → Prop := Relation.ReflTransGen Edit

/-- Some chores one after the other. -/
abbrev Chores : Site → Site → Prop := Relation.ReflTransGen Chore

variable {s s' : Site}

theorem Upkeeps.chores (h : Upkeeps s s') : Chores s s' :=
  Relation.ReflTransGen.mono (fun _ _ => Chore.upkeep) _ _ h

theorem Visits.upkeeps (h : Visits s s') : Upkeeps s s' :=
  Relation.ReflTransGen.mono (fun _ _ => Visit.upkeep) _ _ h

/-- However many coordinators are visited, the metrics are left to whoever takes them. -/
theorem Visits.metrics (h : Visits s s') : s'.scheduler.metrics = s.scheduler.metrics := by
  induction h with
  | refl => rfl
  | tail _ h ih => exact h.metrics.trans ih

theorem Edits.chores (h : Edits s s') : Chores s s' :=
  Relation.ReflTransGen.mono (fun _ _ => Chore.edit) _ _ h

/-- Upkeep does not call the store. -/
theorem Upkeep.backend (h : Upkeep s s') : s'.backend = s.backend := by
  cases h <;> rfl

/-- Upkeep leaves how the process is set up, the registry and the inventory. -/
theorem Upkeep.frame (h : Upkeep s s') : s'.scheduler.settings = s.scheduler.settings ∧
    s'.scheduler.kinds = s.scheduler.kinds ∧ s'.scheduler.registry = s.scheduler.registry ∧
    s'.scheduler.inventory = s.scheduler.inventory := by
  cases h with
  | giveUp | backOff | hint | measure | curb => exact ⟨rfl, rfl, rfl, rfl⟩
  | @equip c _ _ _ hnone =>
    have hkept := s.scheduler.keeps_traverserFor c hnone
    exact ⟨hkept.settings, hkept.kinds, hkept.registry, hkept.inventory⟩
  | @submit c k r maxItems metered =>
    have hkept := s.scheduler.keeps_submit c k r maxItems metered
    exact ⟨hkept.settings, hkept.kinds, hkept.registry, hkept.inventory⟩

theorem Upkeep.registry (h : Upkeep s s') : s'.scheduler.registry = s.scheduler.registry := h.frame.2.2.1

theorem Upkeep.inventory (h : Upkeep s s') : s'.scheduler.inventory = s.scheduler.inventory := h.frame.2.2.2

theorem Upkeeps.registry (h : Upkeeps s s') : s'.scheduler.registry = s.scheduler.registry := by
  induction h with
  | refl => rfl
  | tail _ h ih => exact h.registry.trans ih

/-- Upkeep leaves of every coordinator all but what it keeps for its batches. -/
theorem Upkeep.bare (h : Upkeep s s') (c : CoordinatorId) :
    (s'.scheduler.coordinators[c]?).map (·.bare) = (s.scheduler.coordinators[c]?).map (·.bare) := by
  cases h with
  | backOff | hint | measure | curb => rfl
  | giveUp => exact map_modify_coordinator (by intro _ _; rfl) c
  | @equip d k _ _ hnone =>
    rcases Scheduler.traverserFor_cases s.scheduler d hnone with ⟨e, he⟩ | ⟨_, _, -, -, he⟩ <;> rw [he]
    · rfl
    · exact map_modify_coordinator (by intro _ _; rfl) c
  | @submit d k _ maxItems metered =>
    rcases s.scheduler.submit_cases d k _ maxItems metered with he | ⟨t, pool, -, he⟩ <;> rw [he]
    · exact map_modify_coordinator (by intro _ _; rfl) c
    · exact map_modify_coordinator (by intro _ _; rfl) c

/-- What upkeep leaves of a coordinator. -/
theorem Upkeep.coordinator (h : Upkeep s s') {c : CoordinatorId} {k : Coordinator}
    (hk : s.scheduler.coordinators[c]? = some k) :
    ∃ k', s'.scheduler.coordinators[c]? = some k' ∧ k'.bare = k.bare := by
  have hb := h.bare c
  rw [hk] at hb
  exact Option.map_eq_some_iff.1 hb

/-- Upkeep removes nobody and registers nobody. -/
theorem Upkeep.registered (h : Upkeep s s') (hr : s.scheduler.Registered) :
    s'.scheduler.Registered := by
  refine hr.congr h.registry fun c k hk => ?_
  obtain ⟨k', hk', hb⟩ := h.coordinator hk
  have hname : k'.bare.name = k.bare.name := congrArg Coordinator.name hb
  have hremoved : k'.bare.removed = k.bare.removed := congrArg Coordinator.removed hb
  exact ⟨k', hk', hname, hremoved⟩

/-- A chore keeps the registry. -/
theorem Chore.registered (h : Chore s s') (hr : s.scheduler.Registered) :
    s'.scheduler.Registered := by
  cases h with
  | upkeep h => exact h.registered hr
  | edit h =>
    cases h with
    | amend a _ hk => exact hr.interrupt hk a.apply_name_removed
    | enlist => exact hr.enlist _ _
    | detach _ hk hlive => exact hr.detach hk hlive
    | look | storeConfiguration | storeSchedule | removeTask => exact hr
    | clearCheckpoint hk =>
      refine hr.modifyCoordinator _ fun l hl => ?_
      rw [hk] at hl
      cases hl
      exact ⟨CheckpointCell.connector_write _ _ _, rfl⟩

/-- Upkeep at most curbs the pool, or it submits one batch. -/
theorem Upkeep.pool (h : Upkeep s s') : s.scheduler.pool.Curbs s'.scheduler.pool ∨
    ∃ b t, s.scheduler.pool.submit b = (some t, s'.scheduler.pool) ∧ b.stage = .entering := by
  cases h with
  | giveUp | backOff | hint | measure => exact .inl (.refl _)
  | @equip c k _ _ hnone =>
    rcases Scheduler.traverserFor_cases s.scheduler c hnone with ⟨e, he⟩ | ⟨_, _, -, -, he⟩ <;> rw [he]
    · exact .inl (.refl _)
    · exact .inl (.refl _)
  | @submit c k r maxItems metered =>
    rcases s.scheduler.submit_cases c k r maxItems metered with he | ⟨t, pool, hs, he⟩ <;> rw [he]
    · exact .inl (.refl _)
    · exact .inr ⟨_, t, hs, rfl⟩
  | curb hp => exact .inl hp

/-- A chore at most curbs the pool, or it submits one batch. -/
theorem Chore.pool (h : Chore s s') : s.scheduler.pool.Curbs s'.scheduler.pool ∨
    ∃ b t, s.scheduler.pool.submit b = (some t, s'.scheduler.pool) ∧ b.stage = .entering := by
  cases h with
  | upkeep h => exact h.pool
  | edit h =>
    cases h with
    | amend a _ hk => exact .inl (Scheduler.curbs_interrupt hk a.apply)
    | @detach c k _ hk hlive =>
      refine .inl ?_
      show s.scheduler.pool.Curbs (s.scheduler.detach k.name c).pool
      rw [Scheduler.detach_eq hk hlive]
      exact Scheduler.curbs_interrupt hk _
    | enlist | look | storeConfiguration | storeSchedule | removeTask | clearCheckpoint =>
      exact .inl (.refl _)

/-- Upkeep enters nothing into the journal but a traverser that was made or a batch that was
submitted. -/
theorem Upkeep.journal (h : Upkeep s s') : ∃ l, s'.scheduler.journal = s.scheduler.journal ++ l ∧
    ∀ o ∈ l, (∃ r name config, o = .instantiated r name config) ∨ ∃ t name, o = .submitted t name := by
  have hsame : ∃ new, s.scheduler.journal = s.scheduler.journal ++ new ∧ ∀ o ∈ new,
      (∃ r name config, o = .instantiated r name config) ∨ ∃ t name, o = .submitted t name :=
    ⟨[], (List.append_nil _).symm, fun _ ho => nomatch ho⟩
  cases h with
  | giveUp | backOff | hint | measure | curb => exact hsame
  | @equip c k _ _ hnone =>
    rcases Scheduler.traverserFor_cases s.scheduler c hnone with ⟨e, he⟩ | ⟨_, _, -, -, he⟩ <;> rw [he]
    · exact hsame
    · exact ⟨_, rfl, fun o ho => .inl ⟨_, _, _, List.mem_singleton.1 ho⟩⟩
  | @submit c k r maxItems metered =>
    rcases s.scheduler.submit_cases c k r maxItems metered with he | ⟨t, pool, hs, he⟩ <;> rw [he]
    · exact hsame
    · exact ⟨_, rfl, fun o ho => .inr ⟨_, _, List.mem_singleton.1 ho⟩⟩

/-- A chore enters nothing into the journal but a traverser that was made or a batch that was
submitted. -/
theorem Chore.journal (h : Chore s s') : ∃ l, s'.scheduler.journal = s.scheduler.journal ++ l ∧
    ∀ o ∈ l, (∃ r name config, o = .instantiated r name config) ∨ ∃ t name, o = .submitted t name := by
  have hsame {l : List Occurrence} (hl : l = s.scheduler.journal) : ∃ new,
      l = s.scheduler.journal ++ new ∧ ∀ o ∈ new,
        (∃ r name config, o = .instantiated r name config) ∨ ∃ t name, o = .submitted t name :=
    ⟨[], by rw [hl, List.append_nil], fun _ ho => nomatch ho⟩
  cases h with
  | upkeep h => exact h.journal
  | edit h =>
    cases h with
    | @amend c k a _ hk =>
      refine hsame ?_
      show (s.scheduler.interrupt c a.apply).journal = _
      rw [Scheduler.interrupt_eq hk]
      rfl
    | @detach c k _ hk hlive =>
      refine hsame ?_
      show (s.scheduler.detach k.name c).journal = _
      rw [Scheduler.detach_eq hk hlive, Scheduler.interrupt_eq hk]
      rfl
    | enlist | look | storeConfiguration | storeSchedule | removeTask | clearCheckpoint =>
      exact hsame rfl

/-- However much is done besides the batches, what is registered is live. -/
theorem Chores.registered (h : Chores s s') (hr : s.scheduler.Registered) :
    s'.scheduler.Registered := by
  induction h with
  | refl => exact hr
  | tail _ h ih => exact h.registered ih

theorem Edits.registered (h : Edits s s') (hr : s.scheduler.Registered) : s'.scheduler.Registered :=
  Chores.registered h.chores hr

end Site

end BatchTraversal
