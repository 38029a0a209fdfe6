import BatchTraversal.Proofs.Process.Reuse
import BatchTraversal.Proofs.Throttle.Backoff

/-!
# What there is of a connector

What there is of one coordinator in a process (`Scheduler.portrait`) is the coordinator itself, the
throttle's entry of its connector, its traverser and its batch in flight, without the places these have. An
operation that leaves a coordinator (`Scheduler.Leaves`) changes none of it, and what is done for another
coordinator leaves it. Where a coordinator was left, the same operation does the same to it as before.
-/

namespace BatchTraversal

namespace Throttle

variable {t t' : Throttle} {name other : String} {load : Nat} {now : Instant}

/-- The answer about a connector that backs off is read from its entry. -/
theorem delays_congr (h : t'.entries.find? name = t.entries.find? name) :
    t'.delays name now = t.delays name now := by
  rw [delays, delays, h]

/-- A hint is worked out from the entry of the connector, the period and the largest batch. -/
theorem hint_congr (h : t'.entries.find? name = t.entries.find? name) (hp : t'.period = t.period)
    (hm : t'.maxBatch = t.maxBatch) (load : Nat) (now : Instant) :
    (t'.hint name load now).1 = (t.hint name load now).1 ∧
      (t'.hint name load now).2.entries.find? name = (t.hint name load now).2.entries.find? name := by
  simp only [hint, entryAt, h, hp]
  split <;> simp [withEntry, budget, hp, hm]

/-- Whether a backoff begins or ends depends on the connector's own entry alone. -/
theorem finish_congr (h : t'.entries.find? name = t.entries.find? name) (delay : Option Duration)
    (now : Instant) : (t'.finish name delay now).2.entries.find? name =
      (t.finish name delay now).2.entries.find? name := by
  simp [finish_eq, withEntry, entryAt, h]

end Throttle

/-- What a process decides by that no pass changes. -/
structure ProcessTerms where
  settings : SchedulerSettings
  kinds : KindRegistry
  period : Duration
  maxBatch : Nat
  poolSettings : PoolSettings
  poolTime : Nat
  down : Bool

/-- What there is of a coordinator, without the places of its traverser and its batch. -/
structure Portrait where
  coordinator : Coordinator
  entry : Option LoadEntry
  traverser : Option (Option Traverser)
  batch : Option (Option (Task Batch × Option Traverser))

namespace Scheduler

/-- The terms of a process, read off it. -/
def terms (p : Scheduler) : ProcessTerms :=
  { settings := p.settings, kinds := p.kinds, period := p.throttle.period, maxBatch := p.throttle.maxBatch,
    poolSettings := p.pool.settings, poolTime := p.pool.now, down := p.pool.down }

/-- What there is of a batch, without the place of its traverser. -/
def work (p : Scheduler) (t : TaskId) : Option (Task Batch × Option Traverser) :=
  (p.pool.tasks[t]?).map fun task =>
    ({ task with payload := { task.payload with traverser := 0 } },
      p.traversers[task.payload.traverser]?)

/-- What there is of a coordinator, without the places of its traverser and its batch. -/
def portrait (p : Scheduler) (c : CoordinatorId) : Option Portrait :=
  (p.coordinators[c]?).map fun k =>
    { coordinator := { k with traverser := none, handle := none }
      entry := p.throttle.entries.find? k.name
      traverser := k.traverser.map (p.traversers[·]?)
      batch := k.handle.map p.work }

/-- Whether nothing of a coordinator has changed, and neither have the terms of the process nor the
traversers and the batches there were. -/
structure Leaves (p : Scheduler) (c : CoordinatorId) (q : Scheduler) : Prop where
  terms : q.terms = p.terms
  coordinator : q.coordinators[c]? = p.coordinators[c]?
  entry : ∀ k, p.coordinators[c]? = some k →
    q.throttle.entries.find? k.name = p.throttle.entries.find? k.name
  traversers : p.traversers <+: q.traversers
  tasks : p.pool.tasks <+: q.pool.tasks

/-- Whether the batches and the traversers that are referred to were made. -/
structure Placed (p : Scheduler) : Prop where
  handle : ∀ (c : CoordinatorId) (k : Coordinator) (t : TaskId), p.coordinators[c]? = some k →
    k.handle = some t → t < p.pool.tasks.length
  traverser : ∀ (c : CoordinatorId) (k : Coordinator) (r : TraverserId), p.coordinators[c]? = some k →
    k.traverser = some r → r < p.traversers.length
  batch : ∀ (t : TaskId) (task : Task Batch), p.pool.tasks[t]? = some task →
    task.payload.traverser < p.traversers.length

/-- Whether a coordinator has another name than a second one. -/
def Apart (p : Scheduler) (c d : CoordinatorId) : Prop :=
  c ≠ d ∧ ∀ k l, p.coordinators[c]? = some k → p.coordinators[d]? = some l → k.name ≠ l.name

variable {p q r : Scheduler} {c d : CoordinatorId} {k l : Coordinator} {now : Instant}

/-- What coordinators refer to was made, as it is what they run on. -/
theorem placed_of_sourced (hf : p.Flight) (hp : p.Sourced) : p.Placed := by
  refine ⟨fun c k t hk ht => lt_of_order? (hf.handled c k t hk ht),
    fun c k r hk hr => hp.traverser_lt hk hr, fun t task ht => ?_⟩
  have hpost : p.post? t = some (task.payload.coordinator, task.payload.traverser) := by
    rw [post?, batch?, Pool.payload?, ht]
    rfl
  exact hp.post_lt hpost

theorem Leaves.refl (p : Scheduler) (c : CoordinatorId) : p.Leaves c p :=
  ⟨rfl, rfl, fun _ _ => rfl, List.prefix_rfl, List.prefix_rfl⟩

/-- A coordinator that two operations leave is left by both. -/
theorem Leaves.trans (h : p.Leaves c q) (h' : q.Leaves c r) : p.Leaves c r :=
  ⟨h'.terms.trans h.terms, h'.coordinator.trans h.coordinator,
    fun k hk => (h'.entry k (h.coordinator.trans hk)).trans (h.entry k hk),
    h.traversers.trans h'.traversers, h.tasks.trans h'.tasks⟩

/-- The batches there were are what they were, wherever there are only new traversers and new batches. -/
theorem Placed.work (h : p.Placed) (htraversers : p.traversers <+: q.traversers)
    (htasks : p.pool.tasks <+: q.pool.tasks) {t : TaskId} (ht : t < p.pool.tasks.length) :
    q.work t = p.work t := by
  obtain ⟨traversers, htraversers⟩ := htraversers
  obtain ⟨tasks, htasks⟩ := htasks
  rw [Scheduler.work, Scheduler.work, ← htasks, List.getElem?_append_left ht]
  cases hb : p.pool.tasks[t]? with
  | none => rfl
  | some task =>
    simp only [Option.map_some, ← htraversers, List.getElem?_append_left (h.batch t task hb)]

/-! ## What is done for another coordinator -/

/-- A process leaves a coordinator if what it changes of the throttle is the entry of another connector. -/
theorem Apart.leaves (ha : p.Apart c d) (hl : p.coordinators[d]? = some l) (hterms : q.terms = p.terms)
    (hc : q.coordinators[c]? = p.coordinators[c]?) (ht : p.throttle.Alters l.name q.throttle)
    (htraversers : p.traversers <+: q.traversers) (htasks : p.pool.tasks <+: q.pool.tasks) :
    p.Leaves c q :=
  ⟨hterms, hc, fun k hk => ht k.name (ha.2 k l hk hl), htraversers, htasks⟩

/-- A change of one coordinator is none of another one. -/
theorem getElem?_modifyCoordinator_of_ne (hne : c ≠ d) (f : Coordinator → Coordinator) :
    (p.modifyCoordinator d f).coordinators[c]? = p.coordinators[c]? :=
  (getElem?_modifyCoordinator p d c f).trans (if_neg (Ne.symm hne))

/-- A coordinator keeps its name when it is reaped. -/
theorem reap_coordinator (hl : p.coordinators[d]? = some l) (now : Instant) :
    ∃ l', (p.reap d now).coordinators[d]? = some l' ∧ l'.name = l.name := by
  rcases reap_cases hl now with ⟨he, -⟩ | ⟨t, -, -, he⟩ <;> rw [he]
  · exact ⟨l, hl, rfl⟩
  · exact ⟨_, getElem?_modifyCoordinator_self hl _, rfl⟩

/-- Reaping is done on the same terms. -/
theorem terms_reap (p : Scheduler) (c : CoordinatorId) (now : Instant) :
    (p.reap c now).terms = p.terms := by
  cases hk : p.coordinators[c]? with
  | none => rw [reap, hk]
  | some k =>
    rcases reap_cases hk now with ⟨he, -⟩ | ⟨t, -, -, he⟩ <;> rw [he]
    rw [backOff, Throttle.finish_eq]
    rfl

/-- Reaping a coordinator leaves those of other names. -/
theorem Apart.leaves_reap (ha : p.Apart c d) (now : Instant) : p.Leaves c (p.reap d now) := by
  have hterms := p.terms_reap d now
  cases hl : p.coordinators[d]? with
  | none =>
    rw [reap, hl]
    exact .refl p c
  | some l =>
    rcases reap_cases hl now with ⟨he, -⟩ | ⟨t, -, -, he⟩ <;> rw [he] at hterms ⊢
    · exact .refl p c
    · exact ha.leaves hl hterms (getElem?_modifyCoordinator_of_ne ha.1 _)
        (Throttle.alters_finish _ _ _ _) List.prefix_rfl List.prefix_rfl

/-- A process in which a traverser was made for a coordinator. -/
def equip (p : Scheduler) (c : CoordinatorId) (k : Coordinator) (config : ConnectorConfig)
    (adapter : Adapter) : Scheduler :=
  { p.modifyCoordinator c fun l => { l with traverser := some p.traversers.length } with
    traversers := p.traversers ++ [{ connector := k.name, config, adapter }]
    journal := p.journal ++ [.instantiated p.traversers.length k.name config] }

/-- Where a traverser can be made, the coordinator is equipped with it. -/
theorem traverserFor_eq_equip {config : ConnectorConfig} {adapter : Adapter} (htr : k.traverser = none)
    (hconfig : k.config = some config) (hinst : p.kinds.instantiate k.name config = .ok adapter) :
    p.traverserFor c k = (.ok p.traversers.length, p.equip c k config adapter) := by
  simp only [traverserFor, htr, hconfig, hinst]
  rfl

/-- A submission in full: the pool takes the batch unless it is shut down. -/
theorem submit_eq (p : Scheduler) (c : CoordinatorId) (k : Coordinator) (r : TraverserId) (maxItems : Nat)
    (metered : Bool) : p.submit c k r maxItems metered =
      if p.pool.down then (.error .poolShutDown,
        p.modifyCoordinator c fun l => { l with generation := k.generation + 1 })
      else (.ok true,
        { p.modifyCoordinator c fun l =>
            { l with generation := k.generation + 1, handle := some p.pool.tasks.length } with
          pool := { p.pool with
            tasks := p.pool.tasks ++ [
              { payload := k.nextBatch c r maxItems metered
                deadline := p.pool.settings.lifetime.map (p.pool.now + ·.nanos) }]
            queue := p.pool.queue ++ [p.pool.tasks.length] }
          journal := p.journal ++ [.submitted p.pool.tasks.length k.name] }) := by
  cases hd : p.pool.down with
  | true =>
    have hs (b : Batch) : p.pool.submit b = (none, p.pool) := by simp [Pool.submit, hd]
    simp only [submit, modifyCoordinator, hs, if_true]
  | false =>
    have hs (b : Batch) : p.pool.submit b = (some p.pool.tasks.length, { p.pool with
        tasks := p.pool.tasks ++ [
          { payload := b, deadline := p.pool.settings.lifetime.map (p.pool.now + ·.nanos) }]
        queue := p.pool.queue ++ [p.pool.tasks.length] }) := by simp [Pool.submit, hd]
    simp only [submit, modifyCoordinator, hs, List.modify_modify_eq, note, Bool.false_eq_true, if_false]
    rfl

/-- A submission fails only if the pool is shut down. -/
theorem submit_fst (p : Scheduler) (c : CoordinatorId) (k : Coordinator) (r : TraverserId)
    (maxItems : Nat) (metered : Bool) : (p.submit c k r maxItems metered).1 =
      if p.pool.down then .error .poolShutDown else .ok true := by
  rw [submit_eq]
  split <;> rfl

section Left

variable (h : p.Leaves c q) (hk : p.coordinators[c]? = some k)
include h

/-- Who leaves a coordinator does not shut the pool down. -/
theorem Leaves.down : q.pool.down = p.pool.down := congrArg ProcessTerms.down h.terms

/-- The tasks there were are where they were. -/
theorem Leaves.getElem?_task {t : TaskId} (ht : t < p.pool.tasks.length) :
    q.pool.tasks[t]? = p.pool.tasks[t]? := by
  obtain ⟨new, hnew⟩ := h.tasks
  rw [← hnew, List.getElem?_append_left ht]

/-- The traversers there were are where they were. -/
theorem Leaves.getElem?_traverser {r : TraverserId} (hr : r < p.traversers.length) :
    q.traversers[r]? = p.traversers[r]? := by
  obtain ⟨new, hnew⟩ := h.traversers
  rw [← hnew, List.getElem?_append_left hr]

/-- A task there was is done if it was. -/
theorem Leaves.isDone {t : TaskId} (ht : t < p.pool.tasks.length) : q.pool.isDone t = p.pool.isDone t := by
  rw [Pool.isDone, Pool.isDone, h.getElem?_task ht]

/-- The coordinator refers to the same traverser as before. -/
theorem Leaves.map_traverser (hp : p.Placed) (hk : p.coordinators[c]? = some k) :
    k.traverser.map (q.traversers[·]?) = k.traverser.map (p.traversers[·]?) := by
  cases hr : k.traverser with
  | none => rfl
  | some r => exact congrArg some (h.getElem?_traverser (hp.traverser c k r hk hr))

/-- The coordinator refers to the same batch in flight as before. -/
theorem Leaves.map_work (hp : p.Placed) (hk : p.coordinators[c]? = some k) :
    k.handle.map q.work = k.handle.map p.work := by
  cases ht : k.handle with
  | none => rfl
  | some t => exact congrArg some (hp.work h.traversers h.tasks (hp.handle c k t hk ht))

/-- The portrait of a coordinator that was left is what it was. -/
theorem Leaves.portrait (hp : p.Placed) : q.portrait c = p.portrait c := by
  rw [Scheduler.portrait, Scheduler.portrait, h.coordinator]
  cases hk : p.coordinators[c]? with
  | none => rfl
  | some k =>
    simp only [Option.map_some, h.entry k hk, h.map_traverser hp hk, h.map_work hp hk]

include hk

/-- A connector whose coordinator is left goes on backing off, or not. -/
theorem Leaves.delays (now : Instant) : q.throttle.delays k.name now = p.throttle.delays k.name now :=
  Throttle.delays_congr (h.entry k hk)

/-- A backoff that is armed before or after an operation that leaves the coordinator is the same. -/
theorem Leaves.backOff (now : Instant) :
    (p.backOff k.name now).Leaves c (q.backOff k.name now) := by
  have hsettings : q.settings = p.settings := congrArg ProcessTerms.settings h.terms
  refine ⟨?_, h.coordinator, fun l hl => ?_, h.traversers, h.tasks⟩
  · simp only [Scheduler.backOff, Throttle.finish_eq]
    exact h.terms
  · cases hk.symm.trans hl
    rw [Scheduler.backOff, Scheduler.backOff, hsettings]
    exact Throttle.finish_congr (h.entry k hk) _ now

/-- A hint that is asked for before or after an operation that leaves the coordinator is the same. -/
theorem Leaves.hint (load : Nat) (now : Instant) :
    (q.throttle.hint k.name load now).1 = (p.throttle.hint k.name load now).1 ∧
      (p.withThrottle (p.throttle.hint k.name load now).2).Leaves c
        (q.withThrottle (q.throttle.hint k.name load now).2) := by
  obtain ⟨hfst, hentry⟩ := Throttle.hint_congr (h.entry k hk) (congrArg ProcessTerms.period h.terms)
    (congrArg ProcessTerms.maxBatch h.terms) load now
  refine ⟨hfst, ?_, h.coordinator, fun l hl => ?_, h.traversers, h.tasks⟩
  · obtain ⟨e, he, -⟩ := p.throttle.hint_snd k.name load now
    obtain ⟨e', he', -⟩ := q.throttle.hint_snd k.name load now
    rw [he, he']
    exact h.terms
  · cases hk.symm.trans hl
    exact hentry

/-- The same change before or after an operation that leaves the coordinator makes the same of it. -/
theorem Leaves.modify {f : Coordinator → Coordinator} (hf : (f k).name = k.name) :
    (p.modifyCoordinator c f).Leaves c (q.modifyCoordinator c f) := by
  have hget := getElem?_modifyCoordinator_self hk f
  refine ⟨h.terms, (getElem?_modifyCoordinator_self (h.coordinator.trans hk) f).trans hget.symm,
    fun l hl => ?_, h.traversers, h.tasks⟩
  cases hget.symm.trans hl
  rw [hf]
  exact h.entry k hk

omit hk in
/-- Reaping before or after an operation that leaves the coordinator makes the same of it. -/
theorem Leaves.reap (hp : p.Placed) (now : Instant) : (p.reap c now).Leaves c (q.reap c now) := by
  cases hk : p.coordinators[c]? with
  | none =>
    have hk' := h.coordinator.trans hk
    rw [Scheduler.reap, Scheduler.reap, hk, hk']
    exact h
  | some k =>
    have hk' := h.coordinator.trans hk
    have hdone {t : TaskId} (ht : k.handle = some t) : q.pool.isDone t = p.pool.isDone t :=
      h.isDone (hp.handle c k t hk ht)
    rcases reap_cases hk now with ⟨he, hn⟩ | ⟨t, ht, hd, he⟩ <;>
      rcases reap_cases hk' now with ⟨he', hn'⟩ | ⟨t', ht', hd', he'⟩ <;> rw [he, he']
    · exact h
    · exact absurd (hdone ht' ▸ hd') (hn t' ht')
    · exact absurd ((hdone ht).trans hd) (hn' t ht)
    · exact (h.modify hk (f := .givenUp) rfl).backOff (getElem?_modifyCoordinator_self hk _) now

/-! ## Submissions -/

omit h hk in
/-- The portrait of a coordinator after a batch was submitted for it. -/
theorem portrait_submit (hl : p.coordinators[c]? = some l) (k : Coordinator) (r : TraverserId)
    (maxItems : Nat) (metered : Bool) : (p.submit c k r maxItems metered).2.portrait c = some
      { coordinator := { l with generation := k.generation + 1, traverser := none, handle := none }
        entry := p.throttle.entries.find? l.name
        traverser := l.traverser.map (p.traversers[·]?)
        batch :=
          if p.pool.down then l.handle.map p.work
          else some (some (
            { payload := k.nextBatch c 0 maxItems metered
              deadline := p.pool.settings.lifetime.map (p.pool.now + ·.nanos) }, p.traversers[r]?)) } := by
  rw [submit_eq]
  split
  · next hd =>
    rw [Scheduler.portrait, getElem?_modifyCoordinator_self hl]
    rfl
  · next hd =>
    have hget := getElem?_modifyCoordinator_self hl fun l =>
      { l with generation := k.generation + 1, handle := some p.pool.tasks.length }
    refine (congrArg (Option.map _) hget).trans ?_
    simp [Scheduler.work, Coordinator.nextBatch, Coordinator.name, modifyCoordinator]

omit h hk in
/-- The portrait of a coordinator after a traverser was made for it and a batch was submitted. -/
theorem portrait_equip (hk : p.coordinators[c]? = some k) {config : ConnectorConfig} {adapter : Adapter}
    (maxItems : Nat) (metered : Bool) :
    ((p.equip c k config adapter).submit c k p.traversers.length maxItems metered).2.portrait c = some
      { coordinator := { k with generation := k.generation + 1, traverser := none, handle := none }
        entry := p.throttle.entries.find? k.name
        traverser := some (some { connector := k.name, config, adapter })
        batch :=
          if p.pool.down then k.handle.map (p.equip c k config adapter).work
          else some (some (
            { payload := k.nextBatch c 0 maxItems metered
              deadline := p.pool.settings.lifetime.map (p.pool.now + ·.nanos) },
            some { connector := k.name, config, adapter })) } := by
  have hget : (p.equip c k config adapter).coordinators[c]? = some _ :=
    getElem?_modifyCoordinator_self hk fun l => { l with traverser := some p.traversers.length }
  have hnew : (p.equip c k config adapter).traversers[p.traversers.length]? =
      some { connector := k.name, config, adapter } := List.getElem?_concat_length
  rw [portrait_submit hget, Option.map_some, hnew]
  rfl

end Left

end Scheduler

end BatchTraversal
