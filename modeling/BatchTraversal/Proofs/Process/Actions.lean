import BatchTraversal.Proofs.Process.Chores

/-!
# The actions of a process as chores

Every scheduling pass and look of a monitor is upkeep, every administrative call and detection a sequence
of edits, one lemma per operation. What a pass does before it takes the metrics consists of visits, upkeep that
leaves the metrics. A detection ends with the listing becoming the inventory. What starting a batch, a look of a
pass at a coordinator and a detection come to is said once, in `Scheduler.startBatch_cases`,
`Scheduler.scheduleOne_cases` and `Site.detect_cases`.
-/

namespace BatchTraversal

namespace Scheduler

/-- Looking at the phase of a coordinator changes nothing but that it is reaped. -/
theorem phase_snd (p : Scheduler) (c : CoordinatorId) (now : Instant) :
    (p.phase c now).2 = p.reap c now := by
  unfold phase
  dsimp only
  split
  · rfl
  · split
    · rfl
    · split <;> rfl

/-- Reaping leaves the pool. -/
theorem pool_reap (p : Scheduler) (c : CoordinatorId) (now : Instant) :
    (p.reap c now).pool = p.pool := by
  cases hk : p.coordinators[c]? with
  | none => rw [reap, hk]
  | some k =>
    rcases reap_cases hk now with ⟨he, -⟩ | ⟨t, -, -, he⟩ <;> rw [he]
    rfl

/-- Making a traverser leaves the pool. -/
theorem pool_traverserFor (p : Scheduler) (c : CoordinatorId) (k : Coordinator) :
    (p.traverserFor c k).2.pool = p.pool := by
  cases htr : k.traverser with
  | some r => rw [traverserFor, htr]
  | none =>
    rcases p.traverserFor_cases c htr with ⟨e, he⟩ | ⟨_, _, -, -, he⟩ <;> rw [he]
    rfl

/-- Reaping removes no coordinator. -/
theorem removed_of_reap {p : Scheduler} {c : CoordinatorId} {k l : Coordinator} {now : Instant}
    (hk : p.coordinators[c]? = some k)
    (hl : (p.reap c now).coordinators[c]? = some l) : l.removed = k.removed := by
  rcases reap_cases hk now with ⟨he, -⟩ | ⟨t, -, -, he⟩ <;> rw [he] at hl
  · cases hk.symm.trans hl
    rfl
  · have hself : ((p.modifyCoordinator c .givenUp).backOff k.name now).coordinators[c]? =
        some k.givenUp := getElem?_modifyCoordinator_self hk _
    cases hself.symm.trans hl
    rfl

/-- What starting a batch comes to: nothing at all for a removed coordinator, no more than reaping it where
something stands in the way, and otherwise an idle coordinator that looks for a traverser and submits a batch
for it, or backs off if none can be made. -/
theorem startBatch_cases (p : Scheduler) (c : CoordinatorId) (maxItems : Nat) (metered : Bool)
    (clock : Clock) :
    (∃ e, p.startBatch c maxItems metered clock = (.error e, p)) ∨
    p.startBatch c maxItems metered clock = (.ok false, p.reap c clock.now) ∨
    ∃ k, (p.reap c clock.now).coordinators[c]? = some k ∧ k.removed = false ∧ k.handle = none ∧
      (p.reap c clock.now).throttle.delays k.name clock.now = false ∧
      ((∃ e q, (p.reap c clock.now).traverserFor c k = (.error e, q) ∧
          p.startBatch c maxItems metered clock = (.ok false, q.backOff k.name clock.now)) ∨
        ∃ r q, (p.reap c clock.now).traverserFor c k = (.ok r, q) ∧
          p.startBatch c maxItems metered clock = q.submit c k r maxItems metered) := by
  unfold startBatch
  split
  · next e _ => exact .inl ⟨e, rfl⟩
  · next k₀ hlive =>
    obtain ⟨hk₀, hr₀⟩ := live_eq_ok.1 hlive
    refine .inr ?_
    dsimp only
    split
    · exact .inl rfl
    · next k hk =>
      split
      · exact .inl rfl
      · split
        · exact .inl rfl
        · next hgo =>
          simp only [Bool.or_eq_true, not_or, Bool.not_eq_true, Option.isSome_eq_false_iff,
            Option.isNone_iff_eq_none] at hgo
          refine .inr ⟨k, hk, (removed_of_reap hk₀ hk).trans hr₀, hgo.1.1.1, hgo.1.2, ?_⟩
          rcases htr : (p.reap c clock.now).traverserFor c k with ⟨e | r, q⟩
          · exact .inl ⟨e, q, rfl, rfl⟩
          · exact .inr ⟨r, q, rfl, rfl⟩

/-- An idle coordinator was not removed. -/
theorem live_of_idle {p q : Scheduler} {c : CoordinatorId} {k : Coordinator} {now : Instant}
    (hp : p.phase c now = (.idle, q)) (hk : q.coordinators[c]? = some k) : k.removed = false := by
  have hq : p.reap c now = q := (phase_snd p c now).symm.trans (congrArg Prod.snd hp)
  unfold phase at hp
  simp only [hq, hk] at hp
  split at hp
  · cases hp
  · next hr => exact eq_false_of_ne_true hr

/-- What a pass does about one coordinator comes to: it is reaped, and if it is idle and may run, the throttle is
asked for a hint, and a batch of that size is started unless the hint is none. -/
theorem scheduleOne_cases (p : Scheduler) (c : CoordinatorId) (clock : Clock) :
    (p.scheduleOne c clock).2 = p.reap c clock.now ∨
    ∃ k schedule, (p.reap c clock.now).coordinators[c]? = some k ∧ k.removed = false ∧
      k.schedule = some schedule ∧
      ∃ n throttle, (p.reap c clock.now).throttle.hint k.name schedule.load clock.now = (n, throttle) ∧
        ((p.scheduleOne c clock).2 = (p.reap c clock.now).withThrottle throttle ∨
          ∃ hint, n = some hint ∧ (p.scheduleOne c clock).2 =
            (((p.reap c clock.now).withThrottle throttle).startBatch c hint true clock).2) := by
  unfold scheduleOne
  generalize hp : p.phase c clock.now = ph
  obtain ⟨phase, q⟩ := ph
  obtain rfl : p.reap c clock.now = q := (phase_snd p c _).symm.trans (congrArg Prod.snd hp)
  dsimp only
  split
  · next k hk =>
    split
    · exact .inl rfl
    · next schedule hs =>
      split
      · exact .inl rfl
      · generalize hh : (p.reap c clock.now).throttle.hint k.name schedule.load clock.now = h
        obtain ⟨n, throttle⟩ := h
        refine .inr ⟨k, schedule, hk, live_of_idle hp hk, hs, n, throttle, hh, ?_⟩
        split
        · next e => cases e; exact .inl rfl
        · next e => cases e; exact .inl rfl
        · next hint _ _ e => cases e; exact .inr ⟨hint, rfl, rfl⟩
  · exact .inl rfl

end Scheduler

/-- Whether a notification tells what is stored. -/
def Notification.TrueOf (store : Store) : Notification → Prop
  | .added name config | .configurationChanged name config =>
    store.configuration? name = some config
  | .scheduleChanged name (some schedule) => store.schedule? name = some schedule
  | .removed _ | .checkpointChanged _ _ | .scheduleChanged _ none => True

/-- A call that did not fail has left its effect on the store. -/
theorem Backend.call_eq_ok {α : Type} {b b' : Backend} {m : StoreMethod} {read : Store → α}
    {write : Store → Store} {a : α} (h : b.call m read write = (.ok a, b')) :
    a = read b.store ∧ b' = { b.used m with store := write b.store } := by
  unfold Backend.call at h
  split at h
  · cases h
  · cases h
    exact ⟨rfl, rfl⟩

/-- A call that failed has used up its fate and done nothing else. -/
theorem Backend.call_eq_error {α : Type} {b b' : Backend} {m : StoreMethod} {read : Store → α}
    {write : Store → Store} {e : Error} (h : b.call m read write = (.error e, b')) :
    b' = b.used m := by
  unfold Backend.call at h
  split at h
  · cases h; rfl
  · cases h

/-- What a detection comes to: the listing fails, or the changes are told, and the listing becomes the inventory
if that succeeds. -/
theorem Detector.detect_cases {σ : Type} (hear : Listener σ) (inventory : NameMap TaskStamps) (s : σ)
    (b : Backend) :
    (∃ e, b.list = (.error e, b.used .listTasks) ∧
      detect hear inventory s b = (.error e, inventory, s, b.used .listTasks)) ∨
    b.list = (.ok b.store.list, b.used .listTasks) ∧ ∃ r s' b' inventory',
      tell hear (Change.between inventory.entries b.store.list.entries) {} s (b.used .listTasks) =
        (r, s', b') ∧
      detect hear inventory s b = (r, inventory', s', b') ∧
      ((∃ e, r = .error e) ∧ inventory' = inventory ∨
        (∃ total, r = .ok total) ∧ inventory' = b.store.list) := by
  rcases hl : b.list with ⟨e | listing, b₁⟩
  · obtain rfl := Backend.call_eq_error hl
    exact .inl ⟨e, rfl, by rw [detect, hl]⟩
  · obtain rfl : listing = b.store.list := (Backend.call_eq_ok hl).1
    obtain rfl : b₁ = b.used .listTasks := (Backend.call_eq_ok hl).2
    refine .inr ⟨rfl, ?_⟩
    simp only [detect, hl]
    rcases tell hear (Change.between inventory.entries b.store.list.entries) {} s
      (b.used .listTasks) with ⟨e | total, s', b'⟩
    · exact ⟨_, s', b', inventory, rfl, rfl, .inl ⟨⟨e, rfl⟩, rfl⟩⟩
    · exact ⟨_, s', b', b.store.list, rfl, rfl, .inr ⟨⟨total, rfl⟩, rfl⟩⟩

/-- A call leaves the store, or does to it what it is to do. -/
theorem Backend.store_call {α : Type} (b : Backend) (m : StoreMethod) (read : Store → α)
    (write : Store → Store) : (b.call m read write).2.store = b.store ∨
      (b.call m read write).2.store = write b.store := by
  unfold Backend.call
  split
  · exact .inl rfl
  · exact .inr rfl

/-- Reading a checkpoint leaves the store, and what is read is what is stored. -/
theorem CheckpointCell.read_cases (cell : CheckpointCell) (b : Backend) :
    (cell.read b).2.2.store = b.store ∧
      ∀ checkpoint, (cell.read b).1 = .ok checkpoint → checkpoint = b.store.checkpoint? cell.connector := by
  unfold read Backend.readCheckpoint Backend.call
  split
  · next e b' h =>
    split at h <;> cases h
    exact ⟨rfl, nofun⟩
  · next checkpoint b' h =>
    split at h <;> cases h
    exact ⟨rfl, fun _ h => by cases h; rfl⟩

/-- Writing a checkpoint leaves the store, or stores it. -/
theorem CheckpointCell.store_write (cell : CheckpointCell) (checkpoint : Option String) (b : Backend) :
    (cell.write checkpoint b).2.2.store = b.store ∨
      (cell.write checkpoint b).2.2.store = b.store.storeCheckpoint cell.connector checkpoint := by
  have hcall := b.store_call .storeCheckpoint (fun _ => ()) (·.storeCheckpoint cell.connector checkpoint)
  unfold write
  split <;> next he => exact (congrArg (fun r => r.2.store) he) ▸ hcall

/-- Reading a change looks into the store, and what there is to tell of it is stored. -/
theorem Change.read_cases (c : Change) (b : Backend) :
    (∃ m, (c.read b).2 = b.used m ∨ (c.read b).2 = b) ∧
      ∀ n, (c.read b).1 = .ok (some n) → n.TrueOf b.store := by
  have hcall {α : Type} (m : StoreMethod) (read : Store → α) : (b.call m read id).2 = b.used m := by
    unfold Backend.call
    split <;> rfl
  have hval {α : Type} {m : StoreMethod} {g : Store → α} {f : α → Option Notification}
      {n : Notification} (h : (b.call m g id).1.map f = .ok (some n)) : f (g b.store) = some n := by
    unfold Backend.call at h
    split at h
    · cases h
    · simpa [Except.map] using h
  cases c with
  | removed name => exact ⟨⟨.listTasks, .inr rfl⟩, fun n h => by cases h; trivial⟩
  | added name | configuration name =>
    refine ⟨⟨.readConfiguration, .inl (hcall .readConfiguration (·.configuration? name))⟩,
      fun n h => ?_⟩
    obtain ⟨config, hc, rfl⟩ := Option.map_eq_some_iff.1
      (hval (m := .readConfiguration) (g := (·.configuration? name)) h)
    exact hc
  | checkpoint name =>
    refine ⟨⟨.readCheckpoint, .inl (hcall .readCheckpoint (·.checkpoint? name))⟩, fun n h => ?_⟩
    cases hval (m := .readCheckpoint) (g := (·.checkpoint? name)) h
    trivial
  | schedule name =>
    refine ⟨⟨.readSchedule, .inl (hcall .readSchedule (·.schedule? name))⟩, fun n h => ?_⟩
    cases hval (m := .readSchedule) (g := (·.schedule? name)) h
    cases hs : b.store.schedule? name with
    | none => trivial
    | some schedule => exact hs

namespace Site

variable {s : Site} {c : CoordinatorId} {k : Coordinator} {name : String}

/-- A chore stores no checkpoint. -/
theorem Chore.checkpoint? {s' : Site} (h : Chore s s') {checkpoint : String}
    (hc : s'.backend.store.checkpoint? name = some checkpoint) :
    s.backend.store.checkpoint? name = some checkpoint := by
  -- a call that fails leaves the store
  have hcall {m : StoreMethod} {write : Store → Store}
      (hc : (s.backend.call m (fun _ => ()) write).2.store.checkpoint? name = some checkpoint)
      (hwrite : (write s.backend.store).checkpoint? name = some checkpoint →
        s.backend.store.checkpoint? name = some checkpoint) :
      s.backend.store.checkpoint? name = some checkpoint := by
    rcases s.backend.store_call m (fun _ => ()) write with he | he <;> rw [he] at hc
    · exact hc
    · exact hwrite hc
  cases h with
  | upkeep h => rwa [h.backend] at hc
  | edit h =>
    cases h with
    | amend | enlist | detach | look => exact hc
    | storeConfiguration other config =>
      exact hcall hc fun h => by rwa [Store.checkpoint?_storeConfiguration] at h
    | storeSchedule other schedule =>
      exact hcall hc fun h => by rwa [Store.checkpoint?_storeSchedule] at h
    | removeTask other =>
      refine hcall hc fun h => ?_
      rw [Store.checkpoint?_removeTask] at h
      split at h
      · cases h
      · exact h
    | @clearCheckpoint c k =>
      have hc : (k.cell.write none s.backend).2.2.store.checkpoint? name = some checkpoint := hc
      rcases k.cell.store_write none s.backend with he | he <;> rw [he] at hc
      · exact hc
      · rw [Store.checkpoint?_storeCheckpoint] at hc
        split at hc
        · cases hc
        · exact hc

/-! ## Scheduling passes -/

/-- Reaping gives up a batch that has ended without reporting back, or does nothing. -/
theorem reap_visits (s : Site) (c : CoordinatorId) :
    Visits s (s.withScheduler (s.scheduler.reap c s.now)) := by
  cases hk : s.scheduler.coordinators[c]? with
  | none =>
    rw [Scheduler.reap, hk]
    exact .refl
  | some k =>
    rcases Scheduler.reap_cases hk s.now with ⟨he, -⟩ | ⟨t, ht, hdone, he⟩ <;> rw [he]
    · exact .refl
    · exact .single ⟨.giveUp hk ht hdone, rfl⟩

/-- Looking at a phase is reaping. -/
theorem phase_visits (s : Site) (c : CoordinatorId) :
    Visits s (s.withScheduler (s.scheduler.phase c s.now).2) := by
  rw [Scheduler.phase_snd]
  exact reap_visits s c

/-- A live coordinator without a batch in flight submits one for the traverser that it has or gets. -/
theorem submit_visits {r : TraverserId} {q : Scheduler} (hk : s.scheduler.coordinators[c]? = some k)
    (hlive : k.removed = false) (hidle : k.handle = none)
    (hon : s.scheduler.throttle.delays k.name s.now = false)
    (hr : s.scheduler.traverserFor c k = (.ok r, q)) (maxItems : Nat) (metered : Bool) :
    Visits s (s.withScheduler (q.submit c k r maxItems metered).2) := by
  cases htr : k.traverser with
  | some r =>
    simp only [Scheduler.traverserFor, htr] at hr
    cases hr
    exact .single ⟨.submit maxItems metered hk hlive hidle htr hon, (s.scheduler.keeps_submit ..).metrics⟩
  | none =>
    have hequip : Visit s (s.withScheduler (s.scheduler.traverserFor c k).2) :=
      ⟨.equip hk hlive htr, (s.scheduler.keeps_traverserFor c htr).metrics⟩
    rcases Scheduler.traverserFor_cases s.scheduler c htr with ⟨e, he⟩ | ⟨config, adapter, -, -, he⟩
    · cases he.symm.trans hr
    · rw [hr] at hequip
      cases he.symm.trans hr
      -- the coordinator is the same for the submission, up to its new traverser
      refine (Relation.ReflTransGen.single hequip).tail
        ⟨.submit (k := { k with traverser := some s.scheduler.traversers.length }) maxItems metered
          ?_ hlive hidle rfl hon, (Scheduler.keeps_submit ..).metrics⟩
      exact Scheduler.getElem?_modifyCoordinator_self hk _

/-- A live coordinator for which no traverser can be made backs off. -/
theorem backOff_visits {e : Error} {q : Scheduler} (hk : s.scheduler.coordinators[c]? = some k)
    (hlive : k.removed = false) (hon : s.scheduler.throttle.delays k.name s.now = false)
    (he : s.scheduler.traverserFor c k = (.error e, q)) :
    Visits s (s.withScheduler (q.backOff k.name s.now)) := by
  obtain rfl : q = s.scheduler := by
    cases htr : k.traverser with
    | some r => simp [Scheduler.traverserFor, htr] at he
    | none =>
      rcases Scheduler.traverserFor_cases s.scheduler c htr with ⟨_, hq⟩ | ⟨_, _, -, -, hq⟩ <;>
        cases hq.symm.trans he
      rfl
  exact .single ⟨.backOff hk hlive hon ⟨e, congrArg Prod.fst he⟩, rfl⟩

/-- A coordinator that is asked to start a batch is reaped first. If something then stands in the way of the
batch, nothing else changes. -/
theorem startBatch_visits (s : Site) (c : CoordinatorId) (maxItems : Nat) (metered : Bool) :
    Visits s (s.withScheduler (s.scheduler.startBatch c maxItems metered s.clock).2) := by
  have hreap := reap_visits s c
  rcases s.scheduler.startBatch_cases c maxItems metered s.clock with ⟨e, he⟩ | he |
    ⟨k, hk, hlive, hidle, hon, ⟨e, q, htr, he⟩ | ⟨r, q, htr, he⟩⟩ <;> rw [he]
  · exact .refl
  · exact hreap
  · exact hreap.trans (backOff_visits (s := s.withScheduler (s.scheduler.reap c s.now)) hk hlive hon htr)
  · exact hreap.trans (submit_visits (s := s.withScheduler (s.scheduler.reap c s.now)) hk hlive hidle hon
      htr maxItems metered)

/-- A pass looks at the phase of a coordinator, asks the throttle for a hint and starts a batch, as far as it
gets. -/
theorem scheduleOne_visits (s : Site) (c : CoordinatorId) :
    Visits s (s.withScheduler (s.scheduler.scheduleOne c s.clock).2) := by
  have hreap := reap_visits s c
  rcases s.scheduler.scheduleOne_cases c s.clock with he |
    ⟨k, schedule, hk, hlive, -, n, throttle, hn, hrest⟩
  · rw [he]
    exact hreap
  · obtain rfl : ((s.scheduler.reap c s.now).throttle.hint k.name schedule.load s.now).2 = throttle :=
      congrArg Prod.snd hn
    have hhint := hreap.tail ⟨.hint schedule.load hk hlive, rfl⟩
    rcases hrest with he | ⟨hint, -, he⟩ <;> rw [he]
    · exact hhint
    · exact hhint.trans (startBatch_visits _ c hint true)

/-- A pass visits one coordinator after the other. -/
theorem scheduleAll_visits (order : List CoordinatorId) (s : Site) :
    Visits s (s.withScheduler (s.scheduler.scheduleAll s.clock order).2) := by
  induction order generalizing s with
  | nil => exact .refl
  | cons c rest ih =>
    exact (scheduleOne_visits s c).trans (ih (s.withScheduler (s.scheduler.scheduleOne c s.clock).2))

/-- Counting the running batches looks at the phase of one coordinator after the other. -/
theorem countRunning_visits (l : List CoordinatorId) (s : Site) :
    Visits s (s.withScheduler (s.scheduler.countRunning s.now l).2) := by
  induction l generalizing s with
  | nil => exact .refl
  | cons c rest ih =>
    exact (phase_visits s c).trans (ih (s.withScheduler (s.scheduler.phase c s.now).2))

/-- Taking the metrics first visits the known coordinators, to count those that are running. -/
theorem measure_upkeep (s : Site) (known : List (String × CoordinatorId)) (started : Nat) :
    Upkeeps s (s.withScheduler (s.scheduler.measure s.clock known started)) :=
  (countRunning_visits (known.map (·.2)) s).upkeeps.tail (.measure _)

/-- A pass is upkeep, and only its last step touches the metrics. -/
theorem pass_upkeep (s : Site) (order : List CoordinatorId) :
    Upkeeps s (s.withScheduler (s.scheduler.passInOrder s.clock order).2) :=
  (scheduleAll_visits order s).upkeeps.trans
    (measure_upkeep (s.withScheduler (s.scheduler.scheduleAll s.clock order).2) _ _)

/-! ## Administrative calls -/

/-- Setting the stored configuration of a registered connector amends it. -/
theorem setConfiguration_edits (hr : s.scheduler.Registered)
    (hreg : s.scheduler.coordinator? name = some c) {config : ConnectorConfig}
    (hback : s.backend.store.configuration? name = some config) :
    Edits s (s.withScheduler (s.scheduler.setConfiguration c config).2) := by
  obtain ⟨k, hk, rfl, hlive⟩ := hr name c hreg
  simp only [Scheduler.setConfiguration, Scheduler.live_eq_ok.2 ⟨hk, hlive⟩]
  split
  · exact .refl
  · exact .single (.amend (.configure config) hreg hk hlive hback)

/-- Setting the stored schedule of a registered connector amends it. -/
theorem setSchedule_edits (hr : s.scheduler.Registered)
    (hreg : s.scheduler.coordinator? name = some c) {schedule : Schedule}
    (hback : s.backend.store.schedule? name = some schedule) :
    Edits s (s.withScheduler (s.scheduler.setSchedule c schedule).2) := by
  obtain ⟨k, hk, rfl, hlive⟩ := hr name c hreg
  simp only [Scheduler.setSchedule, Scheduler.live_eq_ok.2 ⟨hk, hlive⟩]
  split
  · exact .refl
  · exact .single (.amend (.reschedule schedule) hreg hk hlive hback)

/-- A foreign checkpoint amends its coordinator, the one last seen does nothing. -/
theorem checkpointChanged_edits (hr : s.scheduler.Registered)
    (hreg : s.scheduler.coordinator? name = some c) (checkpoint : Option String) :
    Edits s (s.withScheduler (s.scheduler.checkpointChanged c checkpoint).2) := by
  obtain ⟨k, hk, rfl, hlive⟩ := hr name c hreg
  simp only [Scheduler.checkpointChanged, Scheduler.live_eq_ok.2 ⟨hk, hlive⟩]
  split
  · exact .refl
  · exact .single (.amend .dropTraverser hreg hk hlive trivial)

/-- A restart amends the coordinator and then clears the stored checkpoint. -/
theorem restart_edits (hr : s.scheduler.Registered)
    (hreg : s.scheduler.coordinator? name = some c) : Edits s (s.restart c).2 := by
  obtain ⟨k, hk, rfl, hlive⟩ := hr name c hreg
  have hamend := Edit.amend .dropTraverser hreg hk hlive trivial
  have hk' := Scheduler.getElem?_interrupt_self hk fun k => { k with traverser := none }
  simp only [restart, Scheduler.live_eq_ok.2 ⟨hk, hlive⟩, hk']
  exact (Relation.ReflTransGen.single hamend).tail (.clearCheckpoint hk')

/-- A registered connector is detached. -/
theorem detach_edits (hr : s.scheduler.Registered)
    (hreg : s.scheduler.coordinator? name = some c) :
    Edits s (s.withScheduler (s.scheduler.detach name c)) := by
  obtain ⟨k, hk, rfl, hlive⟩ := hr name c hreg
  exact .single (.detach hreg hk hlive)

/-- Configuring a connector stores the configuration, enlists or amends, and restarts one that it replaces. -/
theorem setConfig_edits (hr : s.scheduler.Registered) (name : String) (config : ConnectorConfig) :
    Edits s (s.setConfig name config).2 := by
  unfold setConfig
  split
  · exact .refl
  · have hstore : Edits s { s with backend := (s.backend.storeConfiguration name config).2 } :=
      .single (.storeConfiguration name config)
    split
    · next e backend he => rw [he] at hstore; exact hstore
    · next backend he =>
      rw [he] at hstore
      have hback : backend.store.configuration? name = some config := by
        rw [(Backend.call_eq_ok he).2]
        simp [Store.configuration?, Store.storeConfiguration, Store.task_write]
      refine hstore.trans ?_
      cases hreg : s.scheduler.coordinator? name with
      | none =>
        obtain ⟨c, q, hfor, hset, hrep, -⟩ := Scheduler.coordinatorFor_new hreg config
        simp only [hfor, hset, hrep]
        exact .single (.enlist hreg hback)
      | some c =>
        have hfor := Scheduler.coordinatorFor_registered hreg
        rw [hfor]
        have hset : Edits { s with backend } { s with
            scheduler := (s.scheduler.setConfiguration c config).2, backend } :=
          setConfiguration_edits (s := { s with backend }) hr hreg hback
        have hreg' : (s.scheduler.setConfiguration c config).2.coordinator? name = some c := by
          rwa [Scheduler.coordinator?, Scheduler.registry_setConfiguration]
        have hr' := hset.registered hr
        dsimp only
        split
        · next e scheduler he => rw [he] at hset; exact hset
        · next changed scheduler he =>
          rw [he] at hset hreg' hr'
          split
          · exact hset.trans (restart_edits hr' hreg')
          · exact hset

/-- Scheduling a connector stores the schedule and amends, as far as the call gets. -/
theorem setSchedule_call_edits (hr : s.scheduler.Registered) (name text : String) :
    Edits s (s.setSchedule name text).2 := by
  unfold setSchedule
  split
  · exact .refl
  · next schedule _ =>
    unfold Scheduler.require
    cases hreg : s.scheduler.coordinator? name with
    | none => exact .refl
    | some c =>
      have hstore : Edits s { s with backend := (s.backend.storeSchedule name schedule).2 } :=
        .single (.storeSchedule name schedule)
      dsimp only
      split
      · next e backend he => rw [he] at hstore; exact hstore
      · next backend he =>
        rw [he] at hstore
        refine hstore.trans (setSchedule_edits (s := { s with backend }) hr hreg ?_)
        rw [(Backend.call_eq_ok he).2]
        simp [Store.schedule?, Store.storeSchedule, Store.task_write]

/-- Removing a connector detaches it before the store forgets the task. -/
theorem removeConnector_edits (hr : s.scheduler.Registered) (name : String) :
    Edits s (s.removeConnector name).2 := by
  unfold removeConnector Scheduler.require
  cases hreg : s.scheduler.coordinator? name with
  | none => exact .refl
  | some c =>
    exact (Relation.ReflTransGen.single (.removeTask name)).trans
      (detach_edits (s := { s with backend := (s.backend.removeTask name).2 }) hr hreg)

/-- Restarting a connector restarts its coordinator, if it has one. -/
theorem restartConnector_edits (hr : s.scheduler.Registered) (name : String) :
    Edits s (s.restartConnector name).2 := by
  unfold restartConnector Scheduler.require
  cases hreg : s.scheduler.coordinator? name with
  | none => exact .refl
  | some c => exact restart_edits hr hreg

/-! ## Detections -/

/-- Upkeep takes no time. -/
theorem Upkeep.clock {s' : Site} (h : Upkeep s s') : s'.clock = s.clock := by
  cases h <;> rfl

/-- A chore takes no time. -/
theorem Chore.clock {s' : Site} (h : Chore s s') : s'.clock = s.clock := by
  cases h with
  | upkeep h => exact h.clock
  | edit h => cases h <;> rfl

/-- However many chores there are, they take no time. -/
theorem Chores.clock {s' : Site} (h : Chores s s') : s'.clock = s.clock := by
  induction h with
  | refl => rfl
  | tail _ h ih => exact h.clock.trans ih

/-- After some edits the schedule of a connector is looked up, and set if it is stored. -/
theorem lookSchedule_edits (hr : s.scheduler.Registered) {name : String} {c : CoordinatorId}
    {q : Scheduler} (hq : Edits s (s.withScheduler q)) (hreg : q.coordinator? name = some c)
    {r : Except Error (Option Schedule)} {backend : Backend}
    (he : s.backend.readSchedule name = (r, backend)) :
    Edits s { s with scheduler := q, backend } ∧ ∀ schedule, r = .ok (some schedule) →
      Edits s { s with scheduler := (q.setSchedule c schedule).2, backend } := by
  have hlook := hq.tail (.look .readSchedule)
  cases r with
  | error e =>
    rw [Backend.call_eq_error he]
    exact ⟨hlook, fun _ h => nomatch h⟩
  | ok stored =>
    obtain ⟨hs, rfl⟩ := Backend.call_eq_ok he
    refine ⟨hlook, fun schedule h => ?_⟩
    cases h
    exact hlook.trans (setSchedule_edits (s := { s with
      scheduler := q, backend := s.backend.used .readSchedule }) (hq.registered hr) hreg hs.symm)

/-- Hearing that a connector was added is a sequence of edits: the configuration first, then the
schedule that is stored along with it. -/
theorem hear_added_edits (hr : s.scheduler.Registered) {name : String} {config : ConnectorConfig}
    (hn : (Notification.added name config).TrueOf s.backend.store) :
    Edits s (hear (.added name config) s).2 := by
  simp only [hear]
  cases hreg : s.scheduler.coordinator? name with
  | none =>
    obtain ⟨c, q, hfor, hset, -, hc⟩ := Scheduler.coordinatorFor_new hreg config
    simp only [hfor, hset]
    have henlist : Edits s (s.withScheduler (s.scheduler.enlist name config)) :=
      .single (.enlist hreg hn)
    split
    · next he => exact (lookSchedule_edits hr henlist hc he).1
    · next he => exact (lookSchedule_edits hr henlist hc he).1
    · next he => exact (lookSchedule_edits hr henlist hc he).2 _ rfl
  | some c =>
    have hfor := Scheduler.coordinatorFor_registered hreg
    have hset := setConfiguration_edits hr hreg hn
    have hreg' : (s.scheduler.setConfiguration c config).2.coordinator? name = some c := by
      rwa [Scheduler.coordinator?, Scheduler.registry_setConfiguration]
    simp only [hfor]
    split
    · next e scheduler he =>
      rw [he] at hset
      exact hset
    · next scheduler he =>
      rw [he] at hset hreg'
      split
      · next he => exact (lookSchedule_edits hr hset hreg' he).1
      · next he => exact (lookSchedule_edits hr hset hreg' he).1
      · next he => exact (lookSchedule_edits hr hset hreg' he).2 _ rfl

/-- What a listener hears that is stored, it applies by edits. -/
theorem hear_edits (hr : s.scheduler.Registered) {n : Notification}
    (hn : n.TrueOf s.backend.store) : Edits s (hear n s).2 := by
  cases n with
  | removed name =>
    simp only [hear]
    cases hreg : s.scheduler.coordinator? name with
    | none => exact .refl
    | some c => exact detach_edits hr hreg
  | checkpointChanged name checkpoint =>
    simp only [hear, Scheduler.require]
    cases hreg : s.scheduler.coordinator? name with
    | none => exact .refl
    | some c => exact checkpointChanged_edits hr hreg checkpoint
  | configurationChanged name config =>
    simp only [hear, Scheduler.require]
    cases hreg : s.scheduler.coordinator? name with
    | none => exact .refl
    | some c => exact setConfiguration_edits hr hreg hn
  | scheduleChanged name schedule =>
    cases schedule with
    | none => exact .refl
    | some schedule =>
      simp only [hear, Scheduler.require]
      cases hreg : s.scheduler.coordinator? name with
      | none => exact .refl
      | some c => exact setSchedule_edits hr hreg hn
  | added name config => exact hear_added_edits hr hn

/-- What was read of a change, a listener applies by edits, and in no time. -/
theorem hear_read (hr : s.scheduler.Registered) {change : Change} {n : Notification} {b : Backend}
    (hread : change.read s.backend = (.ok (some n), b)) :
    Edits { s with backend := b } (hear n { s with backend := b }).2 ∧
      (hear n { s with backend := b }).2.clock = s.clock := by
  obtain ⟨⟨m, hm⟩, htrue⟩ := change.read_cases s.backend
  rw [hread] at hm htrue
  have hstore : b.store = s.backend.store := by
    rcases hm with rfl | rfl
    · rfl
    · rfl
  have hedits : Edits { s with backend := b } (hear n { s with backend := b }).2 :=
    hear_edits (s := { s with backend := b }) hr (hstore ▸ htrue n rfl)
  exact ⟨hedits, hedits.chores.clock⟩

/-- Telling changes to the process is a sequence of edits. -/
theorem tell_edits (changes : List Change) (summary : ChangeSummary) (s : Site)
    (hr : s.scheduler.Registered) :
    let r := Detector.tell (listener s.clock) changes summary s.scheduler s.backend
    Edits s { s with scheduler := r.2.1, backend := r.2.2 } := by
  induction changes generalizing s summary with
  | nil => exact .refl
  | cons c rest ih =>
    have hread : Edits s { s with backend := (c.read s.backend).2 } := by
      obtain ⟨m, hm | hm⟩ := (c.read_cases s.backend).1 <;> rw [hm]
      exact .single (.look m)
    unfold Detector.tell
    dsimp only
    split
    · next e b he => rw [he] at hread; exact hread
    · next b he =>
      rw [he] at hread
      exact hread.trans (ih summary { s with backend := b } hr)
    · next n b he =>
      obtain ⟨hedits, hclock⟩ := hear_read hr he
      rw [he] at hread
      have hrest := ih (summary.count n) _ (hedits.registered hr)
      rw [hclock] at hrest
      exact (hread.trans hedits).trans hrest

/-- The process with another inventory. -/
def withInventory (s : Site) (inventory : NameMap TaskStamps) : Site :=
  s.withScheduler { s.scheduler with inventory }

/-- What a detection of a process comes to. -/
theorem detect_cases (s : Site) :
    (∃ e, s.backend.list = (.error e, s.backend.used .listTasks) ∧
      s.detect = (.error e, { s with backend := s.backend.used .listTasks })) ∨
    s.backend.list = (.ok s.backend.store.list, s.backend.used .listTasks) ∧ ∃ r p b inventory,
      Detector.tell (listener s.clock)
        (Change.between s.scheduler.inventory.entries s.backend.store.list.entries) {} s.scheduler
        (s.backend.used .listTasks) = (r, p, b) ∧
      s.detect = (r, { s with scheduler := { p with inventory }, backend := b }) ∧
      ((∃ e, r = .error e) ∧ inventory = s.scheduler.inventory ∨
        (∃ total, r = .ok total) ∧ inventory = s.backend.store.list) := by
  rcases Detector.detect_cases (listener s.clock) s.scheduler.inventory s.scheduler s.backend with
    ⟨e, hl, he⟩ | ⟨hl, r, p, b, inventory, ht, he, hinv⟩
  · exact .inl ⟨e, hl, by rw [detect, he]⟩
  · exact .inr ⟨hl, r, p, b, inventory, ht, by rw [detect, he], hinv⟩

/-- A detection is a sequence of edits, after which the inventory is replaced. -/
theorem detect_edits (hr : s.scheduler.Registered) :
    ∃ s' inventory, Edits s s' ∧ s.detect.2 = s'.withInventory inventory := by
  have hlook : Edits s { s with backend := s.backend.used .listTasks } := .single (.look .listTasks)
  rcases s.detect_cases with ⟨e, -, he⟩ | ⟨-, r, p, b, inventory, ht, he, -⟩ <;> rw [he]
  · exact ⟨_, s.scheduler.inventory, hlook, rfl⟩
  · have hwalk := tell_edits (Change.between s.scheduler.inventory.entries s.backend.store.list.entries) {}
      { s with backend := s.backend.used .listTasks } hr
    dsimp only at hwalk
    rw [ht] at hwalk
    exact ⟨_, inventory, hlook.trans hwalk, rfl⟩

end Site

end BatchTraversal
