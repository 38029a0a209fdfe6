import BatchTraversal.Proofs.Detection.Terms
import BatchTraversal.Proofs.Process.Enrolled

/-!
# What calls and runs leave behind

A call on a connector, as long as the store does not fail, either is refused and changes nothing, or it
succeeds and changes the coordinator of that name and what is stored for it, and no other (`Site.Sets`).
There is one theorem for each call, one for the next action of a run (`RunStage.advance_reliable`), and one
for what a turn leaves in the store (`Site.Turn.store_cases`).
-/

namespace BatchTraversal

/-- As long as the store does not fail, the next action of a run leaves store and cell as they are, or it
reads the stored checkpoint into the cell and waits with it, or it saves a checkpoint in both. A run that
calls its adapter has waited with the checkpoint that it calls it with. -/
theorem RunStage.advance_reliable {w : Workbench} (hb : w.backend.Reliable) (token : TokenId)
    (tripped : Bool) (stage : RunStage) :
    let a := stage.advance token tripped w
    a.2.1.backend.Reliable ∧
      (a.2.1.cell = w.cell ∧ a.2.1.backend.store = w.backend.store ∧
          (∀ checkpoint, a.2.2 ≠ some (.saved checkpoint)) ∧
          (∀ checkpoint, a.1 = .waiting checkpoint → stage = .waiting checkpoint) ∧
          (∀ checkpoint, a.2.2 = some (.called checkpoint) → stage = .waiting checkpoint) ∨
        (stage = .reading ∧ a.1 = .waiting (w.backend.store.checkpoint? w.cell.connector) ∧
          a.2.1.cell = { w.cell with lastSeen := w.backend.store.checkpoint? w.cell.connector } ∧
          a.2.1.backend.store = w.backend.store ∧ a.2.2 = none) ∨
        ∃ count next, stage = .saving count next ∧ a.1 = .coded (countCode count) ∧
          a.2.1.cell = { w.cell with lastSeen := some next } ∧
          a.2.1.backend.store = w.backend.store.storeCheckpoint w.cell.connector (some next) ∧
          a.2.2 = some (.saved next)) := by
  have hread : w.cell.read w.backend = (.ok (w.backend.store.checkpoint? w.cell.connector),
      { w.cell with lastSeen := w.backend.store.checkpoint? w.cell.connector },
      (w.backend.readCheckpoint w.cell.connector).2) := by
    simp only [CheckpointCell.read, Backend.readCheckpoint, hb.call]
  have hwrite (next : String) : w.cell.write (some next) w.backend = (.ok (),
      { w.cell with lastSeen := some next }, (w.backend.storeCheckpoint w.cell.connector (some next)).2) := by
    simp only [CheckpointCell.write, Backend.storeCheckpoint, hb.call]
  have h := stage.advances token tripped w
  dsimp only
  generalize stage.advance token tripped w = a at h ⊢
  cases h with
  | misread he => cases hread.symm.trans he
  | read he =>
    cases hread.symm.trans he
    simp only [Backend.readCheckpoint, hb.call]
    exact ⟨hb.used _, .inr (.inl ⟨trivial, trivial, trivial, rfl, trivial⟩)⟩
  | missave he => cases (hwrite _).symm.trans he
  | save he =>
    cases (hwrite _).symm.trans he
    simp only [Backend.storeCheckpoint, hb.call]
    exact ⟨hb.used _, .inr (.inr ⟨_, _, rfl, rfl, rfl, rfl, rfl⟩)⟩
  | _ => exact ⟨hb, .inl ⟨rfl, rfl, by simp⟩⟩

/-- A coordinator whose traversal starts afresh. -/
def Coordinator.restarted (k : Coordinator) : Coordinator :=
  { k.interrupted Amendment.dropTraverser.apply with cell := { k.cell with lastSeen := none } }

namespace Site

/-- Whether a store that does not fail is afterwards `store`, and a name has the coordinator `k`, the
others the ones they had. -/
structure Sets (s : Site) (name : String) (k : Option Coordinator) (store : Store) (s' : Site) :
    Prop where
  reliable : s'.backend.Reliable
  store : s'.backend.store = store
  known : ∀ other, s'.scheduler.known? other =
    if other = name then k else s.scheduler.known? other

variable {s : Site} {name : String} {c : CoordinatorId} {k : Coordinator}

/-- A write to the store sets nothing else. -/
theorem sets_same (hknown : s.scheduler.known? name = some k) {b : Backend} (hb : b.Reliable)
    (store : Store) : s.Sets name (some k) store { s with backend := { b with store } } := by
  refine ⟨hb, rfl, fun other => ?_⟩
  by_cases ho : other = name
  · rw [if_pos ho, ho]
    exact hknown
  · rw [if_neg ho]

/-- A change of a registered coordinator sets it. -/
theorem sets_modify (hr : s.scheduler.Registered) (hreg : s.scheduler.coordinator? name = some c)
    (hk : s.scheduler.coordinators[c]? = some k) {s' : Site} (hb : s'.backend.Reliable)
    {f : Coordinator → Coordinator} (hq : s'.scheduler.registry = s.scheduler.registry)
    (hc : s'.scheduler.coordinators = s.scheduler.coordinators.modify c f) :
    s.Sets name (some (f k)) s'.backend.store s' := by
  refine ⟨hb, rfl, fun other => (hr.known?_modify hreg hq hc other).trans ?_⟩
  by_cases ho : other = name
  · rw [if_pos ho, if_pos ho, ho, Scheduler.known?_of_coordinator? hreg hk]
    rfl
  · rw [if_neg ho, if_neg ho]

/-- A restart clears the checkpoint, in the store and in the cell. -/
theorem restart_sets (hr : s.scheduler.Registered) (hb : s.backend.Reliable)
    (hreg : s.scheduler.coordinator? name = some c) (hk : s.scheduler.coordinators[c]? = some k) :
    (s.restart c).1 = .ok () ∧ s.Sets name (some k.restarted)
      (s.backend.store.storeCheckpoint name none) (s.restart c).2 := by
  obtain ⟨hname, hlive⟩ := hr.of_known? (Scheduler.known?_of_coordinator? hreg hk)
  have hk' := Scheduler.getElem?_interrupt_self hk Amendment.dropTraverser.apply
  have he : s.restart c = (.ok (), { s with
      scheduler := (s.scheduler.interrupt c Amendment.dropTraverser.apply).modifyCoordinator c fun l =>
        { l with cell := { k.cell with lastSeen := none } }
      backend := { s.backend.used .storeCheckpoint with
        store := s.backend.store.storeCheckpoint name none } }) := by
    have hk'' : (s.scheduler.interrupt c fun k => { k with traverser := none }).coordinators[c]? =
        some (k.interrupted Amendment.dropTraverser.apply) := hk'
    simp only [restart, Scheduler.live_eq_ok.2 ⟨hk, hlive⟩, hk'', CheckpointCell.write,
      Backend.storeCheckpoint, hb.call]
    subst hname
    rfl
  rw [he]
  refine ⟨rfl, hb.used _, rfl, fun other => ?_⟩
  have hint := hr.known?_interrupt hreg Amendment.dropTraverser.apply other
  have hcell := (hr.interrupt hk Amendment.dropTraverser.apply_name_removed).known?_modify
    (q := (s.scheduler.interrupt c Amendment.dropTraverser.apply).modifyCoordinator c fun l =>
      { l with cell := { k.cell with lastSeen := none } })
    (by rwa [Scheduler.coordinator?, Scheduler.registry_interrupt]) rfl rfl other
  refine hcell.trans ?_
  by_cases ho : other = name
  · rw [if_pos ho] at hint ⊢
    rw [if_pos ho, hint, ho, Scheduler.known?_of_coordinator? hreg hk]
    rfl
  · rw [if_neg ho] at hint ⊢
    rw [if_neg ho, hint]

theorem restartConnector_cases (hr : s.scheduler.Registered) (hb : s.backend.Reliable)
    (name : String) : (s.scheduler.known? name = none ∧ ∃ e, s.restartConnector name = (.error e, s)) ∨
      ∃ k, s.scheduler.known? name = some k ∧ (s.restartConnector name).1 = .ok () ∧
        s.Sets name (some k.restarted) (s.backend.store.storeCheckpoint name none)
          (s.restartConnector name).2 := by
  unfold restartConnector Scheduler.require
  cases hreg : s.scheduler.coordinator? name with
  | none => exact .inl ⟨Scheduler.known?_of_unregistered hreg, _, rfl⟩
  | some c =>
    obtain ⟨k, hk, -⟩ := hr name c hreg
    exact .inr ⟨k, Scheduler.known?_of_coordinator? hreg hk, restart_sets hr hb hreg hk⟩

/-- A new schedule is stored and replaces that of the coordinator. -/
theorem setSchedule_call_cases (hr : s.scheduler.Registered) (hb : s.backend.Reliable)
    (name text : String) : (∃ e, s.setSchedule name text = (.error e, s)) ∨
      ∃ schedule k, Schedule.parse text = .ok schedule ∧ s.scheduler.known? name = some k ∧
        (s.setSchedule name text).1 = .ok () ∧
        s.Sets name
          (some (if k.schedule = some schedule then k
            else k.interrupted (Amendment.reschedule schedule).apply))
          (s.backend.store.storeSchedule name schedule) (s.setSchedule name text).2 := by
  unfold setSchedule Scheduler.require
  cases hp : Schedule.parse text with
  | error e => exact .inl ⟨_, rfl⟩
  | ok schedule =>
    cases hreg : s.scheduler.coordinator? name with
    | none => exact .inl ⟨_, rfl⟩
    | some c =>
      obtain ⟨k, hk, -, hlive⟩ := hr name c hreg
      have hknown := Scheduler.known?_of_coordinator? hreg hk
      refine .inr ⟨schedule, k, rfl, hknown, ?_⟩
      simp only [Backend.storeSchedule, hb.call]
      rcases Scheduler.setSchedule_cases hk hlive schedule with ⟨he, hset⟩ | ⟨hne, hset⟩ <;> rw [hset]
      · rw [if_pos he]
        exact ⟨rfl, sets_same hknown (hb.used .storeSchedule) _⟩
      · rw [if_neg hne]
        refine ⟨rfl, hb.used _, rfl, fun other => (hr.known?_interrupt hreg _ other).trans ?_⟩
        split
        · next ho => rw [ho, hknown]; rfl
        · rfl

/-- A removed connector has no coordinator any more, and nothing is stored for it. -/
theorem removeConnector_cases (hr : s.scheduler.Registered) (hb : s.backend.Reliable)
    (name : String) : (∃ e, s.removeConnector name = (.error e, s)) ∨
      (s.removeConnector name).1 = .ok () ∧
        s.Sets name none (s.backend.store.removeTask name) (s.removeConnector name).2 := by
  unfold removeConnector Scheduler.require
  cases hreg : s.scheduler.coordinator? name with
  | none => exact .inl ⟨_, rfl⟩
  | some c =>
    right
    simp only [Backend.removeTask, hb.call]
    exact ⟨trivial, hb.used _, rfl, hr.known?_detach hreg⟩

/-- A new configuration is stored. A connector that was unknown gets its coordinator, one that had the
same configuration keeps its coordinator as it is, and one that had another configuration is configured
anew and its traversal starts afresh. -/
theorem setConfig_cases (hr : s.scheduler.Registered) (he : s.scheduler.Enrolled)
    (hb : s.backend.Reliable) (name : String) (config : ConnectorConfig) :
    (∃ e, s.setConfig name config = (.error e, s)) ∨ (s.setConfig name config).1 = .ok () ∧
      ((s.scheduler.known? name = none ∧
        s.Sets name (some { cell := { connector := name }, config := some config, generation := 1 })
          (s.backend.store.storeConfiguration name config) (s.setConfig name config).2) ∨
      ∃ k, s.scheduler.known? name = some k ∧
        (k.config = some config ∧
          s.Sets name (some k) (s.backend.store.storeConfiguration name config)
            (s.setConfig name config).2 ∨
        k.config ≠ some config ∧
          s.Sets name (some (k.interrupted (Amendment.configure config).apply).restarted)
            ((s.backend.store.storeConfiguration name config).storeCheckpoint name none)
            (s.setConfig name config).2)) := by
  unfold setConfig
  cases s.scheduler.kinds.validate name config with
  | error e => exact .inl ⟨e, rfl⟩
  | ok =>
    right
    simp only [Backend.storeConfiguration, hb.call]
    cases hreg : s.scheduler.coordinator? name with
    | none =>
      have hnone := Scheduler.known?_of_unregistered hreg
      obtain ⟨c, q, hfor, hset, hrep, -⟩ := Scheduler.coordinatorFor_new hreg config
      simp only [hfor, hset, hrep]
      exact ⟨rfl, .inl ⟨hnone, hb.used _, rfl, hr.known?_enlist name config⟩⟩
    | some c =>
      obtain ⟨k, hk, -, hlive⟩ := hr name c hreg
      have hknown := Scheduler.known?_of_coordinator? hreg hk
      have hfor := Scheduler.coordinatorFor_registered hreg
      have hrep : (s.scheduler.coordinators[c]?.bind (·.config)).isSome := by
        rw [hk]
        exact he.configured c k hk hlive
      simp only [hfor, hrep, Bool.and_true]
      -- the configuration is compared with the live one, which is what decides about the restart
      rcases Scheduler.setConfiguration_cases hk hlive config with ⟨hsame, hset⟩ | ⟨hne, hset⟩
      · simp only [hset, Bool.false_eq_true, if_false]
        exact ⟨trivial, .inr ⟨k, hknown, .inl ⟨hsame, sets_same hknown (hb.used .storeConfiguration) _⟩⟩⟩
      · simp only [hset, if_true]
        have hint := hr.known?_interrupt hreg (Amendment.configure config).apply
        have hreg' : (s.scheduler.interrupt c (Amendment.configure config).apply).coordinator? name =
            some c := by
          rwa [Scheduler.coordinator?, Scheduler.registry_interrupt]
        obtain ⟨hok, hsets⟩ := restart_sets (s := { s with
            scheduler := s.scheduler.interrupt c (Amendment.configure config).apply
            backend := { s.backend.used .storeConfiguration with
              store := s.backend.store.storeConfiguration name config } })
          (hr.interrupt hk (Amendment.configure config).apply_name_removed) (hb.used _) hreg'
          (Scheduler.getElem?_interrupt_self hk _)
        refine ⟨hok, .inr ⟨k, hknown, .inr ⟨hne, hsets.reliable, hsets.store, fun other => ?_⟩⟩⟩
        refine (hsets.known other).trans ?_
        split
        · rfl
        · next ho => exact (hint other).trans (if_neg ho)

/-- As long as the store does not fail, a turn leaves it as it is, unless the batch saves its checkpoint or
its schedule is disabled. -/
theorem Turn.store_cases {s' : Site} {t : TaskId} (h : Turn t s s') (hb : s.backend.Reliable) :
    s'.backend.store = s.backend.store ∨
      (∃ b k count next, s.scheduler.pool.isExecuting t ∧ s.scheduler.batch? t = some b ∧
        b.stage = .saving count next ∧ s.scheduler.coordinators[b.coordinator]? = some k ∧
        s'.backend.store = s.backend.store.storeCheckpoint k.name (some next)) ∨
      ∃ other schedule, s'.backend.store = s.backend.store.storeSchedule other schedule := by
  cases h with
  | take | answer | crash | retire | choke | count => exact .inl rfl
  | @move b k r hx hbatch hst hk =>
    have hadv := RunStage.advance_reliable
      (w := { traverser := r, cell := k.cell, backend := s.backend }) hb t
      (s.scheduler.pool.isTripped t) b.stage
    obtain ⟨-, ⟨-, hstore, -⟩ | ⟨-, -, -, hstore, -⟩ | ⟨count, next, hsave, -, -, hstore, -⟩⟩ := hadv
    · exact .inl hstore
    · exact .inl hstore
    · exact .inr (.inl ⟨b, k, count, next, hx, hbatch, hsave, hk, hstore⟩)
  | @settle b k code =>
    rcases settleBatch_cases (s.counted t k (BatchResult.ofCode code).count) t b k (.ofCode code) with
      ⟨-, he⟩ | ⟨-, disabled, -, he⟩ <;> rw [he]
    · exact .inl rfl
    · cases disabled with
      | none => exact .inl rfl
      | some d =>
        refine .inr (.inr ⟨k.name, d, ?_⟩)
        show (s.backend.storeSchedule k.name d).2.store = _
        rw [Backend.storeSchedule, hb.call]

end Site

end BatchTraversal
