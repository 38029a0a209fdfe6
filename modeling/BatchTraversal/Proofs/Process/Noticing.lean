import BatchTraversal.Proofs.Process.Barred
import BatchTraversal.Proofs.Process.Calls

/-!
# What a process has seen of its checkpoints

A process takes a checkpoint that it is told of for a foreign one unless it is the one it has seen last
(`Scheduler.seen?`). Whatever it does by itself leaves, for every name, the stored checkpoint and the one
seen last as they were, or leaves the two alike (`Site.Notices`): upkeep, the turns of its batches, its
administrative calls, and what it does when it is told of a connector that is not gone (`Scheduler.Heeds`),
even if what it is told is not what is stored any more. A batch that saves a checkpoint for a removed
connector would go unnoticed; the processes considered here have none (`Scheduler.Attended`).
-/

namespace BatchTraversal

/-- A configuration that is stored leaves the checkpoint beside it. -/
theorem Store.checkpoint_storeConfiguration (st : Store) (name other : String)
    (config : ConnectorConfig) : ((st.storeConfiguration name config).task other).checkpoint =
      (st.task other).checkpoint :=
  st.get_write (g := (·.checkpoint)) name other (by intro _ _; rfl)

/-- A schedule that is stored leaves the checkpoint beside it. -/
theorem Store.checkpoint_storeSchedule (st : Store) (name other : String) (schedule : Schedule) :
    ((st.storeSchedule name schedule).task other).checkpoint = (st.task other).checkpoint :=
  st.get_write (g := (·.checkpoint)) name other (by intro _ _; rfl)

namespace Scheduler

/-- The checkpoint that a process has seen last of a connector, if it knows the connector and has seen
one. -/
def seen? (p : Scheduler) (name : String) : Option String := (p.known? name).bind (·.cell.lastSeen)

/-- A process that has every coordinator in its place, and no batch that is about to save a checkpoint for
a removed connector. -/
structure Attended (p : Scheduler) : Prop where
  flight : p.Flight
  registered : p.Registered
  enrolled : p.Enrolled
  saver : ∀ t, p.Saving t → p.Liable t

variable {p q : Scheduler} {name : String} {c : CoordinatorId} {k : Coordinator} {t : TaskId}

/-- A batch that is about to save a checkpoint saves that of a registered coordinator. -/
theorem Attended.coordinator? (h : p.Attended) {b : Batch} (hb : p.batch? t = some b) {count : Nat}
    {next : String} (hst : b.stage = .saving count next)
    (hk : p.coordinators[b.coordinator]? = some k) : p.coordinator? k.name = some b.coordinator := by
  have hliable := h.saver t ⟨count, next, by rw [stage?_of_batch? hb, hst]⟩
  exact h.enrolled.registered _ k hk ((liable_iff hb hk).1 hliable)

/-- What was seen last depends on the cell of the live coordinator. -/
theorem seen?_congr (h : (q.known? name).map (·.cell.lastSeen) = (p.known? name).map (·.cell.lastSeen)) :
    q.seen? name = p.seen? name := by
  have hjoin (k : Option Coordinator) :
      k.bind (·.cell.lastSeen) = (k.map (·.cell.lastSeen)).bind id := by cases k <;> rfl
  rw [seen?, seen?, hjoin, hjoin, h]

/-- A change of a coordinator that leaves its cell leaves what was seen last. -/
theorem seen?_modify {f : Coordinator → Coordinator} (hreg : q.registry = p.registry)
    (hc : q.coordinators = p.coordinators.modify c f) (hf : ∀ k, (f k).cell = k.cell) :
    q.seen? name = p.seen? name :=
  seen?_congr (map_known?_modify hreg hc (fun k _ => by rw [hf]) name)

/-- Of a connector that is not registered nothing was seen. -/
theorem seen?_of_unregistered (h : p.coordinator? name = none) : p.seen? name = none := by
  rw [seen?, known?_of_unregistered h]
  rfl

/-- What was seen last of a registered connector is what its cell has seen. -/
theorem seen?_of_coordinator? (hreg : p.coordinator? name = some c) (hk : p.coordinators[c]? = some k) :
    p.seen? name = k.cell.lastSeen := by
  rw [seen?, known?_of_coordinator? hreg hk]
  rfl

end Scheduler

namespace Site

variable {s s' : Site} {t : TaskId} {name : String}

/-- Whether for every name the stored checkpoint and the one that the process has seen last are as they
were, or alike. -/
def Notices (s s' : Site) : Prop := ∀ name,
  s'.scheduler.seen? name = s'.backend.store.checkpoint? name ∨
  s'.scheduler.seen? name = s.scheduler.seen? name ∧
    (s'.backend.store.task name).checkpoint = (s.backend.store.task name).checkpoint

/-- Where nothing is done, nothing is to be noticed. -/
theorem Notices.refl (s : Site) : s.Notices s := fun _ => .inr ⟨rfl, rfl⟩

/-! ## Chores and calls -/

/-- A chore by which no connector is removed leaves no batch unattended. -/
theorem Chore.attended (h : Chore s s') (ha : s.scheduler.Attended)
    (hlive : ∀ (c : CoordinatorId) (k : Coordinator), s.scheduler.coordinators[c]? = some k →
      k.removed = false → ∃ k', s'.scheduler.coordinators[c]? = some k' ∧ k'.removed = false) :
    s'.scheduler.Attended := by
  refine ⟨h.flight ha.flight, h.registered ha.registered, h.enrolled ha.enrolled, fun t hsaving => ?_⟩
  obtain ⟨count, next, hs⟩ := hsaving
  have hspares : s.scheduler.pool.Spares t s'.scheduler.pool := by
    rcases h.pool with hp | ⟨b, u, hsub, hb⟩
    · exact hp.spares t
    · refine Pool.spares_submit hsub fun htu => ?_
      have hpay := Pool.payload?_submit hsub t
      rw [if_pos htu] at hpay
      rw [Scheduler.stage?_of_batch? hpay, hb] at hs
      cases hs
  have hstage : s'.scheduler.stage? t = s.scheduler.stage? t :=
    congrArg (Option.map Batch.stage) hspares.payload?
  obtain ⟨c, g, k, ho, hk, hr⟩ := ha.saver t ⟨count, next, hstage ▸ hs⟩
  obtain ⟨k', hk', hr'⟩ := hlive c k hk hr
  exact ⟨c, g, k', (Scheduler.order?_of_spares hspares).trans ho, hk', hr'⟩

/-- Upkeep removes no connector, so no batch is left unattended. -/
theorem Upkeep.attended (h : Upkeep s s') (ha : s.scheduler.Attended) : s'.scheduler.Attended := by
  refine Chore.attended (.upkeep h) ha fun c k hk hlive => ?_
  obtain ⟨k', hk', hb⟩ := h.coordinator hk
  have hremoved : k'.bare.removed = k.bare.removed := congrArg Coordinator.removed hb
  exact ⟨k', hk', hremoved.trans hlive⟩

/-- Upkeep leaves the stored checkpoints and the cells. -/
theorem Upkeep.notices (h : Upkeep s s') : s.Notices s' := by
  refine fun name => .inr ⟨Scheduler.seen?_congr ?_, by rw [h.backend]⟩
  have hb := congrArg (Option.map fun k : Coordinator => k.cell.lastSeen) (h.known? name)
  rwa [Option.map_map, Option.map_map] at hb

/-- Between the batches' looks and saves a call leaves none unattended. -/
theorem Chores.attended (h : Chores s s') (ha : s.scheduler.Attended) (hp : s.scheduler.Paused) :
    s'.scheduler.Attended :=
  ⟨h.moves.flight ha.flight, h.registered ha.registered, h.moves.enrolled ha.enrolled,
    fun t ⟨count, next, hs⟩ => absurd hs (h.paused hp t count next)⟩

/-- A call that sets a connector up notices if it leaves checkpoint and cell of the connector, or leaves them
alike. -/
theorem Sets.notices {k : Option Coordinator} {st : Store} (hs : s.Sets name k st s')
    (hothers : ∀ other, other ≠ name → st.task other = s.backend.store.task other)
    (hname : k.bind (·.cell.lastSeen) = st.checkpoint? name ∨
      k.bind (·.cell.lastSeen) = s.scheduler.seen? name ∧
        (st.task name).checkpoint = (s.backend.store.task name).checkpoint) : s.Notices s' := by
  intro other
  rw [hs.store, Scheduler.seen?, hs.known]
  by_cases ho : other = name
  · rw [if_pos ho, ho]
    exact hname
  · rw [if_neg ho, hothers other ho]
    exact .inr ⟨rfl, rfl⟩

/-- A call leaves the checkpoints as they are, or clears one in the store and in the cell. -/
theorem call_notices (hr : s.scheduler.Registered) (he : s.scheduler.Enrolled) (hb : s.backend.Reliable)
    {a : Action} (ha : a.IsCall) : s.Notices (s.act a) := by
  have hseen {name : String} {k : Coordinator} (hk : s.scheduler.known? name = some k) :
      s.scheduler.seen? name = k.cell.lastSeen := by
    rw [Scheduler.seen?, hk]
    rfl
  cases a with
  | setConfig name config =>
    rcases setConfig_cases hr he hb name config with ⟨e, hs⟩ | ⟨-, ⟨hnone, hs⟩ |
      ⟨k, hk, ⟨-, hs⟩ | ⟨-, hs⟩⟩⟩
    · rw [act, hs]
      exact .refl s
    · refine hs.notices (fun other ho => Store.task_write_of_ne _ _ ho)
        (.inr ⟨?_, Store.checkpoint_storeConfiguration ..⟩)
      rw [Scheduler.seen?, hnone]
      rfl
    · exact hs.notices (fun other ho => Store.task_write_of_ne _ _ ho)
        (.inr ⟨(hseen hk).symm, Store.checkpoint_storeConfiguration ..⟩)
    · refine hs.notices (fun other ho =>
        (Store.task_write_of_ne _ _ ho).trans (Store.task_write_of_ne _ _ ho)) (.inl ?_)
      rw [Store.checkpoint?_storeCheckpoint, if_pos rfl]
      rfl
  | setSchedule name text =>
    rcases setSchedule_call_cases hr hb name text with ⟨e, hs⟩ | ⟨schedule, k, -, hk, -, hs⟩
    · rw [act, hs]
      exact .refl s
    · refine hs.notices (fun other ho => Store.task_write_of_ne _ _ ho)
        (.inr ⟨?_, Store.checkpoint_storeSchedule ..⟩)
      rw [hseen hk]
      split <;> rfl
  | remove name =>
    rcases removeConnector_cases hr hb name with ⟨e, hs⟩ | ⟨-, hs⟩
    · rw [act, hs]
      exact .refl s
    · refine hs.notices (fun other ho => ?_) (.inl ?_)
      · rw [Store.task_removeTask, if_neg ho]
      · rw [Store.checkpoint?_removeTask, if_pos rfl]
        rfl
  | restart name =>
    rcases restartConnector_cases hr hb name with ⟨-, e, hs⟩ | ⟨k, -, -, hs⟩
    · rw [act, hs]
      exact .refl s
    · refine hs.notices (fun other ho => Store.task_write_of_ne _ _ ho) (.inl ?_)
      rw [Store.checkpoint?_storeCheckpoint, if_pos rfl]
      rfl
  | _ => cases ha

/-! ## Turns -/

/-- A turn lets no batch come to save a checkpoint for a removed connector: one that looks at its token
finds it tripped. -/
theorem Turn.attended {u : TaskId} (h : Turn u s s') (ha : s.scheduler.Attended) :
    s'.scheduler.Attended := by
  refine ⟨h.flight ha.flight, h.registered ha.registered, h.enrolled ha.enrolled, fun t hsaving => ?_⟩
  obtain ⟨count, next, hs⟩ := hsaving
  have hbefore (hst : s'.scheduler.stage? t = s.scheduler.stage? t) : s'.scheduler.Liable t :=
    h.alike.liable (ha.saver t ⟨count, next, hst ▸ hs⟩)
  by_cases htu : t = u
  · subst htu
    cases h with
    | take h =>
      obtain ⟨rest, -, rfl⟩ := Pool.take?_eq_some h
      exact hbefore rfl
    | @move b k r hx hbatch hst hk hr =>
      rw [s.stage?_moved hbatch, Option.some.injEq] at hs
      have htrip := (RunStage.saving_of_advance hs).1
      have hopen : s.scheduler.pool.Open t := ⟨.inr hx, fun hr => by
        rw [ha.flight.sound.tripped t hr] at htrip
        cases htrip⟩
      have hh := ha.flight.single t _ _ k (Scheduler.order?_of_batch? hbatch) hk hopen
      have hlive : k.removed = false := eq_false_of_ne_true fun hrem => by
        rw [ha.flight.removed _ k hk hrem] at hh
        cases hh
      exact (Turn.move hx hbatch hst hk hr).alike.liable ((Scheduler.liable_iff hbatch hk).2 hlive)
    | @answer b r checkpoint a hbatch hst =>
      have hstage : (s.scheduler.withStage t (RunStage.answer a r (.calling checkpoint)).1).stage? t =
          some (.saving count next) := hs
      rw [Scheduler.stage?, Scheduler.batch?_withStage, if_pos rfl, hbatch] at hstage
      cases a <;> cases hstage
    | crash | retire | choke | count => exact hbefore (Scheduler.stage?_finish rfl t)
    | @settle b k code =>
      rcases settleBatch_cases (s.counted t k (BatchResult.ofCode code).count) t b k (.ofCode code) with
        ⟨-, he⟩ | ⟨-, disabled, -, he⟩ <;> rw [he] at hbefore ⊢
      all_goals exact hbefore (Scheduler.stage?_finish rfl t)
  · exact hbefore (h.stage?_other htu)

/-- A turn leaves the checkpoints as they are, or it reads one into the cell, or saves one in the store and
in the cell of a registered coordinator. -/
theorem Turn.notices (h : Turn t s s') (ha : s.scheduler.Attended) (hb : s.backend.Reliable) :
    s.Notices s' := by
  cases h with
  | take | answer | crash | retire | choke | count => exact .refl s
  | @move b k r hx hbatch hst hk =>
    have hadv := RunStage.advance_reliable
      (w := { traverser := r, cell := k.cell, backend := s.backend }) hb t
      (s.scheduler.pool.isTripped t) b.stage
    -- the workbench is kept abstract, so that the three outcomes of the step can be read off `hadv`
    generalize hw : ({ traverser := r, cell := k.cell, backend := s.backend } : Workbench) = w at hadv ⊢
    obtain ⟨hcell, hstore⟩ : w.cell = k.cell ∧ w.backend.store = s.backend.store := by
      subst hw
      exact ⟨rfl, rfl⟩
    rw [hcell, hstore] at hadv
    have hmod : (s.moved t b w).scheduler.coordinators = s.scheduler.coordinators.modify b.coordinator
      fun l => { l with cell := (b.stage.advance t (s.scheduler.pool.isTripped t) w).2.1.cell } := rfl
    have hknown := Scheduler.known?_modify (p := s.scheduler) (q := (s.moved t b w).scheduler) rfl hmod
    have hstored : (s.moved t b w).backend.store =
      (b.stage.advance t (s.scheduler.pool.isTripped t) w).2.1.backend.store := rfl
    intro name
    rw [Scheduler.seen?, hknown, hstored]
    by_cases hreg : s.scheduler.coordinator? name = some b.coordinator
    · -- the connector of the batch
      have hseen := Scheduler.seen?_of_coordinator? hreg hk
      obtain ⟨rfl, -⟩ := ha.registered.of_known? (Scheduler.known?_of_coordinator? hreg hk)
      rw [if_pos hreg, Scheduler.known?_of_coordinator? hreg hk]
      obtain ⟨-, ⟨hsame, hstore, -⟩ | ⟨-, -, hread, hstore, -⟩ | ⟨count, next, -, -, hsave, hstore, -⟩⟩ :=
        hadv
      · refine .inr ⟨?_, by rw [hstore]⟩
        rw [hseen, hsame]
        rfl
      · refine .inl ?_
        rw [hread, hstore]
        rfl
      · refine .inl ?_
        rw [hsave, hstore]
        exact ((Store.checkpoint?_storeCheckpoint ..).trans (if_pos rfl)).symm
    · -- another one, for which the batch saves nothing
      rw [if_neg hreg]
      obtain ⟨-, ⟨-, hstore, -⟩ | ⟨-, -, -, hstore, -⟩ | ⟨count, next, hsaving, -, -, hstore, -⟩⟩ := hadv
      · exact .inr ⟨rfl, by rw [hstore]⟩
      · exact .inr ⟨rfl, by rw [hstore]⟩
      · refine .inr ⟨rfl, ?_⟩
        have hne : name ≠ k.name := fun he => hreg (he ▸ ha.coordinator? hbatch hsaving hk)
        rw [hstore]
        exact congrArg StoredTask.checkpoint (Store.task_write_of_ne _ _ hne)
  | @settle b k code =>
    intro name
    rcases settleBatch_cases (s.counted t k (BatchResult.ofCode code).count) t b k (.ofCode code) with
      ⟨-, he⟩ | ⟨-, disabled, -, he⟩ <;> rw [he]
    · refine .inr ⟨?_, rfl⟩
      exact Scheduler.seen?_modify (f := .settled none) rfl rfl fun _ => rfl
    · refine .inr ⟨?_, ?_⟩
      · exact Scheduler.seen?_modify (f := .settled disabled) rfl rfl fun _ => rfl
      cases disabled with
      | none => rfl
      | some d =>
        show ((s.backend.storeSchedule k.name d).2.store.task name).checkpoint = _
        rw [Backend.storeSchedule, hb.call]
        exact Store.checkpoint_storeSchedule ..

end Site

/-! ## What a process does when it is told something -/

namespace Scheduler

/-- What a process does in itself when it is told of a connector that is not gone, whether or not what it
is told is stored. -/
inductive Heed (p : Scheduler) : Scheduler → Prop
  /-- A registered coordinator is amended, and its batch in flight interrupted. -/
  | amend {c : CoordinatorId} {k : Coordinator} (a : Amendment)
      (hreg : p.coordinator? k.name = some c) (hk : p.coordinators[c]? = some k)
      (hlive : k.removed = false) : Heed p (p.interrupt c a.apply)
  /-- A connector that was unknown gets its coordinator. -/
  | enlist {name : String} {config : ConnectorConfig} (hnew : p.coordinator? name = none) :
      Heed p (p.enlist name config)

/-- Some of that one after the other. -/
abbrev Heeds : Scheduler → Scheduler → Prop := Relation.ReflTransGen Heed

variable {p q : Scheduler} {name : String} {c : CoordinatorId}

/-- Over a store that has what it is told, what a process does is an edit. -/
theorem Heed.edit (h : Heed p q) (clock : Clock) :
    ∃ backend, Site.Edit ⟨p, backend, clock⟩ ⟨q, backend, clock⟩ := by
  have hconfig (name : String) (config : ConnectorConfig) :
      (({} : Store).storeConfiguration name config).configuration? name = some config :=
    (Store.configuration?_storeConfiguration ..).trans (if_pos rfl)
  cases h with
  | @amend c k a hreg hk hlive =>
    obtain ⟨st, hst⟩ : ∃ st : Store, a.BackedBy st k.name := by
      cases a with
      | configure config => exact ⟨_, hconfig k.name config⟩
      | reschedule schedule =>
        exact ⟨({} : Store).storeSchedule k.name schedule,
          (Store.schedule?_storeSchedule ..).trans (if_pos rfl)⟩
      | dropTraverser => exact ⟨{}, trivial⟩
    exact ⟨{ store := st }, .amend a hreg hk hlive hst⟩
  | @enlist name config hnew => exact ⟨{ store := _ }, .enlist hnew (hconfig name config)⟩

/-- What a process does when it is told something removes no connector, so no batch is left unattended. -/
theorem Heed.attended (h : Heed p q) (ha : p.Attended) : q.Attended := by
  obtain ⟨backend, hedit⟩ := h.edit { now := ⟨0⟩ }
  refine Site.Chore.attended (.edit hedit) ha fun c k hk hlive => ?_
  cases h with
  | @amend d l a _ hl =>
    have hget := getElem?_modifyCoordinator p d c (.interrupted a.apply)
    have hq : (p.interrupt d a.apply).coordinators[c]? =
        (p.modifyCoordinator d (.interrupted a.apply)).coordinators[c]? := by
      rw [interrupt_eq hl]
    rw [hget, hk] at hq
    split at hq
    · exact ⟨_, hq, (a.apply_name_removed k).2.trans hlive⟩
    · exact ⟨k, hq, hlive⟩
  | enlist => exact ⟨k, getElem?_enlist hk, hlive⟩

/-- What a process has seen of a checkpoint does not depend on what it is told. -/
theorem Heed.seen? (h : Heed p q) (hr : p.Registered) (name : String) : q.seen? name = p.seen? name := by
  cases h with
  | @amend c k a hreg =>
    rw [Scheduler.seen?, Scheduler.seen?, hr.known?_interrupt hreg]
    split
    · cases p.known? name <;> cases a <;> rfl
    · rfl
  | @enlist other config hnew =>
    rw [Scheduler.seen?, hr.known?_enlist]
    split
    · next he => rw [he, seen?_of_unregistered hnew]; rfl
    · rfl

/-- However much a process is told of, no batch is left unattended. -/
theorem Heeds.attended (h : Heeds p q) (ha : p.Attended) : q.Attended := by
  induction h with
  | refl => exact ha
  | tail _ h ih => exact h.attended ih

/-- What a process is told of does not count as seen by its cells. -/
theorem Heeds.seen? (h : Heeds p q) (ha : p.Attended) (name : String) :
    q.seen? name = p.seen? name := by
  induction h with
  | refl => rfl
  | tail h₀ h ih => exact (h.seen? (Heeds.attended h₀ ha).registered name).trans ih

/-- A registered connector is told of its configuration, stored or not, by an amendment. -/
theorem setConfiguration_heeds (hr : p.Registered) (hreg : p.coordinator? name = some c)
    (config : ConnectorConfig) : Heeds p (p.setConfiguration c config).2 := by
  obtain ⟨k, hk, rfl, hlive⟩ := hr name c hreg
  rcases setConfiguration_cases hk hlive config with ⟨-, he⟩ | ⟨-, he⟩
  · rw [he]
  · rw [he]
    exact .single (.amend _ hreg hk hlive)

/-- A registered connector is told of its schedule, stored or not, by an amendment. -/
theorem setSchedule_heeds (hr : p.Registered) (hreg : p.coordinator? name = some c)
    (schedule : Schedule) : Heeds p (p.setSchedule c schedule).2 := by
  obtain ⟨k, hk, rfl, hlive⟩ := hr name c hreg
  rcases setSchedule_cases hk hlive schedule with ⟨-, he⟩ | ⟨-, he⟩
  · rw [he]
  · rw [he]
    exact .single (.amend _ hreg hk hlive)

/-- A checkpoint that a process has not seen last interrupts the connector and costs it its traverser; the
one seen last is nothing new. -/
theorem checkpointChanged_cases (hr : p.Registered) (hreg : p.coordinator? name = some c)
    (checkpoint : Option String) : p.checkpointChanged c checkpoint = (.ok (),
      if p.seen? name = checkpoint then p else p.interrupt c Amendment.dropTraverser.apply) := by
  obtain ⟨k, hk, -, hlive⟩ := hr name c hreg
  simp only [checkpointChanged, live_eq_ok.2 ⟨hk, hlive⟩, seen?_of_coordinator? hreg hk,
    CheckpointCell.matchesSeen, beq_iff_eq]
  split <;> rfl

/-- A registered connector that is told of a foreign checkpoint drops its traverser. -/
theorem checkpointChanged_heeds (hr : p.Registered) (hreg : p.coordinator? name = some c)
    (checkpoint : Option String) : Heeds p (p.checkpointChanged c checkpoint).2 := by
  obtain ⟨k, hk, rfl, hlive⟩ := hr name c hreg
  rw [checkpointChanged_cases hr hreg]
  dsimp only
  split
  · exact .refl
  · exact .single (.amend _ hreg hk hlive)

end Scheduler

namespace Site

variable {s : Site}

/-- What a process is told of a connector that is not gone, or that it does not know, it heeds. -/
theorem hear_heeds (hr : s.scheduler.Registered) {n : Notification}
    (hn : ∀ name, n = .removed name → s.scheduler.coordinator? name = none) :
    Scheduler.Heeds s.scheduler (hear n s).2.scheduler := by
  cases n with
  | removed name =>
    simp only [hear, hn name rfl]
    exact .refl
  | checkpointChanged name checkpoint =>
    simp only [hear, Scheduler.require]
    cases hreg : s.scheduler.coordinator? name with
    | none => exact .refl
    | some c => exact Scheduler.checkpointChanged_heeds hr hreg checkpoint
  | configurationChanged name config =>
    simp only [hear, Scheduler.require]
    cases hreg : s.scheduler.coordinator? name with
    | none => exact .refl
    | some c => exact Scheduler.setConfiguration_heeds hr hreg config
  | scheduleChanged name schedule =>
    cases schedule with
    | none => exact .refl
    | some schedule =>
      simp only [hear, Scheduler.require]
      cases hreg : s.scheduler.coordinator? name with
      | none => exact .refl
      | some c => exact Scheduler.setSchedule_heeds hr hreg schedule
  | added name config =>
    -- the process once the configuration is set, and the schedule after that
    obtain ⟨c, q, q', b, hfor, hset, hq, hreg, hr'⟩ : ∃ c q q' b,
        s.scheduler.coordinatorFor name = (c, q) ∧ q.setConfiguration c config = (.ok b, q') ∧
        Scheduler.Heeds s.scheduler q' ∧ q'.coordinator? name = some c ∧ q'.Registered := by
      cases hreg : s.scheduler.coordinator? name with
      | none =>
        obtain ⟨c, q, hfor, hset, -, hc⟩ := Scheduler.coordinatorFor_new hreg config
        exact ⟨c, q, _, true, hfor, hset, .single (.enlist hreg), hc, hr.enlist name config⟩
      | some c =>
        obtain ⟨k, hk, -, hlive⟩ := hr name c hreg
        have hfor := Scheduler.coordinatorFor_registered hreg
        have hheeds := Scheduler.setConfiguration_heeds hr hreg config
        rcases Scheduler.setConfiguration_cases hk hlive config with ⟨-, he⟩ | ⟨-, he⟩ <;>
          rw [he] at hheeds
        · exact ⟨c, _, _, _, hfor, he, hheeds, hreg, hr⟩
        · refine ⟨c, _, _, _, hfor, he, hheeds, ?_, hr.interrupt hk fun _ => ⟨rfl, rfl⟩⟩
          rwa [Scheduler.coordinator?, Scheduler.registry_interrupt]
    simp only [hear, hfor, hset]
    split
    · exact hq
    · exact hq
    · exact hq.trans (Scheduler.setSchedule_heeds hr' hreg _)

end Site

end BatchTraversal
