import BatchTraversal.Proofs.Detection.Agreement
import BatchTraversal.Proofs.Process.Calls
import BatchTraversal.Proofs.Process.Saving

/-!
# Processes that mirror their store

A process that has a store to itself knows what is in it. Whatever it writes, it writes to the store and
to the coordinator of the connector alike, and what a batch saves, the cell it saves it through remembers.
So at every moment the process goes by exactly what is stored (`Scheduler.Mirrors`): every administrative
call, every turn of a batch and all upkeep keeps that. Whatever the detector tells such a process it takes
for its own writing, so a detection changes nothing but the inventory (`Site.detect_mirrored`).
-/

namespace BatchTraversal

/-- The values of a connector, as they are stored or as a process takes them to be. -/
structure Facets where
  configuration : Option ConnectorConfig
  schedule : Option Schedule
  checkpoint : Option String

/-- What is stored of a connector, without the stamps. -/
def StoredTask.facets (t : StoredTask) : Facets :=
  ⟨t.configuration.map (·.value), t.schedule.map (·.value), t.checkpoint.map (·.value)⟩

/-- What a coordinator goes by. -/
def Coordinator.facets (k : Coordinator) : Facets := ⟨k.config, k.schedule, k.cell.lastSeen⟩

/-- Whether a coordinator goes by exactly what is stored, which includes a configuration; without a
coordinator nothing is stored at all. -/
def StoredTask.ReflectedBy (t : StoredTask) : Option Coordinator → Prop
  | none => t = {}
  | some k => t.configuration.isSome ∧ k.facets = t.facets

/-- Whether a coordinator reflects what is stored depends on what it goes by. -/
theorem StoredTask.ReflectedBy.congr {t : StoredTask} {k k' : Option Coordinator}
    (h : t.ReflectedBy k) (he : k'.map (·.facets) = k.map (·.facets)) : t.ReflectedBy k' := by
  cases k with
  | none =>
    obtain rfl := Option.map_eq_none_iff.1 he
    exact h
  | some k =>
    obtain ⟨k', rfl, hf⟩ := Option.map_eq_some_iff.1 he
    exact ⟨h.1, hf.trans h.2⟩

namespace Scheduler

/-- Whether a process goes by exactly what is stored, for every connector. -/
def Mirrors (p : Scheduler) (st : Store) : Prop := ∀ name, (st.task name).ReflectedBy (p.known? name)

variable {p q : Scheduler} {st : Store} {name : String} {k : Coordinator}

/-- A process that has just started mirrors an empty store. -/
theorem mirrors_start (h : ∃ settings pool kinds, Scheduler.start settings pool kinds = .ok p) :
    p.Mirrors {} := by
  obtain ⟨settings, pool, kinds, h⟩ := h
  obtain ⟨-, rfl⟩ := start_eq_ok h
  exact fun _ => rfl

/-- A known connector has a stored configuration, and goes by it and by the schedule and the checkpoint beside
it. -/
theorem Mirrors.facets (h : p.Mirrors st) (hk : p.known? name = some k) :
    (st.configuration? name).isSome ∧ k.config = st.configuration? name ∧
      k.schedule = st.schedule? name ∧ k.cell.lastSeen = st.checkpoint? name := by
  have hname := h name
  rw [hk] at hname
  obtain ⟨hsome, hf⟩ := hname
  refine ⟨?_, congrArg Facets.configuration hf, congrArg Facets.schedule hf,
    congrArg Facets.checkpoint hf⟩
  rwa [Store.configuration?, Option.isSome_map]

/-- Of a connector that is not known nothing is stored. -/
theorem Mirrors.nothing (h : p.Mirrors st) (hk : p.known? name = none) : st.task name = {} := by
  have hname := h name
  rwa [hk] at hname

/-- The listed names are the known ones. -/
theorem Mirrors.listed (h : p.Mirrors st) (name : String) :
    (st.list.find? name).isSome ↔ (p.known? name).isSome := by
  rw [Option.isSome_iff_ne_none, Ne, Store.find?_list_eq_none]
  cases hk : p.known? name with
  | none =>
    rw [Store.configuration?, h.nothing hk]
    simp
  | some k =>
    have hsome := (h.facets hk).1
    rw [Option.isSome_iff_ne_none] at hsome
    simpa using hsome

/-- A process that goes by the same mirrors the same store. -/
theorem Mirrors.congr (h : p.Mirrors st)
    (he : ∀ name, (q.known? name).map (·.facets) = (p.known? name).map (·.facets)) : q.Mirrors st :=
  fun name => (h name).congr (he name)

/-- A change of a coordinator that leaves what it goes by leaves the mirror. -/
theorem Mirrors.modify (h : p.Mirrors st) {c : CoordinatorId} {f : Coordinator → Coordinator}
    (hreg : q.registry = p.registry) (hc : q.coordinators = p.coordinators.modify c f)
    (hf : ∀ k, (f k).facets = k.facets) : q.Mirrors st :=
  h.congr (map_known?_modify hreg hc fun k _ => hf k)

end Scheduler

namespace Site

variable {s s' : Site} {name : String} {t : TaskId}

/-- Whether a process goes by exactly what is in its store. -/
abbrev Mirrors (s : Site) : Prop := s.scheduler.Mirrors s.backend.store

/-! ## Calls -/

/-- A call that leaves one connector as it is stored leaves a mirror of the store. -/
theorem Mirrors.sets (h : s.Mirrors) {k : Option Coordinator} {st : Store}
    (hs : s.Sets name k st s') (hothers : ∀ other, other ≠ name →
      st.task other = s.backend.store.task other)
    (hname : (st.task name).ReflectedBy k) : s'.Mirrors := by
  intro other
  rw [hs.known, hs.store]
  by_cases ho : other = name
  · rw [if_pos ho, ho]
    exact hname
  · rw [if_neg ho, hothers other ho]
    exact h other

/-- An administrative call keeps the mirror of the store. -/
theorem call_mirrors (hr : s.scheduler.Registered) (he : s.scheduler.Enrolled)
    (hb : s.backend.Reliable) (h : s.Mirrors) {a : Action} (ha : a.IsCall) : (s.act a).Mirrors := by
  cases a with
  | setConfig name config =>
    rcases setConfig_cases hr he hb name config with ⟨e, hs⟩ | ⟨-, ⟨hnone, hs⟩ |
      ⟨k, hk, ⟨hsame, hs⟩ | ⟨hne, hs⟩⟩⟩
    · rw [act, hs]
      exact h
    · refine h.sets hs (fun other ho => Store.task_write_of_ne _ _ ho) ?_
      rw [Store.storeConfiguration, Store.task_write_self, h.nothing hnone]
      exact ⟨rfl, rfl⟩
    · refine h.sets hs (fun other ho => Store.task_write_of_ne _ _ ho) ?_
      obtain ⟨-, -, hsch, hcp⟩ := h.facets hk
      rw [Store.storeConfiguration, Store.task_write_self]
      exact ⟨rfl, by simp [Coordinator.facets, StoredTask.facets, hsame, hsch, hcp,
        Store.schedule?, Store.checkpoint?]⟩
    · refine h.sets hs (fun other ho =>
        (Store.task_write_of_ne _ _ ho).trans (Store.task_write_of_ne _ _ ho)) ?_
      obtain ⟨-, -, hsch, -⟩ := h.facets hk
      rw [Store.storeCheckpoint, Store.task_write_self, Store.storeConfiguration, Store.task_write_self]
      exact ⟨rfl, by simp [Coordinator.facets, StoredTask.facets, hsch, Store.schedule?,
        Coordinator.restarted, Coordinator.interrupted, Amendment.apply]⟩
  | setSchedule name text =>
    rcases setSchedule_call_cases hr hb name text with ⟨e, hs⟩ | ⟨schedule, k, -, hk, -, hs⟩
    · rw [act, hs]
      exact h
    · refine h.sets hs (fun other ho => Store.task_write_of_ne _ _ ho) ?_
      obtain ⟨hsome, hcon, -, hcp⟩ := h.facets hk
      rw [Store.storeSchedule, Store.task_write_self]
      refine ⟨by rwa [Store.configuration?, Option.isSome_map] at hsome, ?_⟩
      split
      · next hsame =>
        simp [Coordinator.facets, StoredTask.facets, hsame, hcon, hcp, Store.configuration?,
          Store.checkpoint?]
      · simp [Coordinator.facets, StoredTask.facets, hcon, hcp, Store.configuration?,
          Store.checkpoint?, Coordinator.interrupted, Amendment.apply]
  | remove name =>
    rcases removeConnector_cases hr hb name with ⟨e, hs⟩ | ⟨-, hs⟩
    · rw [act, hs]
      exact h
    · refine h.sets hs (fun other ho => ?_) ?_
      · rw [Store.task_removeTask, if_neg ho]
      · exact (Store.task_removeTask ..).trans (if_pos rfl)
  | restart name =>
    rcases restartConnector_cases hr hb name with ⟨-, e, hs⟩ | ⟨k, hk, -, hs⟩
    · rw [act, hs]
      exact h
    · refine h.sets hs (fun other ho => Store.task_write_of_ne _ _ ho) ?_
      obtain ⟨hsome, hcon, hsch, -⟩ := h.facets hk
      rw [Store.storeCheckpoint, Store.task_write_self]
      exact ⟨by rwa [Store.configuration?, Option.isSome_map] at hsome,
        by simp [Coordinator.facets, StoredTask.facets, hcon, hsch, Store.configuration?,
          Store.schedule?, Coordinator.restarted, Coordinator.interrupted, Amendment.apply]⟩
  | _ => cases ha

/-! ## Upkeep and turns -/

/-- Upkeep leaves what the coordinators go by, and the store. -/
theorem Upkeep.mirrors (h : Upkeep s s') (hm : s.Mirrors) : s'.Mirrors := by
  have hsame : s'.scheduler.Mirrors s.backend.store := Scheduler.Mirrors.congr hm fun name => by
    have hb := congrArg (Option.map Coordinator.facets) (h.known? name)
    rwa [Option.map_map, Option.map_map] at hb
  rwa [← h.backend] at hsame

/-- A step of a run keeps the mirror of the store. Only the batch in flight of a live coordinator saves a
checkpoint, and the cell of a live coordinator has what a reading run finds already. -/
theorem mirrors_moved (ho : s.scheduler.Flight) (hr : s.scheduler.Registered)
    (he : s.scheduler.Enrolled) (hc : s.scheduler.Candid) (hb : s.backend.Reliable) (hm : s.Mirrors)
    {b : Batch} {k : Coordinator} (hx : s.scheduler.pool.isExecuting t)
    (hbatch : s.scheduler.batch? t = some b)
    (hk : s.scheduler.coordinators[b.coordinator]? = some k) {w : Workbench} (hcell : w.cell = k.cell)
    (hback : w.backend = s.backend) : (s.moved t b w).Mirrors := by
  have hadv := RunStage.advance_reliable (hback.symm ▸ hb) t (s.scheduler.pool.isTripped t) b.stage
  rw [hcell, hback] at hadv
  have hmod : (s.moved t b w).scheduler.coordinators = s.scheduler.coordinators.modify b.coordinator
    fun l => { l with cell := (b.stage.advance t (s.scheduler.pool.isTripped t) w).2.1.cell } := rfl
  -- a step that writes nothing may only have seen what the cell has
  have hquiet (hstore : (s.moved t b w).backend.store = s.backend.store)
      (hseen : s.scheduler.coordinator? k.name = some b.coordinator →
        (b.stage.advance t (s.scheduler.pool.isTripped t) w).2.1.cell.lastSeen = k.cell.lastSeen) :
      (s.moved t b w).Mirrors := by
    rw [Mirrors, hstore]
    refine Scheduler.Mirrors.congr hm fun name => ?_
    rw [Scheduler.known?_modify (p := s.scheduler) (q := (s.moved t b w).scheduler) rfl hmod]
    split
    · next hreg =>
      have hknown := Scheduler.known?_of_coordinator? hreg hk
      obtain ⟨rfl, -⟩ := hr.of_known? hknown
      rw [hknown]
      exact congrArg (fun seen => some (Facets.mk k.config k.schedule seen)) (hseen hreg)
    · rfl
  obtain ⟨hb', ⟨hsame, hstore, -⟩ | ⟨-, -, hread, hstore, -⟩ |
    ⟨count, next, hst, -, hsaved, hstore, -⟩⟩ := hadv
  · exact hquiet hstore fun _ => by rw [hsame]
  · refine hquiet hstore fun hreg => ?_
    rw [hread]
    exact (hm.facets (Scheduler.known?_of_coordinator? hreg hk)).2.2.2.symm
  · obtain ⟨-, -, hlive⟩ := hc.saver ho hx hbatch hst hk
    have hreg := he.registered _ k hk hlive
    obtain ⟨hsome, hcon, hsch, -⟩ := hm.facets (Scheduler.known?_of_coordinator? hreg hk)
    have hsets : s.Sets k.name _ _ (s.moved t b w) := sets_modify hr hreg hk hb' rfl hmod
    have hstored : (s.moved t b w).backend.store =
      s.backend.store.storeCheckpoint k.name (some next) := hstore
    rw [hstored, hsaved] at hsets
    refine hm.sets hsets (fun other hne => Store.task_write_of_ne _ _ hne) ?_
    rw [Store.storeCheckpoint, Store.task_write_self]
    exact ⟨by rwa [Store.configuration?, Option.isSome_map] at hsome,
      by simp [Coordinator.facets, StoredTask.facets, hcon, hsch, Store.configuration?,
        Store.schedule?]⟩

/-- A turn of a batch keeps the mirror of the store. A schedule is disabled in the coordinator and in the
store. -/
theorem Turn.mirrors (h : Turn t s s') (ho : s.scheduler.Flight) (hr : s.scheduler.Registered)
    (he : s.scheduler.Enrolled) (hc : s.scheduler.Candid) (hb : s.backend.Reliable) (hm : s.Mirrors) :
    s'.Mirrors := by
  cases h with
  | take | answer | crash | retire | choke | count => exact hm
  | move hx hbatch hst hk => exact mirrors_moved ho hr he hc hb hm hx hbatch hk rfl rfl
  | @settle b k code hx hbatch hst hk hlive =>
    have hreg := he.registered _ k hk hlive
    obtain ⟨hsome, hcon, -, hcp⟩ := hm.facets (Scheduler.known?_of_coordinator? hreg hk)
    rcases settleBatch_cases (s.counted t k (BatchResult.ofCode code).count) t b k (.ofCode code) with
      ⟨-, hs⟩ | ⟨-, disabled, -, hs⟩ <;> rw [hs]
    · exact Scheduler.Mirrors.modify hm (f := .settled none) rfl rfl fun _ => rfl
    · cases disabled with
      | none => exact Scheduler.Mirrors.modify hm (f := .settled none) rfl rfl fun _ => rfl
      | some d =>
        have hstored : s.backend.storeSchedule k.name d = (.ok (), { s.backend.used .storeSchedule with
            store := s.backend.store.storeSchedule k.name d }) := hb.call ..
        refine hm.sets (sets_modify hr hreg hk (f := .settled (some d)) ?_ rfl rfl)
          (fun other hne => ?_) ?_
        · show (s.backend.storeSchedule k.name d).2.Reliable
          rw [hstored]
          exact hb.used _
        · show ((s.backend.storeSchedule k.name d).2.store).task other = _
          rw [hstored]
          exact Store.task_write_of_ne _ _ hne
        · show (((s.backend.storeSchedule k.name d).2.store).task k.name).ReflectedBy _
          rw [hstored, Store.storeSchedule, Store.task_write_self]
          exact ⟨by rwa [Store.configuration?, Option.isSome_map] at hsome,
            by simp [Coordinator.facets, StoredTask.facets, hcon, hcp, Store.configuration?,
              Store.checkpoint?, Coordinator.settled]⟩

/-! ## Detections -/

/-- What is told of the store to a process that mirrors it changes nothing in the process, as long as only
names that are not stored are told to be gone. -/
theorem hear_mirrored (hr : s.scheduler.Registered) (hb : s.backend.Reliable) (hm : s.Mirrors)
    {c : Change} {n : Notification} (hn : c.told? s.backend.store = some n)
    (hgone : ∀ name, c = .removed name → s.backend.store.configuration? name = none) :
    (hear n s).2.scheduler = s.scheduler := by
  -- a registered connector already goes by what is stored, so what is told compares equal
  have hsame {name : String} {c : CoordinatorId} (hreg : s.scheduler.coordinator? name = some c) :
      ∃ k, s.scheduler.live c = .ok k ∧ k.config = s.backend.store.configuration? name ∧
        k.schedule = s.backend.store.schedule? name ∧
        k.cell.lastSeen = s.backend.store.checkpoint? name := by
    obtain ⟨k, hk, -, hlive⟩ := hr name c hreg
    exact ⟨k, Scheduler.live_eq_ok.2 ⟨hk, hlive⟩,
      (hm.facets (Scheduler.known?_of_coordinator? hreg hk)).2⟩
  cases c with
  | removed name =>
    cases hn
    have hnone : s.scheduler.known? name = none := by
      have hlisted := Scheduler.Mirrors.listed hm name
      rw [Store.find?_list_eq_none.2 (hgone name rfl)] at hlisted
      simpa using hlisted
    simp only [hear, hr.known?_eq_none.1 hnone]
  | checkpoint name =>
    cases hn
    simp only [hear, Scheduler.require]
    cases hreg : s.scheduler.coordinator? name with
    | none => rfl
    | some c =>
      obtain ⟨k, hlive, -, -, hseen⟩ := hsame hreg
      simp [Scheduler.checkpointChanged, hlive, CheckpointCell.matchesSeen, hseen]
  | configuration name =>
    obtain ⟨config, hconfig, rfl⟩ := Option.map_eq_some_iff.1 hn
    simp only [hear, Scheduler.require]
    cases hreg : s.scheduler.coordinator? name with
    | none => rfl
    | some c =>
      obtain ⟨k, hlive, hcon, -⟩ := hsame hreg
      simp [Scheduler.setConfiguration, hlive, hcon, hconfig]
  | schedule name =>
    cases hn
    cases hsch : s.backend.store.schedule? name with
    | none => rfl
    | some schedule =>
      simp only [hear, Scheduler.require]
      cases hreg : s.scheduler.coordinator? name with
      | none => rfl
      | some c =>
        obtain ⟨k, hlive, -, hschedule, -⟩ := hsame hreg
        simp [Scheduler.setSchedule, hlive, hschedule, hsch]
  | added name =>
    obtain ⟨config, hconfig, rfl⟩ := Option.map_eq_some_iff.1 hn
    -- what is stored is known here, so no coordinator is made
    obtain ⟨c, hreg⟩ : ∃ c, s.scheduler.coordinator? name = some c := by
      have hlisted := Scheduler.Mirrors.listed hm name
      rw [Store.find?_list_eq_some.2 ⟨by rw [hconfig]; rfl, rfl⟩] at hlisted
      obtain ⟨k, hk⟩ := Option.isSome_iff_exists.1 (hlisted.1 rfl)
      obtain ⟨c, hreg, -⟩ := Scheduler.known?_eq_some.1 hk
      exact ⟨c, hreg⟩
    obtain ⟨k, hlive, hcon, hschedule, -⟩ := hsame hreg
    simp only [hear, Scheduler.coordinatorFor, hreg, Scheduler.setConfiguration, hlive, hcon, hconfig,
      if_true, Backend.readSchedule, hb.call]
    cases hsch : s.backend.store.schedule? name with
    | none => rfl
    | some schedule => simp [Scheduler.setSchedule, hlive, hschedule, hsch]

/-- Telling such changes one after the other changes nothing in the process. -/
theorem tell_mirrored (changes : List Change) (summary : ChangeSummary) (s : Site)
    (hr : s.scheduler.Registered) (hb : s.backend.Reliable) (hm : s.Mirrors)
    (hgone : ∀ name, .removed name ∈ changes → s.backend.store.configuration? name = none) :
    (Detector.tell (listener s.clock) changes summary s.scheduler s.backend).2.1 = s.scheduler := by
  induction changes generalizing s summary with
  | nil => rfl
  | cons c rest ih =>
    obtain ⟨hval, hrel, hstore⟩ := c.read_reliable hb
    have hrest : ∀ name, .removed name ∈ rest → s.backend.store.configuration? name = none :=
      fun name hmem => hgone name (List.mem_cons_of_mem c hmem)
    simp only [Detector.tell]
    generalize c.read s.backend = read at hval hrel hstore ⊢
    obtain ⟨result, b⟩ := read
    dsimp only at hval hrel hstore
    rw [← hstore] at hrest
    have hm' : Site.Mirrors { s with backend := b } := by
      rw [Mirrors, hstore]
      exact hm
    cases htold : c.told? s.backend.store with
    | none =>
      rw [htold] at hval
      subst hval
      exact ih summary { s with backend := b } hr hrel hm' hrest
    | some n =>
      rw [htold] at hval
      subst hval
      rw [← hstore] at htold
      have hsame := hear_mirrored (s := { s with backend := b }) hr hrel hm' htold fun name hc => by
        rw [hstore]
        exact hgone name (hc ▸ List.mem_cons_self)
      obtain ⟨hrel', hstore'⟩ := backend_hear (s := { s with backend := b }) hrel n
      have htell := ih (summary.count n) { s with backend := (hear n { s with backend := b }).2.backend }
        hr hrel' (by rw [Mirrors, hstore']; exact hm') (by rw [hstore']; exact hrest)
      dsimp only [listener] at htell ⊢
      rw [hsame]
      exact htell

/-- A detection of a process that mirrors its store succeeds, leaves the store as it is and changes
nothing in the process but that the listing becomes the inventory. -/
theorem detect_mirrored (hr : s.scheduler.Registered) (hb : s.backend.Reliable) (hm : s.Mirrors) :
    (∃ summary, s.detect.1 = .ok summary) ∧ s.detect.2.backend.Reliable ∧
      s.detect.2.backend.store = s.backend.store ∧
      s.detect.2.scheduler = { s.scheduler with inventory := s.backend.store.list } := by
  obtain ⟨hok, hrel, hstore, hinv, -⟩ := terms?_detect hr hb
  refine ⟨hok, hrel, hstore, ?_⟩
  have hlist : s.backend.list = (.ok s.backend.store.list, s.backend.used .listTasks) :=
    hb.call .listTasks (·.list) id
  have htell := tell_mirrored
    (Change.between s.scheduler.inventory.entries s.backend.store.list.entries) {}
    { s with backend := s.backend.used .listTasks } hr (hb.used .listTasks) hm fun name hmem =>
      Store.find?_list_eq_none.1 (Change.find?_of_removed hmem)
  simp only [detect, Detector.detect, hlist] at hinv ⊢
  generalize Detector.tell (listener s.clock)
    (Change.between s.scheduler.inventory.entries s.backend.store.list.entries) {} s.scheduler
    (s.backend.used .listTasks) = told at htell hinv ⊢
  obtain ⟨result, scheduler, b⟩ := told
  dsimp only at htell
  subst htell
  cases result with
  | ok summary => rfl
  | error e =>
    dsimp only at hinv ⊢
    rw [← hinv]

end Site

end BatchTraversal
