import BatchTraversal.Proofs.Detection.Inspections
import BatchTraversal.Proofs.Process.Noticing
import BatchTraversal.Proofs.World.Runs

/-!
# Checkpoints that a process has saved itself

A process that has a store to itself looks for changes in it while its batches save checkpoints there. At
every moment it has either seen the stored checkpoint of a connector, or its detector has nothing to tell of
that checkpoint (`Inspector.Abreast`). So when a checkpoint is told, the process has seen the one that is
stored at this moment, and what it is told is nothing new to it if it is that one still
(`Inspector.checkpoint_told`). A batch may have saved another one since the detector has read the store,
though. Then the process takes its own, earlier checkpoint for a foreign one
(`Inspector.own_checkpoint_told`).
-/

namespace BatchTraversal

/-- A walk that finds a checkpoint changed has found two stamps that differ. -/
theorem Change.stamps_of_checkpoint {old new : NameMap TaskStamps} {name : String}
    (h : checkpoint name ∈ between old.entries new.entries) : ∃ before after,
      old.find? name = some before ∧ new.find? name = some after ∧
        before.checkpoint ≠ after.checkpoint := by
  have habout := mem_about h
  rw [Change.name] at habout
  cases ho : old.find? name with
  | none => cases hn : new.find? name <;> simp [ho, hn, about] at habout
  | some before =>
    cases hn : new.find? name with
    | none => simp [ho, hn, about] at habout
    | some after => exact ⟨before, after, rfl, rfl, by simpa [ho, hn, about, facets] using habout⟩

namespace Site

variable {s s' : Site} {t : TaskId} {name : String}

/-- Whether every connector that a process knows has its configuration stored. -/
def Grounded (s : Site) : Prop := ∀ name, (s.scheduler.terms? name).isSome →
  (s.backend.store.configuration? name).isSome

/-- A turn leaves the stored configurations as they are. -/
theorem Turn.configuration? (h : Turn t s s') (hb : s.backend.Reliable) (name : String) :
    s'.backend.store.configuration? name = s.backend.store.configuration? name := by
  rcases h.store_cases hb with hs | ⟨-, k, -, next, -, -, -, -, hs⟩ | ⟨other, schedule, hs⟩ <;> rw [hs]
  · exact Store.configuration?_storeCheckpoint ..
  · exact Store.configuration?_storeSchedule ..

theorem Sets.grounded {k : Option Coordinator} {st : Store} (hs : s.Sets name k st s') (hg : s.Grounded)
    (hothers : ∀ other, other ≠ name → st.task other = s.backend.store.task other)
    (hname : k.isSome → (st.configuration? name).isSome) : s'.Grounded := by
  intro other hsome
  rw [Scheduler.terms?_eq_known?, Option.isSome_map, hs.known] at hsome
  rw [hs.store]
  by_cases ho : other = name
  · rw [if_pos ho] at hsome
    rw [ho]
    exact hname hsome
  · rw [if_neg ho] at hsome
    rw [Store.configuration?, hothers other ho]
    exact hg other (by rwa [Scheduler.terms?_eq_known?, Option.isSome_map])

/-- A call that makes a connector known stores its configuration. -/
theorem call_grounded (hr : s.scheduler.Registered) (he : s.scheduler.Enrolled) (hb : s.backend.Reliable)
    (hg : s.Grounded) {a : Action} (ha : a.IsCall) : (s.act a).Grounded := by
  have hknown {name : String} {k : Coordinator} (hk : s.scheduler.known? name = some k) :
      (s.backend.store.configuration? name).isSome :=
    hg name (by rw [Scheduler.terms?_eq_known?, hk]; rfl)
  cases a with
  | setConfig name config =>
    rcases setConfig_cases hr he hb name config with ⟨e, hs⟩ | ⟨-, ⟨-, hs⟩ | ⟨k, -, ⟨-, hs⟩ | ⟨-, hs⟩⟩⟩
    · rw [act, hs]
      exact hg
    · refine hs.grounded hg (fun other ho => Store.task_write_of_ne _ _ ho) fun _ => ?_
      rw [Store.configuration?_storeConfiguration, if_pos rfl]
      rfl
    · refine hs.grounded hg (fun other ho => Store.task_write_of_ne _ _ ho) fun _ => ?_
      rw [Store.configuration?_storeConfiguration, if_pos rfl]
      rfl
    · refine hs.grounded hg (fun other ho =>
        (Store.task_write_of_ne _ _ ho).trans (Store.task_write_of_ne _ _ ho)) fun _ => ?_
      rw [Store.configuration?_storeCheckpoint, Store.configuration?_storeConfiguration, if_pos rfl]
      rfl
  | setSchedule name text =>
    rcases setSchedule_call_cases hr hb name text with ⟨e, hs⟩ | ⟨schedule, k, -, hk, -, hs⟩
    · rw [act, hs]
      exact hg
    · refine hs.grounded hg (fun other ho => Store.task_write_of_ne _ _ ho) fun _ => ?_
      rw [Store.configuration?_storeSchedule]
      exact hknown hk
  | remove name =>
    rcases removeConnector_cases hr hb name with ⟨e, hs⟩ | ⟨-, hs⟩
    · rw [act, hs]
      exact hg
    · refine hs.grounded hg (fun other ho => ?_) fun h => absurd h Bool.false_ne_true
      rw [Store.task_removeTask, if_neg ho]
  | restart name =>
    rcases restartConnector_cases hr hb name with ⟨-, e, hs⟩ | ⟨k, hk, -, hs⟩
    · rw [act, hs]
      exact hg
    · refine hs.grounded hg (fun other ho => Store.task_write_of_ne _ _ ho) fun _ => ?_
      rw [Store.configuration?_storeCheckpoint]
      exact hknown hk
  | _ => cases ha

/-- Only being told of an addition makes a connector known. -/
theorem hear_grounded (hr : s.scheduler.Registered) (hb : s.backend.Reliable) (hg : s.Grounded)
    {n : Notification} (hadded : ∀ name config, n = .added name config →
      (s.backend.store.configuration? name).isSome) : (hear n s).2.Grounded := by
  intro name hsome
  rw [terms?_hear hr hb] at hsome
  rw [(backend_hear hb n).2]
  split at hsome
  · next he =>
    cases n with
    | added other config =>
      obtain rfl : name = other := he
      exact hadded name config rfl
    | removed => cases hsome
    | checkpointChanged => exact hg name hsome
    | configurationChanged other config =>
      rw [Notification.effect, Option.isSome_map] at hsome
      exact hg name hsome
    | scheduleChanged other schedule =>
      cases schedule with
      | none => exact hg name hsome
      | some schedule =>
        rw [Notification.effect, Option.isSome_map] at hsome
        exact hg name hsome
  · exact hg name hsome

end Site

namespace Inspector

/-- Whether the detector has nothing to tell of the checkpoint of a connector, and would find nothing if it
began a detection. -/
structure Calm (y : Inspector) (name : String) : Prop where
  listed : ∀ stamps, y.latest.find? name = some stamps →
    stamps.checkpoint = (y.site.backend.store.task name).checkpoint.map (·.stamp)
  left : .checkpoint name ∉ y.left
  held : ∀ checkpoint, y.held? ≠ some (.checkpointChanged name checkpoint)

/-- What holds at every moment of a process that has its store to itself. -/
structure Abreast (y : Inspector) : Prop where
  attended : y.site.scheduler.Attended
  reliable : y.site.backend.Reliable
  grounded : y.site.Grounded
  /-- Only connectors that are not stored are told to be gone. -/
  removed : ∀ name, .removed name ∈ y.left ∨ y.held? = some (.removed name) →
    y.site.backend.store.configuration? name = none
  /-- Only connectors that are stored are told to have been added. -/
  added : ∀ name config, y.held? = some (.added name config) →
    (y.site.backend.store.configuration? name).isSome
  seen : ∀ name, y.site.scheduler.seen? name = y.site.backend.store.checkpoint? name ∨ y.Calm name

variable {y : Inspector} {s s' : Site} {i : Option Inspection} {events : List Event}
  {listing : NameMap TaskStamps} {left : List Change} {name : String}

/-! ## Batches and calls -/

theorem Calm.congr (h : Calm ⟨s, i⟩ name) (hinv : s'.scheduler.inventory = s.scheduler.inventory)
    (hstored : (s'.backend.store.task name).checkpoint = (s.backend.store.task name).checkpoint) :
    Calm ⟨s', i⟩ name := by
  refine ⟨fun stamps hs => ?_, h.left, h.held⟩
  rw [hstored]
  refine h.listed stamps ?_
  rw [← hs, latest, latest, hinv]

/-- What a process notices keeps it abreast, as long as it leaves the configurations. -/
theorem Abreast.notices (h : Abreast ⟨s, i⟩) (ha : s'.scheduler.Attended) (hb : s'.backend.Reliable)
    (hg : s'.Grounded) (hinv : s'.scheduler.inventory = s.scheduler.inventory) (hn : s.Notices s')
    (hconfig : i = none ∨ ∀ name,
      s'.backend.store.configuration? name = s.backend.store.configuration? name) :
    Abreast ⟨s', i⟩ := by
  refine ⟨ha, hb, hg, fun name hrem => ?_, fun name config hadd => ?_, fun name => ?_⟩
  · rcases hconfig with rfl | hconfig
    · rcases hrem with hrem | hrem <;> cases hrem
    · exact (hconfig name).trans (h.removed name hrem)
  · rcases hconfig with rfl | hconfig
    · cases hadd
    · rw [hconfig name]
      exact h.added name config hadd
  · rcases hn name with he | ⟨hseen, hstored⟩
    · exact .inl he
    · refine (h.seen name).imp (fun he => hseen.trans (he.trans ?_)) fun hc => hc.congr hinv hstored
      rw [Store.checkpoint?, Store.checkpoint?, hstored]

theorem Abreast.upkeep (h : Abreast ⟨s, i⟩) (hs : Site.Upkeep s s') : Abreast ⟨s', i⟩ := by
  refine h.notices (hs.attended h.attended) (hs.backend ▸ h.reliable) (fun name hsome => ?_)
    hs.inventory hs.notices (.inr fun name => by rw [hs.backend])
  rw [hs.backend]
  exact h.grounded name (hs.terms? name ▸ hsome)

theorem Abreast.turn {t : TaskId} (h : Abreast ⟨s, i⟩) (hs : Site.Turn t s s') : Abreast ⟨s', i⟩ := by
  refine h.notices (hs.attended h.attended) (hs.becomes.reliable h.reliable) (fun name hsome => ?_)
    hs.revises.1 (hs.notices h.attended h.reliable) (.inr (hs.configuration? h.reliable))
  obtain ⟨v', hv'⟩ := Option.isSome_iff_exists.1 hsome
  obtain ⟨v, hv, -⟩ := hs.revises.2 name v' hv'
  rw [hs.configuration? h.reliable]
  exact h.grounded name (by rw [hv]; rfl)

/-- A call between detections keeps a process abreast. -/
theorem Abreast.call (h : Abreast ⟨s, none⟩) (hp : s.scheduler.Paused) {a : Action} (ha : a.IsCall) :
    Abreast ⟨s.act a, none⟩ := by
  have hr := h.attended.registered
  have hedits := Site.call_edits hr ha
  exact h.notices (Site.Chores.attended hedits.chores h.attended hp)
    (Site.Moves.reliable hedits.chores.moves h.reliable)
    (Site.call_grounded hr h.attended.enrolled h.reliable h.grounded ha)
    (Site.Chores.inventory hedits.chores hr)
    (Site.call_notices hr h.attended.enrolled h.reliable ha) (.inl rfl)

theorem Abreast.act (h : Abreast ⟨s, i⟩) {a : Action} (ha : (Inspector.mk s i).Allows (.act a)) :
    Abreast ⟨s.act a, i⟩ := by
  rcases s.act_kinds a with rfl | hcall | hup | ⟨t, hturns⟩
  · exact absurd rfl ha.1
  · obtain ⟨rfl, hp⟩ := ha.2 hcall
    exact h.call hp hcall
  · generalize s.act a = s' at hup
    induction hup with
    | refl => exact h
    | tail _ hs ih => exact ih.upkeep hs
  · generalize s.act a = s' at hturns
    induction hturns with
    | refl => exact h
    | tail _ hs ih => exact ih.turn hs

/-! ## Steps of the detector -/

/-- A connector that is calm as listed stays so when the store is listed again. -/
theorem Abreast.listed (h : Abreast ⟨s, none⟩) : Abreast (proceed ⟨s, none⟩) := by
  have hlist : s.backend.list = (.ok s.backend.store.list, s.backend.used .listTasks) :=
    h.reliable.call .listTasks (·.list) id
  rw [proceed_listing, hlist]
  refine ⟨h.attended, h.reliable.used .listTasks, h.grounded, fun name hrem => ?_, nofun,
    fun name => (h.seen name).imp_right fun hc => ⟨fun stamps hs => ?_, fun hmem => ?_, nofun⟩⟩
  · exact Store.find?_list_eq_none.1 (Change.find?_of_removed (hrem.resolve_right nofun))
  · obtain ⟨-, rfl⟩ := Store.find?_list_eq_some.1 hs
    rfl
  · obtain ⟨before, after, hold, hnew, hne⟩ := Change.stamps_of_checkpoint hmem
    obtain ⟨-, rfl⟩ := Store.find?_list_eq_some.1 hnew
    exact hne (hc.listed before hold)

/-- The value that is read of a change is stored. -/
theorem Abreast.read {c : Change} (h : Abreast ⟨s, some ⟨listing, c :: left, none⟩⟩) :
    Abreast (proceed ⟨s, some ⟨listing, c :: left, none⟩⟩) := by
  obtain ⟨hval, hrel, hstore⟩ := c.read_reliable h.reliable
  rw [proceed_reading]
  generalize c.read s.backend = read at hval hrel hstore ⊢
  obtain ⟨result, backend⟩ := read
  dsimp only at hval hrel hstore
  subst hval
  refine ⟨h.attended, hrel, fun name => ?_, fun name hrem => ?_, fun name config hadd => ?_,
    fun name => ?_⟩
  · rw [hstore]
    exact h.grounded name
  · rw [hstore]
    refine h.removed name (.inl (hrem.elim (List.mem_cons_of_mem c) fun htold => ?_))
    exact Change.told?_eq_removed.1 htold ▸ List.mem_cons_self
  · rw [hstore, (Change.told?_eq_added.1 hadd).2]
    rfl
  · rw [hstore]
    refine (h.seen name).imp_right fun hc => ⟨?_, fun hmem => hc.left (List.mem_cons_of_mem c hmem), ?_⟩
    · rw [hstore]
      exact hc.listed
    · exact fun v htold =>
        hc.left ((Change.told?_eq_checkpointChanged.1 htold).1 ▸ List.mem_cons_self)

/-- What is told changes neither the store nor what was seen of it. -/
theorem Abreast.told {n : Notification} (h : Abreast ⟨s, some ⟨listing, left, some n⟩⟩) :
    Abreast (proceed ⟨s, some ⟨listing, left, some n⟩⟩) := by
  have hr := h.attended.registered
  obtain ⟨hrel, hstore⟩ := Site.backend_hear h.reliable n
  have hheeds : s.scheduler.Heeds (Site.hear n s).2.scheduler := by
    refine Site.hear_heeds hr fun name hn => ?_
    by_contra hreg
    have hsome := h.grounded name (hr.isSome_terms?.2 (Option.isSome_iff_ne_none.2 hreg))
    rw [h.removed name (.inr (congrArg some hn))] at hsome
    cases hsome
  rw [proceed_telling]
  refine ⟨hheeds.attended h.attended, hrel, ?_, fun name hrem => ?_, nofun, fun name => ?_⟩
  · exact Site.hear_grounded hr h.reliable h.grounded fun name config hn =>
      h.added name config (congrArg some hn)
  · rw [hstore]
    exact h.removed name (.inl (hrem.resolve_right nofun))
  · rw [hstore, hheeds.seen? h.attended]
    refine (h.seen name).imp_right fun hc => ⟨?_, hc.left, nofun⟩
    rw [hstore]
    exact hc.listed

/-- The listing becomes the inventory. -/
theorem Abreast.done (h : Abreast ⟨s, some ⟨listing, [], none⟩⟩) :
    Abreast (proceed ⟨s, some ⟨listing, [], none⟩⟩) := by
  rw [proceed_done]
  refine ⟨⟨h.attended.flight.congr rfl rfl, h.attended.registered, ?_, h.attended.saver⟩, h.reliable,
    h.grounded, nofun, nofun, fun name => (h.seen name).imp_right fun hc => ⟨hc.listed, nofun, nofun⟩⟩
  exact ⟨h.attended.enrolled.registered, h.attended.enrolled.configured⟩

theorem Abreast.step (h : y.Abreast) {e : Event} (he : y.Allows e) : (y.step e).Abreast := by
  obtain ⟨s, i⟩ := y
  cases e with
  | act a => exact h.act he
  | setClock clock => exact ⟨h.attended, h.reliable, h.grounded, h.removed, h.added, fun name =>
      (h.seen name).imp_right fun hc => ⟨hc.listed, hc.left, hc.held⟩⟩
  | proceed =>
    obtain _ | ⟨listing, left, _ | n⟩ := i
    · exact h.listed
    · cases left with
      | nil => exact h.done
      | cons c left => exact h.read
    · exact h.told

theorem Abreast.run (h : y.Abreast) (hev : y.Allowed events) : (y.run events).Abreast := by
  induction events generalizing y with
  | nil => exact h
  | cons e rest ih => exact ih (h.step hev.1) hev.2

theorem abreast_start (hs : ∃ settings pool kinds, Scheduler.start settings pool kinds = .ok s.scheduler)
    (hb : s.backend.Reliable) : Abreast ⟨s, none⟩ := by
  have ho : s.scheduler.Orderly := let ⟨_, _, _, h⟩ := hs; Scheduler.orderly_start h
  refine ⟨⟨ho.flight, ho.registered, Scheduler.enrolled_start hs, fun t ⟨count, next, hst⟩ => ?_⟩, hb,
    fun name hsome => ?_, nofun, nofun, fun name => .inr ⟨fun stamps hi => ?_, nofun, nofun⟩⟩
  · rw [(Scheduler.journal_start hs).2 t] at hst
    cases hst
  · obtain ⟨settings, pool, kinds, hs⟩ := hs
    simp only [(Scheduler.start_eq_ok hs).2] at hsome
    cases hsome
  · rw [latest, Option.elim_none, Scheduler.inventory_start hs] at hi
    cases hi

/-! ## Checkpoints that are told -/

/-- What the telling of a checkpoint does to a process that has seen the stored one. -/
theorem Abreast.tell_checkpoint (h : y.Abreast) {v : Option String}
    (hheld : y.held? = some (.checkpointChanged name v)) :
    (y.site.backend.store.checkpoint? name = v → y.proceed.site.scheduler = y.site.scheduler) ∧
    (y.site.backend.store.checkpoint? name ≠ v → ∀ c, y.site.scheduler.coordinator? name = some c →
      y.proceed.site.scheduler = y.site.scheduler.interrupt c Amendment.dropTraverser.apply) := by
  have hseen := (h.seen name).resolve_right fun hc => hc.held v hheld
  rw [proceed_of_held hheld, ← hseen]
  simp only [Site.hear, Scheduler.require]
  cases hreg : y.site.scheduler.coordinator? name with
  | none => exact ⟨fun _ => rfl, fun _ c hc => absurd hc.symm (Option.some_ne_none c)⟩
  | some c =>
    have htold := Scheduler.checkpointChanged_cases h.attended.registered hreg v
    dsimp only
    rw [htold]
    exact ⟨fun he => if_pos he, fun hne d hd => by cases hd; exact if_neg hne⟩

/-- A process that has just started over a store that works, and has the store to itself, looks for changes
again and again, while its batches and all else in it go on as they like. Its administrative calls come
between detections. A checkpoint that it is about to be told was read by the last step of the detection,
and no call has come since. If that checkpoint is stored still, the process takes no notice of it. If a
batch has saved another one meanwhile, the connector is interrupted and loses its traverser. -/
theorem checkpoint_told
    (hs : ∃ settings pool kinds, Scheduler.start settings pool kinds = .ok s.scheduler)
    (hb : s.backend.Reliable) (hev : (Inspector.mk s none).Allowed events) {v : Option String}
    (hheld : ((Inspector.mk s none).run events).held? = some (.checkpointChanged name v)) :
    let stored (y : Inspector) := y.site.backend.store.checkpoint? name
    let y := (Inspector.mk s none).run events
    (∃ before after, events = before ++ .proceed :: after ∧
      (∀ e ∈ after, e ≠ .proceed ∧ ∀ a, e = .act a → ¬ a.IsCall) ∧
      stored ((Inspector.mk s none).run before) = v) ∧
    (stored y = v → y.proceed.site.scheduler = y.site.scheduler) ∧
    (stored y ≠ v → ∀ c, y.site.scheduler.coordinator? name = some c →
      y.proceed.site.scheduler = y.site.scheduler.interrupt c Amendment.dropTraverser.apply) :=
  ⟨held_read hev hheld, ((abreast_start hs hb).run hev).tell_checkpoint hheld⟩

/-- What comes by itself, as a step of the detection, in a batch or as upkeep, may come at any time. -/
theorem allowed_of_free (h : ∀ e ∈ events, ∀ a, e = .act a → a ≠ .detect ∧ ¬ a.IsCall) :
    y.Allowed events := by
  induction events generalizing y with
  | nil => trivial
  | cons e rest ih =>
    refine ⟨?_, ih fun e' he' => h e' (List.mem_cons_of_mem e he')⟩
    cases e with
    | proceed | setClock => trivial
    | act a =>
      obtain ⟨hne, hcall⟩ := h _ List.mem_cons_self a rfl
      exact ⟨hne, fun hc => absurd hc hcall⟩

/-- A process with one worker that knows no connector yet, over an empty store. -/
def solo : Inspector := ⟨⟨World.soloProcess, {}, { now := ⟨0⟩ }⟩, none⟩

theorem started_solo :
    ∃ settings pool kinds, Scheduler.start settings pool kinds = .ok solo.site.scheduler :=
  World.initial_solo _ List.mem_cons_self

theorem reliable_solo : solo.site.backend.Reliable := fun _ h => nomatch h

/-- A connector is configured and scheduled. -/
def configured : List Event :=
  [.act (.setConfig "a" { kind := "any" }), .act (.setSchedule "a" "a:60:0:0-24")]

/-- A detection, and after it the first batch of the connector, which saves a checkpoint. -/
def firstSaved : List Event :=
  [.proceed, .proceed, .proceed, .proceed, .act (.pass [0]), .act (.take 0),
    .act (.conclude 0 (.page ⟨3, some "1"⟩))]

/-- The second batch of the connector saves a checkpoint, and the third one is under way. -/
def secondSaved : List Event :=
  [.act (.pass [0]), .act (.take 0), .act (.conclude 1 (.page ⟨3, some "2"⟩)), .act (.pass [0]),
    .act (.take 0)]

theorem allowed_solo (h : ∀ e ∈ events, ∀ a, e = .act a → a ≠ .detect ∧ ¬ a.IsCall) :
    solo.Allowed (configured ++ events) := by
  have hr := (abreast_start started_solo reliable_solo).attended.registered
  have hp : solo.site.scheduler.Paused := fun t _ _ hst =>
    nomatch ((Scheduler.journal_start started_solo).2 t).symm.trans hst
  exact ⟨⟨nofun, fun _ => ⟨rfl, hp⟩⟩, ⟨nofun, fun _ => ⟨rfl, Site.act_paused hr hp trivial⟩⟩,
    allowed_of_free h⟩

/-- The second batch saves its checkpoint after the store was listed, and before it is read. -/
def readAfter : List Event := configured ++ (firstSaved ++ .proceed :: secondSaved ++ [.proceed])

/-- The checkpoint that is read is the one last saved here, so telling it leaves the third batch in flight. -/
theorem checkpoint_told_own : solo.Allowed readAfter ∧
    (solo.run readAfter).held? = some (.checkpointChanged "a" (some "2")) ∧
    ((solo.run readAfter).site.scheduler.coordinators[0]?).map (·.handle) = some (some 2) ∧
    (solo.run readAfter).proceed.site.scheduler = (solo.run readAfter).site.scheduler := by
  have hev : solo.Allowed readAfter := allowed_solo (by simp [firstSaved, secondSaved, Action.IsCall])
  have hheld : (solo.run readAfter).held? = some (.checkpointChanged "a" (some "2")) := by decide +kernel
  exact ⟨hev, hheld, by decide +kernel,
    (checkpoint_told started_solo reliable_solo hev hheld).2.1 (by decide +kernel)⟩

/-- The second batch saves its checkpoint after the store was read. -/
def readBefore : List Event := configured ++ (firstSaved ++ .proceed :: .proceed :: secondSaved)

/-- The third batch is interrupted because of the checkpoint that the first one has saved. -/
theorem own_checkpoint_told : ¬ ∀ (s : Site) (events : List Event) (name : String) (v : Option String),
    (∃ settings pool kinds, Scheduler.start settings pool kinds = .ok s.scheduler) →
    s.backend.Reliable → (Inspector.mk s none).Allowed events →
    ((Inspector.mk s none).run events).held? = some (.checkpointChanged name v) →
    ∀ c : CoordinatorId,
      (((Inspector.mk s none).run events).proceed.site.scheduler.coordinators[c]?).map
        (fun k => (k.handle, k.traverser)) =
      (((Inspector.mk s none).run events).site.scheduler.coordinators[c]?).map
        fun k => (k.handle, k.traverser) := by
  intro h
  have hev : solo.Allowed readBefore := allowed_solo (by simp [firstSaved, secondSaved, Action.IsCall])
  have hheld : (solo.run readBefore).held? = some (.checkpointChanged "a" (some "1")) := by decide +kernel
  have hsame := h solo.site readBefore "a" (some "1") started_solo reliable_solo hev hheld 0
  revert hsame
  decide +kernel

end Inspector

end BatchTraversal
