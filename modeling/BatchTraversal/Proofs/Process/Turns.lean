import BatchTraversal.Proofs.Process.Actions
import BatchTraversal.Proofs.Process.Advance

/-!
# The turns of a batch

What a worker does with a batch consists of the turns of that batch (`Site.Turn`): it is taken from
the queue, it goes on in its run by one action, its adapter answers, and at the end it reports to its
coordinator and leaves the worker. `Site.advance_cases` reads the turns off the definition. Every
action of a process is a detection, an administrative call, a sequence of upkeep or one of turns of one
batch (`Site.act_kinds`), and every one is a sequence of moves, chores and turns (`Site.act_moves`).
-/

namespace BatchTraversal

/-- Whether a run has come neither to its end nor to a crash. -/
def RunStage.Underway (stage : RunStage) : Prop := (∀ code, stage ≠ .coded code) ∧ stage ≠ .crashed

/-- A run leaves the cell it works on with its connector. -/
theorem RunStage.connector_advance (token : TokenId) (tripped : Bool) (w : Workbench)
    (stage : RunStage) : (stage.advance token tripped w).2.1.cell.connector = w.cell.connector := by
  have hread := w.cell.connector_read w.backend
  have hwrite (next : String) := w.cell.connector_write (some next) w.backend
  have h := stage.advances token tripped w
  generalize stage.advance token tripped w = a at h ⊢
  cases h with
  | misread he | read he =>
    rw [he] at hread
    exact hread
  | @missave _ next _ _ _ he | @save _ next _ _ he =>
    have hname := hwrite next
    rw [he] at hname
    exact hname
  | _ => rfl

/-- The batch that an occurrence is about. -/
def Occurrence.task? : Occurrence → Option TaskId
  | instantiated .. => none
  | submitted t _ | called t .. | answered t .. | saved t .. | folded t .. | delivered t .. => some t

/-- A schedule is to be disabled only if there is no delay. -/
theorem Throttle.delay_of_disable {throttle : Throttle} {name : String} {delay : Option Duration}
    {now : Instant} (h : (throttle.finish name delay now).1 = .disableSchedule) : delay = none := by
  cases delay with
  | none => rfl
  | some d => cases h

/-- There is no delay only if the schedule turns polling off. -/
theorem Scheduler.schedule_of_delayOf {p : Scheduler} {k : Coordinator} {policy : DelayPolicy}
    (h : p.delayOf k policy = none) :
    ∃ schedule, k.schedule = some schedule ∧ schedule.retryDelay = .pollingDisabled := by
  cases policy with
  | immediate | error => cases h
  | poll =>
    simp only [delayOf] at h
    cases hs : k.schedule with
    | none =>
      rw [hs] at h
      cases h
    | some schedule =>
      rw [hs] at h
      refine ⟨schedule, rfl, ?_⟩
      cases hd : schedule.retryDelay with
      | millis ms => simp [hd, RetryDelay.duration?] at h
      | pollingDisabled => rfl

/-- A change of the stage of one batch spares the others. -/
theorem Scheduler.spares_withStage {t u : TaskId} (p : Scheduler) (stage : RunStage) (hne : t ≠ u) :
    p.pool.Spares t (p.withStage u stage).pool :=
  Pool.spares_modifyPayload p.pool (fun b => { b with stage }) hne

/-- A coordinator that settled its batch: it has none in flight, and a schedule that was disabled
replaces its own. -/
def Coordinator.settled (disabled : Option Schedule) (k : Coordinator) : Coordinator :=
  { k with handle := none, schedule := disabled.or k.schedule }

/-- Whether an action is an administrative call. -/
def Action.IsCall : Action → Prop
  | setConfig .. | setSchedule .. | remove _ | restart _ => True
  | _ => False

/-- Whether neither an administrative call nor a detection nor a batch has a part in an action. -/
def Action.IsUpkeep : Action → Prop
  | pass _ | askPhase _ | start .. | tick _ | scan | revive _ | shutDown _ => True
  | _ => False

namespace Site

/-- The process after the next action of a run that is under way on a workbench. -/
def moved (s : Site) (t : TaskId) (b : Batch) (w : Workbench) : Site :=
  let a := b.stage.advance t (s.scheduler.pool.isTripped t) w
  { s with
    backend := a.2.1.backend
    scheduler :=
      { s.scheduler with
        coordinators := s.scheduler.coordinators.modify b.coordinator fun k =>
          { k with cell := a.2.1.cell }
        traversers := s.scheduler.traversers.set b.traverser a.2.1.traverser
        pool := s.scheduler.pool.modifyTask t fun task =>
          { task with payload := { task.payload with stage := a.1 } }
        journal := s.scheduler.journal ++
          (a.2.2.map (occurrenceOf t b a.2.1.traverser.connector)).toList } }

/-- The process once the items of an ended batch were counted. -/
def counted (s : Site) (t : TaskId) (k : Coordinator) (count : Nat) : Site :=
  s.withScheduler
    ((s.scheduler.withThrottle (s.scheduler.throttle.fold k.name count s.now).2).note
      (.folded t k.name count))

/-- One action of a batch or of its worker. -/
inductive Turn (t : TaskId) (s : Site) : Site → Prop
  /-- A worker takes the batch from the queue. -/
  | take {w : WorkerId} {pool : Pool Batch} (h : s.scheduler.pool.take? w = some (t, pool)) :
      Turn t s (s.withScheduler { s.scheduler with pool })
  /-- The run goes on by one action. -/
  | move {b : Batch} {k : Coordinator} {r : Traverser} (hx : s.scheduler.pool.isExecuting t)
      (hb : s.scheduler.batch? t = some b) (hst : b.stage.Underway)
      (hk : s.scheduler.coordinators[b.coordinator]? = some k)
      (hr : s.scheduler.traversers[b.traverser]? = some r) :
      Turn t s (s.moved t b { traverser := r, cell := k.cell, backend := s.backend })
  /-- The adapter answers. -/
  | answer {b : Batch} {r : Traverser} {checkpoint : Option String} (a : Answer)
      (hb : s.scheduler.batch? t = some b) (hst : b.stage = .calling checkpoint)
      (hr : s.scheduler.traversers[b.traverser]? = some r) :
      Turn t s (s.withScheduler
        ((Scheduler.withStage
          { s.scheduler with
            traversers := s.scheduler.traversers.set b.traverser
              (RunStage.answer a r (.calling checkpoint)).2 } t
          (RunStage.answer a r (.calling checkpoint)).1).note
          (.answered t (RunStage.answer a r (.calling checkpoint)).2.connector a)))
  /-- A run that crashed leaves its worker. -/
  | crash {b : Batch} (hx : s.scheduler.pool.isExecuting t) (hb : s.scheduler.batch? t = some b)
      (hst : b.stage = .crashed) : Turn t s (s.freeWorker t)
  /-- A run is over when its coordinator is not there to be told. -/
  | retire {b : Batch} {code : Int} (hx : s.scheduler.pool.isExecuting t)
      (hb : s.scheduler.batch? t = some b) (hst : b.stage = .coded code)
      (hgone : ∀ k, s.scheduler.coordinators[b.coordinator]? = some k → k.removed ∨ k.released) :
      Turn t s (s.freeWorker t)
  /-- The items of a run that is over cannot be counted. -/
  | choke {b : Batch} {k : Coordinator} {code : Int} (hx : s.scheduler.pool.isExecuting t)
      (hb : s.scheduler.batch? t = some b) (hst : b.stage = .coded code)
      (hk : s.scheduler.coordinators[b.coordinator]? = some k) (hlive : k.removed = false)
      (hfold : (s.scheduler.throttle.fold k.name (BatchResult.ofCode code).count s.now).1 = false) :
      Turn t s ((s.withScheduler (s.scheduler.withThrottle
        (s.scheduler.throttle.fold k.name (BatchResult.ofCode code).count s.now).2)).freeWorker t)
  /-- The items of a superseded batch are counted. -/
  | count {b : Batch} {k : Coordinator} {code : Int} (hx : s.scheduler.pool.isExecuting t)
      (hb : s.scheduler.batch? t = some b) (hst : b.stage = .coded code)
      (hk : s.scheduler.coordinators[b.coordinator]? = some k) (hlive : k.removed = false)
      (hfold : (s.scheduler.throttle.fold k.name (BatchResult.ofCode code).count s.now).1 = true)
      (hold : b.generation ≠ k.generation) :
      Turn t s ((s.counted t k (BatchResult.ofCode code).count).freeWorker t)
  /-- The items of the current batch are counted, and the coordinator settles it. -/
  | settle {b : Batch} {k : Coordinator} {code : Int} (hx : s.scheduler.pool.isExecuting t)
      (hb : s.scheduler.batch? t = some b) (hst : b.stage = .coded code)
      (hk : s.scheduler.coordinators[b.coordinator]? = some k) (hlive : k.removed = false)
      (hfold : (s.scheduler.throttle.fold k.name (BatchResult.ofCode code).count s.now).1 = true)
      (hcur : b.generation = k.generation) :
      Turn t s (((s.counted t k (BatchResult.ofCode code).count).settleBatch t b k
        (.ofCode code)).freeWorker t)

/-- Some turns of a batch one after the other. -/
abbrev Turns (t : TaskId) : Site → Site → Prop := Relation.ReflTransGen (Turn t)

variable {s s' : Site} {t : TaskId}

/-- A coordinator that settles a cancelled batch backs off. It settles any other one by the policy of
its result, which is delivered, and may have its schedule disabled, in the store too, if that one turns
polling off. -/
theorem settleBatch_cases (s : Site) (t : TaskId) (b : Batch) (k : Coordinator)
    (result : BatchResult) :
    (s.scheduler.pool.isTripped t ∧ s.settleBatch t b k result = s.withScheduler
      { s.scheduler with
        coordinators := s.scheduler.coordinators.modify b.coordinator (.settled none)
        throttle := (s.scheduler.throttle.finish k.name (some s.scheduler.settings.errorBackoff)
          s.now).2 }) ∨
    (s.scheduler.pool.isTripped t = false ∧ ∃ disabled : Option Schedule,
      (∀ d, disabled = some d → ∃ schedule, k.schedule = some schedule ∧
        schedule.retryDelay = .pollingDisabled ∧ d = schedule.withDisabled true) ∧
      s.settleBatch t b k result =
        { s with
          backend := disabled.elim s.backend fun d => (s.backend.storeSchedule k.name d).2
          scheduler :=
            { s.scheduler with
              coordinators := s.scheduler.coordinators.modify b.coordinator (.settled disabled)
              throttle := (s.scheduler.throttle.finish k.name
                (s.scheduler.delayOf k result.policy) s.now).2
              metrics := if b.metered then s.scheduler.metrics.record k.name result
                else s.scheduler.metrics
              journal := s.scheduler.journal ++ [.delivered t k.name result] } }) := by
  unfold settleBatch
  -- the handle is given back first, which neither the token nor the throttle depends on
  generalize hs₁ : s.withScheduler (s.scheduler.modifyCoordinator b.coordinator fun k =>
    { k with handle := none }) = s₁
  have htrip : s₁.scheduler.pool.isTripped t = s.scheduler.pool.isTripped t := by rw [← hs₁]; rfl
  cases ht : s.scheduler.pool.isTripped t with
  | true =>
    refine .inl ⟨rfl, ?_⟩
    dsimp only
    rw [if_pos (htrip.trans ht), ← hs₁]
    rfl
  | false =>
    refine .inr ⟨rfl, ?_⟩
    dsimp only
    rw [htrip, ht, if_neg Bool.false_ne_true]
    have hfin : s₁.scheduler.throttle.finish k.name (s₁.scheduler.delayOf k result.policy) s₁.now =
        s.scheduler.throttle.finish k.name (s.scheduler.delayOf k result.policy) s.now := by
      rw [← hs₁]; rfl
    have hoff (h : (s.scheduler.throttle.finish k.name (s.scheduler.delayOf k result.policy) s.now).1 =
        .disableSchedule) := Scheduler.schedule_of_delayOf (Throttle.delay_of_disable h)
    rw [hfin]
    generalize s.scheduler.throttle.finish k.name (s.scheduler.delayOf k result.policy) s.now = finished
      at hoff ⊢
    obtain ⟨action, throttle⟩ := finished
    subst hs₁
    cases action with
    | proceed => exact ⟨none, fun d hd => (by cases hd), rfl⟩
    | disableSchedule =>
      dsimp only
      obtain ⟨schedule, hsch, hpolling⟩ := hoff rfl
      unfold disableSchedule
      rw [hsch]
      refine ⟨some (schedule.withDisabled true), fun d hd => ⟨schedule, rfl, hpolling, ?_⟩, ?_⟩
      · cases hd
        rfl
      · simp only [withScheduler, Scheduler.modifyCoordinator, Scheduler.withThrottle,
          Scheduler.deliver, Scheduler.note, List.modify_modify_eq]
        rfl

/-- A turn of a batch keeps the registry. -/
theorem Turn.registered {s s' : Site} {t : TaskId} (h : Turn t s s') (hr : s.scheduler.Registered) :
    s'.scheduler.Registered := by
  cases h with
  | take | answer | crash | retire | choke | count => exact hr
  | @move b k r _ _ _ hk =>
    refine hr.modifyCoordinator b.coordinator fun l hl => ?_
    rw [hk] at hl
    cases hl
    exact ⟨RunStage.connector_advance .., rfl⟩
  | @settle b k code =>
    rcases settleBatch_cases (s.counted t k (BatchResult.ofCode code).count) t b k (.ofCode code) with
      ⟨-, he⟩ | ⟨-, disabled, -, he⟩ <;> rw [he]
    all_goals exact hr.modifyCoordinator b.coordinator fun _ _ => ⟨rfl, rfl⟩

/-- A turn of a batch spares the others. -/
theorem Turn.spares {s s' : Site} {t u : TaskId} (h : Turn u s s') (hne : t ≠ u) :
    s.scheduler.pool.Spares t s'.scheduler.pool := by
  cases h with
  | take h => exact Pool.spares_take? h hne
  | move | answer => exact Scheduler.spares_withStage s.scheduler _ hne
  | crash | retire | choke | count => exact Pool.spares_finish _ hne
  | @settle b k code =>
    rcases settleBatch_cases (s.counted u k (BatchResult.ofCode code).count) u b k (.ofCode code) with
      ⟨-, he⟩ | ⟨-, disabled, -, he⟩ <;> rw [he]
    all_goals exact Pool.spares_finish _ hne

/-- What a turn of a batch enters into the journal is about that batch. -/
theorem Turn.journal {s s' : Site} {t : TaskId} (h : Turn t s s') :
    ∃ l, s'.scheduler.journal = s.scheduler.journal ++ l ∧ ∀ o ∈ l, o.task? = some t := by
  have hsame : ∃ l, s.scheduler.journal = s.scheduler.journal ++ l ∧ ∀ o ∈ l, o.task? = some t :=
    ⟨[], (List.append_nil _).symm, fun _ ho => nomatch ho⟩
  cases h with
  | take | crash | retire | choke => exact hsame
  | move =>
    refine ⟨_, rfl, fun o ho => ?_⟩
    obtain ⟨e, -, rfl⟩ := Option.map_eq_some_iff.1 (Option.mem_toList.1 ho)
    cases e <;> rfl
  | answer | count => exact ⟨_, rfl, fun o ho => by rw [List.mem_singleton.1 ho]; rfl⟩
  | @settle b k code =>
    rcases settleBatch_cases (s.counted t k (BatchResult.ofCode code).count) t b k (.ofCode code) with
      ⟨-, he⟩ | ⟨-, disabled, -, he⟩ <;> rw [he]
    · exact ⟨_, rfl, fun o ho => by rw [List.mem_singleton.1 ho]; rfl⟩
    · refine ⟨_, List.append_assoc .., fun o ho => ?_⟩
      rcases List.mem_append.1 ho with ho | ho <;> rw [List.mem_singleton.1 ho] <;> rfl

/-- A batch that is being executed and whose run is over reports and leaves its worker. -/
theorem report_turn {b : Batch} {code : Int} (hx : s.scheduler.pool.isExecuting t)
    (hb : s.scheduler.batch? t = some b) (hst : b.stage = .coded code) :
    Turn t s ((s.report t b (.ofCode code)).freeWorker t) := by
  unfold report
  cases hk : s.scheduler.coordinators[b.coordinator]? with
  | none => exact .retire hx hb hst fun k e => by rw [hk] at e; cases e
  | some k =>
    dsimp only
    split
    · next hgone =>
      exact .retire hx hb hst fun l e => by
        rw [hk] at e
        cases e
        simpa using hgone
    · next hlive =>
      simp only [Bool.or_eq_true, not_or, Bool.not_eq_true] at hlive
      cases hf : (s.scheduler.throttle.fold k.name (BatchResult.ofCode code).count s.now).1 with
      | false =>
        have h := Turn.choke hx hb hst hk hlive.1 hf
        simpa [hf] using h
      | true =>
        simp only [Bool.not_true, Bool.false_eq_true, if_false]
        split
        · next hcur => exact .settle hx hb hst hk hlive.1 hf hcur
        · next hold => exact .count hx hb hst hk hlive.1 hf hold

/-- What a batch does next, if it can do anything. -/
theorem advance_cases (s : Site) (t : TaskId) : s.advance t = s ∨ Turn t s (s.advance t) := by
  unfold advance
  by_cases hx : s.scheduler.pool.isExecuting t
  · simp only [hx, Bool.not_true, Bool.false_eq_true, if_false]
    cases hb : s.scheduler.batch? t with
    | none => exact .inl rfl
    | some b =>
      dsimp only
      split
      · next code hst => exact .inr (report_turn hx hb hst)
      · next hst => exact .inr (.crash hx hb hst)
      · next hcode hcrash =>
        split
        · exact .inl rfl
        · next w hw =>
          right
          obtain ⟨r, k, hr, hk, rfl⟩ : ∃ r k, s.scheduler.traversers[b.traverser]? = some r ∧
              s.scheduler.coordinators[b.coordinator]? = some k ∧
              { traverser := r, cell := k.cell, backend := s.backend } = w := by
            unfold workbench? at hw
            split at hw
            · next r k hr hk => exact ⟨r, k, hr, hk, by simpa using hw⟩
            · cases hw
          have h := Turn.move hx hb ⟨fun code e => hcode code e, fun e => hcrash e⟩ hk hr
          unfold moved at h
          generalize b.stage.advance t (s.scheduler.pool.isTripped t)
            { traverser := r, cell := k.cell, backend := s.backend } = a at h ⊢
          obtain ⟨stage, w, _ | e⟩ := a
          · simp only [Option.map_none, Option.toList_none, List.append_nil] at h
            exact h
          · exact h
  · simp [hx]

theorem advance_turns (s : Site) (t : TaskId) : Turns t s (s.advance t) := by
  rcases s.advance_cases t with h | h
  · rw [h]
  · exact .single h

theorem drive_turns (s : Site) (t : TaskId) : Turns t s (s.drive t) :=
  (((s.advance_turns t).trans ((s.advance t).advance_turns t)).trans (advance_turns _ t)).trans
    (advance_turns _ t)

/-- A worker that takes a batch gives it a turn; a worker that takes none does nothing. -/
theorem take_turns (s : Site) (w : WorkerId) : s.take w = s ∨ ∃ t, Turns t s (s.take w) := by
  rw [take]
  cases h : s.scheduler.pool.take? w with
  | none => exact .inl rfl
  | some tp => exact .inr ⟨tp.1, .single (.take h)⟩

/-- A worker that takes a batch and drives it gives it some turns. -/
theorem begin_turns (s : Site) (w : WorkerId) : s.begin w = s ∨ ∃ t, Turns t s (s.begin w) := by
  unfold begin
  cases h : s.scheduler.pool.take? w with
  | none => exact .inl rfl
  | some tp =>
    obtain ⟨t, pool⟩ := tp
    have htake : Turn t s (s.take w) := by
      rw [take, h]
      exact .take h
    exact .inr ⟨t, .head htake (drive_turns (s.take w) t)⟩

theorem answer_turns (s : Site) (t : TaskId) (a : Answer) : Turns t s (s.answer t a) := by
  unfold answer
  split
  · exact .refl
  · next b hb =>
    split
    · next r checkpoint hr hst => exact .single (.answer a hb hst hr)
    · exact .refl

theorem conclude_turns (s : Site) (t : TaskId) (a : Answer) : Turns t s (s.conclude t a) :=
  (s.answer_turns t a).trans (drive_turns _ t)

/-! ## Moves -/

/-- A chore of a process or a turn of one of its batches. -/
inductive Move (s s' : Site) : Prop
  | chore (h : Chore s s')
  | turn (t : TaskId) (h : Turn t s s')

/-- Some moves one after the other. -/
abbrev Moves : Site → Site → Prop := Relation.ReflTransGen Move

theorem Chores.moves (h : Chores s s') : Moves s s' :=
  Relation.ReflTransGen.mono (fun _ _ => Move.chore) _ _ h

theorem Turns.moves (h : Turns t s s') : Moves s s' :=
  Relation.ReflTransGen.mono (fun _ _ => Move.turn t) _ _ h

theorem Moves.registered (h : Moves s s') (hr : s.scheduler.Registered) :
    s'.scheduler.Registered := by
  induction h with
  | refl => exact hr
  | tail _ h ih =>
    cases h with
    | chore h => exact h.registered ih
    | turn t h => exact h.registered ih

theorem withInventory_self (s : Site) : s.withInventory s.scheduler.inventory = s := rfl

/-- An administrative call is a sequence of edits. -/
theorem call_edits (hr : s.scheduler.Registered) {a : Action} (ha : a.IsCall) :
    Edits s (s.act a) := by
  cases a with
  | setConfig name config => exact setConfig_edits hr name config
  | setSchedule name text => exact setSchedule_call_edits hr name text
  | remove name => exact removeConnector_edits hr name
  | restart name => exact restartConnector_edits hr name
  | _ => cases ha

/-- An action in which neither a call nor a detection nor a batch has a part is a sequence of upkeep. -/
theorem upkeep_act (s : Site) {a : Action} (ha : a.IsUpkeep) : Upkeeps s (s.act a) := by
  cases a with
  | pass order => exact pass_upkeep s order
  | askPhase c => exact (phase_visits s c).upkeeps
  | start c maxItems metered => exact (startBatch_visits s c maxItems metered).upkeeps
  | tick d => exact .single (.curb (Pool.curbs_tick s.scheduler.pool d) (Pool.careful_of_tasks rfl))
  | scan =>
    exact .single (.curb (Pool.curbs_scan s.scheduler.hook s.scheduler.pool)
      (Pool.careful_scan s.scheduler.pool))
  | revive w =>
    exact .single (.curb (Pool.curbs_revive s.scheduler.pool w)
      (Pool.careful_revive s.scheduler.pool w))
  | shutDown interrupt =>
    exact .single (.curb (Pool.curbs_shutDown s.scheduler.hook s.scheduler.pool interrupt)
      (Pool.careful_shutDown s.scheduler.pool interrupt))
  | _ => cases ha

/-- Every action of a process is a detection, an administrative call, a sequence of upkeep or one of turns
of one batch. -/
theorem act_kinds (s : Site) (a : Action) :
    a = .detect ∨ a.IsCall ∨ Upkeeps s (s.act a) ∨ ∃ t, Turns t s (s.act a) := by
  have hworker {s' : Site} (h : s' = s ∨ ∃ t, Turns t s s') : Upkeeps s s' ∨ ∃ t, Turns t s s' := by
    rcases h with rfl | h
    · exact .inl .refl
    · exact .inr h
  cases a with
  | detect => exact .inl rfl
  | setConfig | setSchedule | remove | restart => exact .inr (.inl trivial)
  | pass | askPhase | start | tick | scan | revive | shutDown =>
    exact .inr (.inr (.inl (s.upkeep_act trivial)))
  | fetch w => exact .inr (.inr (hworker (s.take_turns w)))
  | take w => exact .inr (.inr (hworker (s.begin_turns w)))
  | advance t => exact .inr (.inr (.inr ⟨t, s.advance_turns t⟩))
  | answer t x => exact .inr (.inr (.inr ⟨t, s.answer_turns t x⟩))
  | proceed t => exact .inr (.inr (.inr ⟨t, s.drive_turns t⟩))
  | conclude t x => exact .inr (.inr (.inr ⟨t, s.conclude_turns t x⟩))

/-- Every action of a process but a detection is a sequence of chores or of turns of one batch. -/
theorem act_cases (hr : s.scheduler.Registered) (a : Action) :
    a = .detect ∨ Chores s (s.act a) ∨ ∃ t, Turns t s (s.act a) := by
  rcases s.act_kinds a with rfl | ha | h | h
  · exact .inl rfl
  · exact .inr (.inl (call_edits hr ha).chores)
  · exact .inr (.inl h.chores)
  · exact .inr (.inr h)

/-- Every action of a process is a sequence of moves, after which a detection replaces the
inventory. -/
theorem act_moves (hr : s.scheduler.Registered) (a : Action) :
    ∃ s' inventory, Moves s s' ∧ s.act a = s'.withInventory inventory := by
  rcases act_cases hr a with rfl | h | ⟨t, h⟩
  · obtain ⟨s', inventory, h, e⟩ := detect_edits hr
    exact ⟨s', inventory, h.chores.moves, e⟩
  · exact ⟨s.act a, _, h.moves, (withInventory_self _).symm⟩
  · exact ⟨s.act a, _, h.moves, (withInventory_self _).symm⟩

end Site

end BatchTraversal
