import BatchTraversal.Proofs.Process.Barred
import BatchTraversal.Proofs.Process.Calls
import BatchTraversal.Proofs.Detection.Evolution

/-!
# A restart and the batch that it interrupts

A restart does three things one after the other (`Site.restartStep`): the coordinator gives up its
traverser and the batch in flight, the batch is cancelled, the checkpoint is cleared. The batch goes on
meanwhile. Once it is cancelled it finds its token tripped when it looks, and saves nothing; but it may have
looked already. So a restart clears the checkpoint for good, unless the batch stands between its look at the
token and its save just then (`Restarting.Overtaken`), and then the batch saves its checkpoint over the
cleared one (`Restarting.cleared_iff`).
-/

namespace BatchTraversal

/-- How far a restart of a connector has come. -/
inductive RestartStage where
  | pending
  /-- The coordinator has given up its batch, which is still to be cancelled. -/
  | interrupted (handle : Option TaskId)
  /-- The checkpoint is still to be cleared. -/
  | cancelled
  | returned (result : Except Error Unit)
  deriving DecidableEq

namespace Site

/-- What a restart does next. -/
def restartStep (s : Site) (c : CoordinatorId) : RestartStage → RestartStage × Site
  | .pending =>
    match s.scheduler.live c with
    | .error e => (.returned (.error e), s)
    | .ok k => (.interrupted k.handle,
        s.withScheduler (s.scheduler.modifyCoordinator c
          (.interrupted fun k => { k with traverser := none })))
  | .interrupted none => (.cancelled, s)
  | .interrupted (some t) => (.cancelled, s.withScheduler (s.scheduler.cancelTask t))
  | .cancelled =>
    match s.scheduler.coordinators[c]? with
    | none => (.returned (.ok ()), s)
    | some k =>
      let (r, cell, backend) := k.cell.write none s.backend
      (.returned r,
        { s with scheduler := s.scheduler.modifyCoordinator c fun k => { k with cell }, backend })
  | .returned r => (.returned r, s)

end Site

/-- A process while one of its connectors is being restarted. -/
structure Restarting where
  stage : RestartStage
  site : Site

namespace Restarting

/-- Something that happens while a connector is being restarted: the restart goes on, a worker takes the
next batch, the batch that was in flight does what it does next, or its adapter answers. -/
inductive Move where
  | restart
  | fetch (w : WorkerId)
  | advance
  | answer (a : Answer)
  deriving DecidableEq

/-- What becomes of a process when the coordinator `c` is being restarted and `t` is its batch. -/
def step (c : CoordinatorId) (t : TaskId) (r : Restarting) : Move → Restarting
  | .restart => ⟨(r.site.restartStep c r.stage).1, (r.site.restartStep c r.stage).2⟩
  | .fetch w => { r with site := r.site.take w }
  | .advance => { r with site := r.site.advance t }
  | .answer a => { r with site := r.site.answer t a }

/-- A restart with the moves around it, one after the other. -/
def run (c : CoordinatorId) (t : TaskId) (r : Restarting) (moves : List Move) : Restarting :=
  moves.foldl (step c t) r

end Restarting

/-! ## Steps one right after the other -/

/-- The steps of a restart, one right after the other, are the restart. -/
theorem Restarting.run_restart (s : Site) (c : CoordinatorId) (t : TaskId) :
    Restarting.run c t ⟨.pending, s⟩ [.restart, .restart, .restart] =
      ⟨.returned (s.restart c).1, (s.restart c).2⟩ := by
  simp only [run, List.foldl_cons, List.foldl_nil, step, Site.restart]
  cases hlive : s.scheduler.live c with
  | error e => simp only [Site.restartStep, hlive]
  | ok k =>
    obtain ⟨hk, -⟩ := Scheduler.live_eq_ok.1 hlive
    have hk' := Scheduler.getElem?_modifyCoordinator_self hk
      (.interrupted fun k => { k with traverser := none })
    rw [Scheduler.interrupt_eq hk]
    cases hh : k.handle <;>
      simp only [Site.restartStep, hlive, hh, hk', Site.withScheduler, Scheduler.cancelTask, Option.elim] <;>
      rfl

/-! ## What the batch can do -/

namespace Scheduler

/-- Whether a batch is neither queued nor executed. -/
def Ended (p : Scheduler) (t : TaskId) : Prop := t ∉ p.pool.queue ∧ ¬ p.pool.isExecuting t

/-- Whether a batch stands between its look at its token and its save of a checkpoint. -/
def AboutToSave (p : Scheduler) (t : TaskId) : Prop := p.pool.isExecuting t ∧ p.Saving t

/-- Whether a batch is off the queue, and cancelled if it is executed. -/
structure CutOff (p : Scheduler) (t : TaskId) : Prop where
  queue : t ∉ p.pool.queue
  tripped : p.pool.isExecuting t → p.pool.isTripped t

instance (p : Scheduler) (t : TaskId) : Decidable (p.Ended t) := inferInstanceAs (Decidable (_ ∧ _))

instance (p : Scheduler) (t : TaskId) : Decidable (p.Saving t) :=
  decidable_of_iff ((p.stage? t).any fun | .saving .. => true | _ => false) <| by
    unfold Saving
    cases p.stage? t with
    | none => simp
    | some stage => cases stage <;> simp

instance (p : Scheduler) (t : TaskId) : Decidable (p.AboutToSave t) :=
  inferInstanceAs (Decidable (_ ∧ _))

variable {p q : Scheduler} {t : TaskId}

/-- A batch that is cut off is barred from saving, or is about to. -/
theorem CutOff.barred (h : p.CutOff t) (hknown : t < p.pool.tasks.length) (hs : ¬ p.AboutToSave t) :
    p.Barred t :=
  ⟨hknown, h.queue, fun hx => ⟨h.tripped hx, fun hsaving => hs ⟨hx, hsaving⟩⟩⟩

/-- An ended batch stays so while it is spared. -/
theorem Ended.of_spares (h : p.Ended t) (hs : p.pool.Spares t q.pool) : q.Ended t :=
  ⟨fun hq => h.1 (hs.queue hq), fun hx => h.2 (hs.executing.1 hx)⟩

/-- A batch that was cut off stays so while it is spared. -/
theorem CutOff.of_spares (h : p.CutOff t) (hs : p.pool.Spares t q.pool) : q.CutOff t :=
  ⟨fun hq => h.queue (hs.queue hq), fun hx => hs.tripped (h.tripped (hs.executing.1 hx))⟩

/-- A batch that is about to save stays so while it is spared. -/
theorem AboutToSave.of_spares (h : p.AboutToSave t) (hs : p.pool.Spares t q.pool) : q.AboutToSave t := by
  obtain ⟨hx, count, next, hst⟩ := h
  have hstage : q.stage? t = p.stage? t := congrArg (Option.map Batch.stage) hs.payload?
  exact ⟨hs.executing.2 hx, count, next, hstage.trans hst⟩

/-- A batch that has ended is cut off. -/
theorem Ended.cutOff (h : p.Ended t) : p.CutOff t := ⟨h.1, fun hx => absurd hx h.2⟩

/-- A batch is cut off once it was cancelled. -/
theorem cutOff_cancelTask (h : p.pool.Sound) (ht : t < p.pool.tasks.length) :
    (p.cancelTask t).CutOff t := by
  have hcurbs := Pool.curbs_cancel p.hook p.pool t
  have hsound := hcurbs.sound h
  have hreq : (p.cancelTask t).pool.isRequested t := Pool.isRequested_cancel p.hook p.pool ht
  exact ⟨fun hq => hsound.unrequested t hq hreq, fun _ => hsound.tripped t hreq⟩

end Scheduler

namespace Site

variable {s s' : Site} {t : TaskId} {c : CoordinatorId} {name : String}

/-- A turn keeps the pool sound. -/
theorem Turn.sound (h : Turn t s s') (hs : s.scheduler.pool.Sound) : s'.scheduler.pool.Sound := by
  cases h with
  | take h => exact hs.take? h
  | move | answer => exact hs.modifyPayload t fun b => { b with stage := _ }
  | crash hx | retire hx | choke hx | count hx => exact hs.finish hx
  | @settle b k code hx =>
    rcases settleBatch_cases (s.counted t k (BatchResult.ofCode code).count) t b k (.ofCode code) with
      ⟨-, he⟩ | ⟨-, disabled, -, he⟩ <;> rw [he]
    all_goals exact Pool.Sound.finish hs hx

/-- A turn leaves the stored checkpoints as they are, unless the batch was about to save one. -/
theorem Turn.checkpoint? (h : Turn t s s') (hb : s.backend.Reliable) :
    (∀ name, s'.backend.store.checkpoint? name = s.backend.store.checkpoint? name) ∨
      s.scheduler.AboutToSave t ∧ ∃ b k next, s.scheduler.batch? t = some b ∧
        s.scheduler.coordinators[b.coordinator]? = some k ∧
        s'.backend.store = s.backend.store.storeCheckpoint k.name (some next) := by
  rcases h.store_cases hb with hs | ⟨b, k, count, next, hx, hbatch, hst, hk, hs⟩ | ⟨other, schedule, hs⟩
  · exact .inl fun name => congrArg (·.checkpoint? name) hs
  · refine .inr ⟨⟨hx, count, next, ?_⟩, b, k, next, hbatch, hk, hs⟩
    rw [Scheduler.stage?_of_batch? hbatch, hst]
  · refine .inl fun name => ?_
    rw [hs]
    exact Store.checkpoint?_storeSchedule ..

/-- A batch that is about to save a checkpoint saves it by its next turn. -/
theorem Turn.saves (h : Turn t s s') (hb : s.backend.Reliable) (hsound : s.scheduler.pool.Sound)
    (hs : s.scheduler.AboutToSave t) : ∃ b k next, s.scheduler.batch? t = some b ∧
      s.scheduler.coordinators[b.coordinator]? = some k ∧
      s'.backend.store = s.backend.store.storeCheckpoint k.name (some next) := by
  obtain ⟨hx, count, next, hsaving⟩ := hs
  have hstage {b : Batch} (hbatch : s.scheduler.batch? t = some b) : b.stage = .saving count next := by
    rw [Scheduler.stage?_of_batch? hbatch] at hsaving
    exact Option.some.inj hsaving
  cases h with
  | take h =>
    obtain ⟨rest, hq, -⟩ := Pool.take?_eq_some h
    exact absurd (hq ▸ List.mem_cons_self) (hsound.notMem_queue hx)
  | @move b k r _ hbatch _ hk =>
    refine ⟨b, k, next, hbatch, hk, ?_⟩
    simp only [moved, hstage hbatch, RunStage.advance, CheckpointCell.write, Backend.storeCheckpoint,
      hb.call]
    rfl
  | answer a hbatch hst => cases (hstage hbatch).symm.trans hst
  | crash _ hbatch hst | retire _ hbatch hst | choke _ hbatch hst | count _ hbatch hst
  | settle _ hbatch hst => cases (hstage hbatch).symm.trans hst

/-- A turn puts no batch into the queue, and begins only the one that it takes from there. -/
theorem Turn.place (h : Turn t s s') : (t ∈ s'.scheduler.pool.queue → t ∈ s.scheduler.pool.queue) ∧
    (s'.scheduler.pool.isExecuting t → s.scheduler.pool.isExecuting t ∨ t ∈ s.scheduler.pool.queue) := by
  have hfinish {q : Pool Batch} (hq : q = s.scheduler.pool.finish t) :
      (t ∈ q.queue → t ∈ s.scheduler.pool.queue) ∧
        (q.isExecuting t → s.scheduler.pool.isExecuting t ∨ t ∈ s.scheduler.pool.queue) := by
    rw [hq]
    exact ⟨id, fun hx => absurd rfl (Pool.isExecuting_finish.1 hx).2⟩
  cases h with
  | take h =>
    obtain ⟨rest, hq, rfl⟩ := Pool.take?_eq_some h
    have hmem : t ∈ s.scheduler.pool.queue := hq ▸ List.mem_cons_self
    exact ⟨fun _ => hmem, fun _ => .inr hmem⟩
  | move | answer => exact ⟨id, .inl⟩
  | crash | retire | choke | count => exact hfinish rfl
  | @settle b k code =>
    rcases settleBatch_cases (s.counted t k (BatchResult.ofCode code).count) t b k (.ofCode code) with
      ⟨-, he⟩ | ⟨-, disabled, -, he⟩ <;> rw [he]
    all_goals exact hfinish rfl

/-- An ended batch has no turn that would bring it back. -/
theorem Turn.ended (h : Turn t s s') (he : s.scheduler.Ended t) : s'.scheduler.Ended t :=
  ⟨fun hq => he.1 (h.place.1 hq), fun hx => (h.place.2 hx).elim he.2 he.1⟩

/-- A batch that was cut off does not pass the look at its token. -/
theorem Turn.cutOff (h : Turn t s s') (hc : s.scheduler.CutOff t) : s'.scheduler.CutOff t := by
  refine ⟨fun hq => hc.queue (h.place.1 hq), fun hx => ?_⟩
  rw [h.alike.tripped t]
  exact hc.tripped ((h.place.2 hx).resolve_right hc.queue)

/-- A coordinator keeps its name, and the handle of its batch until that has ended. -/
theorem Turn.coordinator (h : Turn t s s') (hs : s.scheduler.pool.Sound) {k : Coordinator}
    (hk : s.scheduler.coordinators[c]? = some k) :
    ∃ k', s'.scheduler.coordinators[c]? = some k' ∧ k'.name = k.name ∧ k'.removed = k.removed ∧
      (k'.handle = k.handle ∨ s'.scheduler.Ended t) := by
  have hmodified {q : Scheduler} {d : CoordinatorId} {f : Coordinator → Coordinator}
      (hq : q.coordinators = s.scheduler.coordinators.modify d f) :
      q.coordinators[c]? = some (if d = c then f k else k) := by
    rw [hq, List.getElem?_modify, hk]
    split <;> rfl
  cases h with
  | take | answer | crash | retire | choke | count => exact ⟨k, hk, rfl, rfl, .inl rfl⟩
  | @move b l r _ _ _ hl =>
    refine ⟨_, hmodified rfl, ?_⟩
    split
    · next hbc =>
      rw [hbc, hk] at hl
      cases hl
      exact ⟨RunStage.connector_advance .., rfl, .inl rfl⟩
    · exact ⟨rfl, rfl, .inl rfl⟩
  | @settle b l code hx =>
    have hended {q : Scheduler} (hq : q.pool = s.scheduler.pool.finish t) : q.Ended t := by
      rw [Scheduler.Ended, hq]
      exact ⟨hs.notMem_queue hx, fun hx' => (Pool.isExecuting_finish.1 hx').2 rfl⟩
    rcases settleBatch_cases (s.counted t l (BatchResult.ofCode code).count) t b l (.ofCode code) with
      ⟨-, he⟩ | ⟨-, disabled, -, he⟩ <;> rw [he]
    all_goals
      refine ⟨_, hmodified rfl, ?_⟩
      split <;> exact ⟨rfl, rfl, .inr (hended rfl)⟩

end Site

/-! ## The restart and the batch -/

namespace Site

/-- A process whose store works, with a batch of a coordinator of the given name that was not removed. -/
structure Within (s : Site) (c : CoordinatorId) (name : String) (t : TaskId) : Prop where
  reliable : s.backend.Reliable
  sound : s.scheduler.pool.Sound
  owner : ∃ g, s.scheduler.order? t = some (c, g)
  coordinator : ∃ k, s.scheduler.coordinators[c]? = some k ∧ k.name = name ∧ k.removed = false

variable {s s' : Site} {t u : TaskId} {c : CoordinatorId} {name : String}

/-- The coordinator of the batch is the one of that name. -/
theorem Within.name_of_batch (h : s.Within c name t) {b : Batch} {k : Coordinator}
    (hb : s.scheduler.batch? t = some b) (hk : s.scheduler.coordinators[b.coordinator]? = some k) :
    k.name = name := by
  obtain ⟨g, ho⟩ := h.owner
  obtain ⟨l, hl, hname, -⟩ := h.coordinator
  rw [Scheduler.order?_of_batch? hb] at ho
  cases ho
  rw [hl] at hk
  cases hk
  exact hname

/-- A turn of the batch leaves the restart its coordinator and a store that works. -/
theorem Turn.within (h : Turn t s s') (hw : s.Within c name t) : s'.Within c name t := by
  obtain ⟨g, ho⟩ := hw.owner
  obtain ⟨k, hk, hname, hlive⟩ := hw.coordinator
  obtain ⟨k', hk', hname', hlive', -⟩ := h.coordinator hw.sound hk
  exact ⟨h.becomes.reliable hw.reliable, h.sound hw.sound, ⟨g, (h.alike.order? t).trans ho⟩,
    k', hk', hname'.trans hname, hlive'.trans hlive⟩

/-- What is done without a part for the batch, the coordinators and the store. -/
structure PassesBy (t : TaskId) (s s' : Site) : Prop where
  backend : s'.backend = s.backend
  coordinators : s'.scheduler.coordinators = s.scheduler.coordinators
  sound : s.scheduler.pool.Sound → s'.scheduler.pool.Sound
  spares : s.scheduler.pool.Spares t s'.scheduler.pool

/-- A restart goes on while its batch is spared and its coordinator lives. -/
theorem Within.of_spares (hw : s.Within c name t) (hb : s'.backend.Reliable)
    (hsound : s'.scheduler.pool.Sound) (hs : s.scheduler.pool.Spares t s'.scheduler.pool)
    (hc : ∀ k, s.scheduler.coordinators[c]? = some k → ∃ k', s'.scheduler.coordinators[c]? = some k' ∧
      k'.name = k.name ∧ k'.removed = k.removed) : s'.Within c name t := by
  obtain ⟨g, ho⟩ := hw.owner
  obtain ⟨k, hk, hname, hlive⟩ := hw.coordinator
  obtain ⟨k', hk', hname', hlive'⟩ := hc k hk
  have horder : s'.scheduler.order? t = s.scheduler.order? t :=
    congrArg (Option.map Batch.order) hs.payload?
  exact ⟨hb, hsound, ⟨g, horder.trans ho⟩, k', hk', hname'.trans hname, hlive'.trans hlive⟩

/-- What passes the batch by leaves the restart as it stands. -/
theorem PassesBy.within (h : PassesBy t s s') (hw : s.Within c name t) : s'.Within c name t :=
  hw.of_spares (h.backend ▸ hw.reliable) (h.sound hw.sound) h.spares
    fun k hk => ⟨k, h.coordinators ▸ hk, rfl, rfl⟩

/-- A worker that takes a batch gives it a turn, or passes by. -/
theorem take_cases (s : Site) (w : WorkerId) (t : TaskId) :
    Turn t s (s.take w) ∨ PassesBy t s (s.take w) := by
  rw [take]
  cases h : s.scheduler.pool.take? w with
  | none => exact .inr ⟨rfl, rfl, id, (Pool.Curbs.refl _).spares t⟩
  | some tp =>
    obtain ⟨u, pool⟩ := tp
    by_cases htu : t = u
    · subst htu
      exact .inl (.take h)
    · exact .inr ⟨rfl, rfl, fun hs => hs.take? h, Pool.spares_take? h htu⟩

end Site

namespace Restarting

variable {r : Restarting} {c : CoordinatorId} {t : TaskId} {name : String} {m : Move}
  {moves : List Move} {result : Except Error Unit}

/-- What is not a step of the restart is a turn of the batch, or passes it by. -/
theorem step_cases (r : Restarting) (c : CoordinatorId) (t : TaskId) (hm : m ≠ .restart) :
    (r.step c t m).stage = r.stage ∧
    (Site.Turn t r.site (r.step c t m).site ∨ Site.PassesBy t r.site (r.step c t m).site) := by
  have hsame : Site.PassesBy t r.site r.site := ⟨rfl, rfl, id, (Pool.Curbs.refl _).spares t⟩
  cases m with
  | restart => exact absurd rfl hm
  | fetch w => exact ⟨rfl, r.site.take_cases w t⟩
  | advance =>
    refine ⟨rfl, ?_⟩
    rcases r.site.advance_cases t with he | h
    · exact .inr (he.symm ▸ hsame)
    · exact .inl h
  | answer a =>
    refine ⟨rfl, ?_⟩
    show Site.Turn t r.site (r.site.answer t a) ∨ Site.PassesBy t r.site (r.site.answer t a)
    unfold Site.answer
    split
    · exact .inr hsame
    · next b hb =>
      split
      · next l checkpoint hl hst => exact .inl (.answer a hb hst hl)
      · exact .inr hsame

/-- Whatever comes between two steps of a restart leaves it as it stands. -/
theorem within_step (hw : r.site.Within c name t) (hm : m ≠ .restart) :
    (r.step c t m).site.Within c name t := by
  rcases (r.step_cases c t hm).2 with h | h
  · exact h.within hw
  · exact h.within hw

/-- Whether the batch stands between its look at the token and its save when the restart clears the
checkpoint. -/
def Overtaken (c : CoordinatorId) (t : TaskId) : Restarting → List Move → Prop
  | _, [] => False
  | r, m :: rest =>
    m = .restart ∧ r.stage = .cancelled ∧ r.site.scheduler.AboutToSave t ∨
      Overtaken c t (r.step c t m) rest

instance decidableOvertaken (c : CoordinatorId) (t : TaskId) :
    (r : Restarting) → (moves : List Move) → Decidable (Overtaken c t r moves)
  | _, [] => .isFalse id
  | r, m :: rest =>
    have := decidableOvertaken c t (r.step c t m) rest
    inferInstanceAs (Decidable (_ ∨ _))

/-! ### After the restart -/

/-- A restart that has returned does so once. -/
theorem stage_returned (hr : r.stage = .returned result) (m : Move) :
    (r.step c t m).stage = .returned result := by
  cases m with
  | restart => simp only [step, hr, Site.restartStep]
  | _ => exact hr

/-- A restart that has returned does nothing more. -/
theorem site_returned (c : CoordinatorId) (t : TaskId) (hr : r.stage = .returned result) :
    (r.step c t .restart).site = r.site := by
  simp only [step, hr, Site.restartStep]

/-- A restart that has returned is not overtaken any more. -/
theorem not_overtaken_returned (hr : r.stage = .returned result) (moves : List Move) :
    ¬ Overtaken c t r moves := by
  induction moves generalizing r with
  | nil => exact id
  | cons m rest ih =>
    rintro (⟨-, hc, -⟩ | h)
    · rw [hr] at hc
      cases hc
    · exact ih (stage_returned hr m) h

/-- A batch that is barred leaves the checkpoint cleared. -/
theorem run_cleared (hr : r.stage = .returned result) (hb : r.site.backend.Reliable)
    (hbar : r.site.scheduler.Barred t) (hnone : r.site.backend.store.checkpoint? name = none)
    (moves : List Move) :
    (r.run c t moves).stage = .returned result ∧
      (r.run c t moves).site.backend.store.checkpoint? name = none := by
  induction moves generalizing r with
  | nil => exact ⟨hr, hnone⟩
  | cons m rest ih =>
    by_cases hm : m = .restart
    · subst hm
      have hsite := site_returned c t hr
      exact ih (stage_returned hr _) (hsite ▸ hb) (hsite ▸ hbar) (hsite ▸ hnone)
    · rcases (r.step_cases c t hm).2 with h | h
      · refine ih (stage_returned hr m) (h.becomes.reliable hb) (h.barred hbar).1 ?_
        rcases h.checkpoint? hb with hsame | ⟨⟨hx, hsaving⟩, -⟩
        · exact (hsame name).trans hnone
        · exact absurd hsaving (hbar.cut hx).2
      · exact ih (stage_returned hr m) (h.backend ▸ hb) (hbar.of_spares h.spares) (h.backend ▸ hnone)

/-- A batch that is about to save a checkpoint saves it over the cleared one. -/
theorem run_saved (hr : r.stage = .returned result) (hw : r.site.Within c name t)
    (hs : r.site.scheduler.AboutToSave t ∨ (r.site.backend.store.checkpoint? name).isSome)
    (moves : List Move) :
    (r.run c t moves).stage = .returned result ∧
      ((r.run c t moves).site.scheduler.AboutToSave t ∨
        ((r.run c t moves).site.backend.store.checkpoint? name).isSome) := by
  induction moves generalizing r with
  | nil => exact ⟨hr, hs⟩
  | cons m rest ih =>
    by_cases hm : m = .restart
    · subst hm
      have hsite := site_returned c t hr
      exact ih (stage_returned hr _) (hsite ▸ hw) (hsite ▸ hs)
    · refine ih (stage_returned hr m) (within_step hw hm) ?_
      have hstored {k : Coordinator} {next : String} {b : Batch}
          (hb : r.site.scheduler.batch? t = some b)
          (hk : r.site.scheduler.coordinators[b.coordinator]? = some k)
          (he : (r.step c t m).site.backend.store =
            r.site.backend.store.storeCheckpoint k.name (some next)) :
          ((r.step c t m).site.backend.store.checkpoint? name).isSome := by
        rw [he, Store.checkpoint?_storeCheckpoint, if_pos (hw.name_of_batch hb hk).symm]
        rfl
      rcases (r.step_cases c t hm).2 with h | h
      · rcases hs with hs | hs
        · obtain ⟨b, k, next, hb, hk, he⟩ := h.saves hw.reliable hw.sound hs
          exact .inr (hstored hb hk he)
        · rcases h.checkpoint? hw.reliable with hsame | ⟨-, b, k, next, hb, hk, he⟩
          · exact .inr ((hsame name).symm ▸ hs)
          · exact .inr (hstored hb hk he)
      · exact hs.imp (fun hs => hs.of_spares h.spares) fun hs => h.backend ▸ hs

/-! ### Before the checkpoint is cleared -/

/-- What holds of the batch while the restart has not cleared the checkpoint yet: the coordinator or the
restart has its handle, then it is cut off; unless it has ended. -/
def Standing (c : CoordinatorId) (t : TaskId) (r : Restarting) : Prop :=
  match r.stage with
  | .pending => ∀ k, r.site.scheduler.coordinators[c]? = some k →
      k.handle = some t ∨ r.site.scheduler.Ended t
  | .interrupted handle => handle = some t ∨ r.site.scheduler.Ended t
  | .cancelled => r.site.scheduler.CutOff t
  | .returned _ => False

/-- The batch keeps its standing in whatever is no step of the restart. -/
theorem Standing.step (h : r.Standing c t) (hw : r.site.Within c name t) (hm : m ≠ .restart) :
    (r.step c t m).Standing c t := by
  obtain ⟨hstage, hsite⟩ := r.step_cases c t hm
  have hended (he : r.site.scheduler.Ended t) : (r.step c t m).site.scheduler.Ended t :=
    hsite.elim (fun h => h.ended he) fun h => he.of_spares h.spares
  unfold Standing at h ⊢
  rw [hstage]
  cases hr : r.stage with
  | pending =>
    rw [hr] at h
    intro k' hk'
    obtain ⟨k, hk, -⟩ := hw.coordinator
    rcases h k hk with hh | he
    · rcases hsite with ht | hp
      · obtain ⟨l, hl, -, -, hsame | he⟩ := ht.coordinator hw.sound hk
        · rw [hk'] at hl
          cases hl
          exact .inl (hsame.trans hh)
        · exact .inr he
      · rw [hp.coordinators, hk] at hk'
        cases hk'
        exact .inl hh
    · exact .inr (hended he)
  | interrupted handle =>
    rw [hr] at h
    exact h.imp_right hended
  | cancelled =>
    rw [hr] at h
    exact hsite.elim (fun ht => ht.cutOff h) fun hp => Scheduler.CutOff.of_spares h hp.spares
  | returned =>
    rw [hr] at h
    exact h.elim

/-- The restart takes the handle away from the coordinator. -/
theorem interrupt_step (hr : r.stage = .pending) (h : r.Standing c t) (hw : r.site.Within c name t) :
    (r.step c t .restart).Standing c t ∧ (r.step c t .restart).site.Within c name t := by
  obtain ⟨k, hk, -, hlive⟩ := id hw.coordinator
  have hstep : r.step c t .restart = ⟨.interrupted k.handle, r.site.withScheduler
      (r.site.scheduler.modifyCoordinator c (.interrupted fun k => { k with traverser := none }))⟩ := by
    simp only [step, hr, Site.restartStep, Scheduler.live_eq_ok.2 ⟨hk, hlive⟩]
  rw [Standing, hr] at h
  rw [hstep]
  refine ⟨h k hk, hw.of_spares hw.reliable hw.sound ((Pool.Curbs.refl _).spares t) fun l hl => ?_⟩
  exact ⟨_, Scheduler.getElem?_modifyCoordinator_self hl _, rfl, rfl⟩

/-- The restart cancels the batch. -/
theorem cancel_step {handle : Option TaskId} (hr : r.stage = .interrupted handle) (h : r.Standing c t)
    (hw : r.site.Within c name t) :
    (r.step c t .restart).Standing c t ∧ (r.step c t .restart).site.Within c name t := by
  obtain ⟨g, ho⟩ := hw.owner
  rw [Standing, hr] at h
  cases handle with
  | none =>
    have hstep : r.step c t .restart = ⟨.cancelled, r.site⟩ := by
      simp only [step, hr, Site.restartStep]
    rw [hstep]
    exact ⟨Scheduler.Ended.cutOff (h.resolve_left nofun), hw⟩
  | some u =>
    have hstep : r.step c t .restart =
        ⟨.cancelled, r.site.withScheduler (r.site.scheduler.cancelTask u)⟩ := by
      simp only [step, hr, Site.restartStep]
    have hcurbs := Pool.curbs_cancel r.site.scheduler.hook r.site.scheduler.pool u
    rw [hstep]
    refine ⟨?_, hw.of_spares hw.reliable (hcurbs.sound hw.sound) (hcurbs.spares t)
      fun l hl => ⟨l, hl, rfl, rfl⟩⟩
    rcases h with hu | he
    · cases hu
      exact Scheduler.cutOff_cancelTask hw.sound (Scheduler.lt_of_order? ho)
    · exact Scheduler.Ended.cutOff (he.of_spares (hcurbs.spares t))

/-- The restart clears the checkpoint and returns. -/
theorem clear_step (hr : r.stage = .cancelled) (hw : r.site.Within c name t) :
    (r.step c t .restart).stage = .returned (.ok ()) ∧ (r.step c t .restart).site.Within c name t ∧
      (r.step c t .restart).site.scheduler.pool = r.site.scheduler.pool ∧
      (r.step c t .restart).site.backend.store.checkpoint? name = none := by
  obtain ⟨k, hk, hname, hlive⟩ := id hw.coordinator
  have hstep : r.step c t .restart = ⟨.returned (.ok ()),
      { r.site with
        scheduler := r.site.scheduler.modifyCoordinator c fun l =>
          { l with cell := { k.cell with lastSeen := none } }
        backend := (r.site.backend.storeCheckpoint k.name none).2 }⟩ := by
    simp only [step, hr, Site.restartStep, hk, CheckpointCell.write, Backend.storeCheckpoint,
      hw.reliable.call]
    rfl
  rw [hstep]
  refine ⟨rfl, hw.of_spares ?_ hw.sound ((Pool.Curbs.refl _).spares t) fun l hl => ?_, rfl, ?_⟩
  · simp only [Backend.storeCheckpoint, hw.reliable.call]
    exact hw.reliable.used _
  · rw [hk] at hl
    cases hl
    exact ⟨_, Scheduler.getElem?_modifyCoordinator_self hk _, rfl, rfl⟩
  · simp only [Backend.storeCheckpoint, hw.reliable.call]
    exact (Store.checkpoint?_storeCheckpoint ..).trans (if_pos hname.symm)

/-! ### The whole restart -/

/-- A batch that is cut off leaves the checkpoint cleared, unless it was about to save one when that was
done. -/
theorem run_cancelled (hr : r.stage = .cancelled) (hs : r.Standing c t) (hw : r.site.Within c name t)
    (moves : List Move) (hend : (r.run c t (.restart :: moves)).stage = .returned result)
    (hended : (r.run c t (.restart :: moves)).site.scheduler.Ended t) :
    result = .ok () ∧ ((r.run c t (.restart :: moves)).site.backend.store.checkpoint? name = none ↔
      ¬ r.site.scheduler.AboutToSave t) := by
  obtain ⟨hstage, hw', hpool, hnone⟩ := clear_step hr hw
  have hspares : r.site.scheduler.pool.Spares t (r.step c t .restart).site.scheduler.pool :=
    hpool.symm ▸ (Pool.Curbs.refl _).spares t
  have hresult (h : ((r.step c t .restart).run c t moves).stage = .returned (.ok ())) :
      result = .ok () := (RestartStage.returned.inj (h.symm.trans hend)).symm
  rw [Standing, hr] at hs
  by_cases hsaving : r.site.scheduler.AboutToSave t
  · obtain ⟨hend', hsaved⟩ := run_saved hstage hw' (.inl (hsaving.of_spares hspares)) moves
    refine ⟨hresult hend', iff_of_false (fun hnone' => ?_) fun h => h hsaving⟩
    have hsome := hsaved.resolve_left fun h => hended.2 h.1
    rw [show ((r.step c t .restart).run c t moves).site.backend.store.checkpoint? name = none
      from hnone'] at hsome
    cases hsome
  · obtain ⟨g, ho⟩ := hw.owner
    have hbar := (Scheduler.CutOff.barred hs (Scheduler.lt_of_order? ho) hsaving).of_spares hspares
    obtain ⟨hend', hclear⟩ := run_cleared hstage hw'.reliable hbar hnone moves
    exact ⟨hresult hend', iff_of_true hclear hsaving⟩

/-- However the steps of a restart and those of the batch alternate: once the restart has returned and the
batch has ended, the checkpoint is cleared unless the batch stood between its look and its save when that
was done. -/
theorem run_cleared_iff (hs : r.Standing c t) (hw : r.site.Within c name t) (moves : List Move)
    (hend : (r.run c t moves).stage = .returned result)
    (hended : (r.run c t moves).site.scheduler.Ended t) :
    result = .ok () ∧ ((r.run c t moves).site.backend.store.checkpoint? name = none ↔
      ¬ Overtaken c t r moves) := by
  induction moves generalizing r with
  | nil =>
    have hstage : r.stage = .returned result := hend
    rw [Standing, hstage] at hs
    exact hs.elim
  | cons m rest ih =>
    -- unless this is where the checkpoint is cleared, the batch keeps its standing
    have hgo (hs' : (r.step c t m).Standing c t) (hw' : (r.step c t m).site.Within c name t)
        (hnot : ¬ (m = .restart ∧ r.stage = .cancelled)) : result = .ok () ∧
          ((r.run c t (m :: rest)).site.backend.store.checkpoint? name = none ↔
            ¬ Overtaken c t r (m :: rest)) := by
      obtain ⟨hok, hiff⟩ := ih hs' hw' hend hended
      exact ⟨hok, hiff.trans (not_congr ⟨.inr, fun h => h.resolve_left fun h => hnot ⟨h.1, h.2.1⟩⟩)⟩
    by_cases hm : m = .restart
    · subst hm
      cases hr : r.stage with
      | pending =>
        obtain ⟨hs', hw'⟩ := interrupt_step hr hs hw
        exact hgo hs' hw' fun h => nomatch hr.symm.trans h.2
      | interrupted handle =>
        obtain ⟨hs', hw'⟩ := cancel_step hr hs hw
        exact hgo hs' hw' fun h => nomatch hr.symm.trans h.2
      | cancelled =>
        obtain ⟨hok, hiff⟩ := run_cancelled hr hs hw rest hend hended
        have hrest : ¬ Overtaken c t (r.step c t .restart) rest :=
          not_overtaken_returned (clear_step hr hw).1 rest
        exact ⟨hok, hiff.trans
          (not_congr ⟨fun h => .inl ⟨rfl, hr, h⟩, fun h => (h.resolve_right hrest).2.2⟩)⟩
      | returned x =>
        rw [Standing, hr] at hs
        exact hs.elim
    · exact hgo (hs.step hw hm) (within_step hw hm) fun h => hm h.1

end Restarting

end BatchTraversal
