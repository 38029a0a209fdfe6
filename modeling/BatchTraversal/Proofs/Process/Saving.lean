import BatchTraversal.Proofs.Process.Accounts
import BatchTraversal.Proofs.Process.Enrolled

/-!
# Runs that are about to save a checkpoint

A run looks at its token before it saves a checkpoint, and not again. As long as nothing happens in
between, a batch that saves is not cancelled (`Scheduler.Candid`), hence it is the one in flight of a live
coordinator (`Scheduler.Candid.saver`). A batch that is driven as far as it goes by itself does not stop
in between (`Site.settled_drive`), so that between the actions of a process no run is about to save
(`Scheduler.Paused`), provided none of them is a single step of a batch (`Action.Whole`).
-/

namespace BatchTraversal

/-- Whether an action takes a batch as far as it goes by itself, if it takes it on at all. -/
def Action.Whole : Action → Prop
  | advance _ => False
  | _ => True

namespace Scheduler

/-- Whether no run that is about to save a checkpoint was cancelled. -/
def Candid (p : Scheduler) : Prop :=
  ∀ t count next, p.stage? t = some (.saving count next) → ¬ p.pool.isTripped t

/-- Whether no run is about to save a checkpoint. -/
def Paused (p : Scheduler) : Prop := ∀ t count next, p.stage? t ≠ some (.saving count next)

variable {p q : Scheduler} {t : TaskId}

theorem Paused.candid (h : p.Paused) : p.Candid := fun t count next hs => absurd hs (h t count next)

/-- A batch that is about to save a checkpoint is the one in flight of a live coordinator. -/
theorem Candid.saver (h : p.Candid) (hf : p.Flight) {b : Batch} {k : Coordinator} {count : Nat}
    {next : String} (hx : p.pool.isExecuting t) (hb : p.batch? t = some b)
    (hst : b.stage = .saving count next) (hk : p.coordinators[b.coordinator]? = some k) :
    p.pool.Open t ∧ k.handle = some t ∧ k.removed = false := by
  have hstage : p.stage? t = some (.saving count next) := by rw [stage?_of_batch? hb, hst]
  have hopen : p.pool.Open t :=
    ⟨.inr hx, fun hr => h t count next hstage (hf.sound.tripped t hr)⟩
  have hh := hf.single t _ _ k (order?_of_batch? hb) hk hopen
  refine ⟨hopen, hh, eq_false_of_ne_true fun hr => ?_⟩
  rw [hf.removed _ k hk hr] at hh
  cases hh

end Scheduler

namespace Site

variable {s s' : Site} {t u : TaskId}

/-- A report leaves the pool as it is. -/
theorem pool_report (s : Site) (t : TaskId) (b : Batch) (result : BatchResult) :
    (s.report t b result).scheduler.pool = s.scheduler.pool := by
  unfold report
  split
  · rfl
  · next k _ =>
    split
    · rfl
    · dsimp only
      split
      · rfl
      · split
        · rcases settleBatch_cases (s.counted t k result.count) t b k result with
            ⟨-, he⟩ | ⟨-, _, -, he⟩ <;> exact congrArg (fun s => s.scheduler.pool) he
        · rfl

/-- Whether a step of a batch does something: the batch is executed and, unless its run is over, has what
it works on. -/
def Movable (s : Site) (t : TaskId) : Prop :=
  s.scheduler.pool.isExecuting t ∧
    ∃ b, s.scheduler.batch? t = some b ∧ (b.stage.Underway → (s.workbench? b).isSome)

theorem batch?_moved (s : Site) {b : Batch} (hb : s.scheduler.batch? t = some b) (w : Workbench) :
    (s.moved t b w).scheduler.batch? t =
      some { b with stage := (b.stage.advance t (s.scheduler.pool.isTripped t) w).1 } := by
  refine (Scheduler.batch?_withStage s.scheduler t t _).trans ?_
  rw [if_pos rfl, hb]
  rfl

/-- A batch that moved goes on having what it works on. -/
theorem movable_moved {b : Batch} (hx : s.scheduler.pool.isExecuting t)
    (hb : s.scheduler.batch? t = some b) {w : Workbench} (hw : s.workbench? b = some w) :
    (s.moved t b w).Movable t := by
  refine ⟨hx, _, s.batch?_moved hb w, fun _ => ?_⟩
  unfold workbench? at hw ⊢
  split at hw
  · next r k hr hk =>
    simp only [moved, List.getElem?_set, List.getElem?_modify, hk, if_pos]
    rw [if_pos (List.getElem?_eq_some_iff.1 hr).1]
    rfl
  · cases hw

/-- A step of a batch that can move frees its worker, if its run is over, or is the next action of its
run. -/
theorem advance_movable (s : Site) (t : TaskId) : ¬ s.Movable t ∧ s.advance t = s ∨
    s.Movable t ∧ ∃ b, s.scheduler.batch? t = some b ∧
      (¬ b.stage.Underway ∧ (s.advance t).scheduler.stage? t = some b.stage ∨
      ∃ w, s.advance t = s.moved t b w ∧ (s.moved t b w).Movable t) := by
  unfold advance
  by_cases hx : s.scheduler.pool.isExecuting t
  · simp only [hx, Bool.not_true, Bool.false_eq_true, if_false]
    cases hb : s.scheduler.batch? t with
    | none =>
      refine .inl ⟨fun ⟨_, b, hb', _⟩ => ?_, rfl⟩
      rw [hb] at hb'
      cases hb'
    | some b =>
      dsimp only
      split
      · next code hst =>
        have hover : ¬ b.stage.Underway := fun h => h.1 code hst
        refine .inr ⟨⟨hx, b, hb, fun h => absurd h hover⟩, b, rfl, .inl ⟨hover, ?_⟩⟩
        rw [Scheduler.stage?_finish (p := (s.report t b (.ofCode code)).scheduler) rfl,
          Scheduler.stage?, Scheduler.batch?, pool_report]
        exact Scheduler.stage?_of_batch? hb
      · next hst =>
        have hover : ¬ b.stage.Underway := fun h => h.2 hst
        refine .inr ⟨⟨hx, b, hb, fun h => absurd h hover⟩, b, rfl, .inl ⟨hover, ?_⟩⟩
        rw [Scheduler.stage?_finish (p := s.scheduler) rfl, Scheduler.stage?_of_batch? hb]
      · next hcode hcrash =>
        split
        · next hw =>
          refine .inl ⟨fun ⟨_, b', hb', h⟩ => ?_, rfl⟩
          rw [hb] at hb'
          cases hb'
          have hsome := h ⟨fun code e => hcode code e, fun e => hcrash e⟩
          rw [hw] at hsome
          cases hsome
        · next w hw =>
          have hm : s.Movable t := ⟨hx, b, hb, fun _ => by rw [hw]; rfl⟩
          refine .inr ⟨hm, b, rfl, .inr ⟨w, ?_, movable_moved hx hb hw⟩⟩
          rw [moved]
          generalize b.stage.advance t (s.scheduler.pool.isTripped t) w = a
          obtain ⟨stage, w', _ | e⟩ := a
          · simp only [Option.map_none, Option.toList_none, List.append_nil]
            rfl
          · rfl
  · exact .inl ⟨fun h => hx h.1, by simp [hx]⟩

theorem stage?_moved (s : Site) {b : Batch} (hb : s.scheduler.batch? t = some b) (w : Workbench) :
    (s.moved t b w).scheduler.stage? t =
      some (b.stage.advance t (s.scheduler.pool.isTripped t) w).1 := by
  rw [Scheduler.stage?_of_batch? (s.batch?_moved hb w)]

/-- Whether a batch is not about to save a checkpoint and will not be by its next step. -/
structure Settled (s : Site) (t : TaskId) : Prop where
  notSaving : ∀ count next, s.scheduler.stage? t ≠ some (.saving count next)
  stuck : ∀ page, s.scheduler.stage? t = some (.answered (.page page)) → ¬ s.Movable t

/-- What a batch may be about after a step. -/
theorem stage?_advance (s : Site) (t : TaskId) : s.advance t = s ∧ ¬ s.Movable t ∨
    s.Movable t ∧ (∀ page, (s.advance t).scheduler.stage? t ≠ some (.answered (.page page))) ∧
      ∀ count next, (s.advance t).scheduler.stage? t = some (.saving count next) →
        (s.advance t).Movable t ∧ ∃ page, s.scheduler.stage? t = some (.answered (.page page)) := by
  rcases s.advance_movable t with ⟨hn, he⟩ | ⟨hm₀, b, hb, ⟨hover, hs⟩ | ⟨w, he, hm⟩⟩
  · exact .inl ⟨he, hn⟩
  · refine .inr ⟨hm₀, fun page h => hover ?_, fun count next h => absurd ?_ hover⟩ <;>
      rw [hs, Option.some.injEq] at h <;> rw [h]
    · exact ⟨fun _ => nofun, nofun⟩
    · exact ⟨fun _ => nofun, nofun⟩
  · have hs := s.stage?_moved hb w
    rw [he]
    refine .inr ⟨hm₀, fun page h => ?_, fun count next h => ⟨hm, ?_⟩⟩ <;>
      rw [hs, Option.some.injEq] at h
    · exact RunStage.advance_ne_page page h
    · obtain ⟨-, page, hpage⟩ := RunStage.saving_of_advance h
      exact ⟨page, by rw [Scheduler.stage?_of_batch? hb, hpage]⟩

/-- A batch that is about to save a checkpoint, and can move, is settled by the next step. -/
theorem Movable.settled_advance (h : s.Movable t) {count : Nat} {next : String}
    (hst : s.scheduler.stage? t = some (.saving count next)) : (s.advance t).Settled t := by
  rcases s.advance_movable t with ⟨hn, -⟩ | ⟨-, b, hb, ⟨hover, -⟩ | ⟨w, he, -⟩⟩
  · exact absurd h hn
  · rw [Scheduler.stage?_of_batch? hb, Option.some.injEq] at hst
    rw [hst] at hover
    exact absurd ⟨fun _ => nofun, nofun⟩ hover
  · rw [Scheduler.stage?_of_batch? hb, Option.some.injEq] at hst
    obtain ⟨code, hcode⟩ : ∃ code, (s.moved t b w).scheduler.stage? t = some (.coded code) := by
      obtain ⟨code, hcode⟩ :=
        RunStage.advance_saving t (s.scheduler.pool.isTripped t) w count next
      exact ⟨code, by rw [s.stage?_moved hb w, hst, hcode]⟩
    rw [he]
    refine ⟨fun _ _ h => ?_, fun _ h => ?_⟩ <;> rw [hcode] at h <;> cases h

/-- A step leaves a batch settled. -/
theorem Settled.advance (h : s.Settled t) : (s.advance t).Settled t := by
  rcases s.stage?_advance t with ⟨he, -⟩ | ⟨hm, hpage, hsaving⟩
  · rwa [he]
  · refine ⟨fun count next hs => ?_, fun page hs => absurd hs (hpage page)⟩
    obtain ⟨-, page, hp⟩ := hsaving count next hs
    exact h.stuck page hp hm

/-- A batch that was not about to save a checkpoint is settled after two steps. -/
theorem settled_advance_advance (h : ∀ count next, s.scheduler.stage? t ≠ some (.saving count next)) :
    ((s.advance t).advance t).Settled t := by
  rcases s.stage?_advance t with ⟨he, hn⟩ | ⟨-, hpage, hsaving⟩
  · have hs : s.Settled t := ⟨h, fun _ _ => hn⟩
    rw [he, he]
    exact hs
  · by_cases hs : ∃ count next, (s.advance t).scheduler.stage? t = some (.saving count next)
    · obtain ⟨count, next, hs⟩ := hs
      exact (hsaving count next hs).1.settled_advance hs
    · have hfirst : (s.advance t).Settled t :=
        ⟨fun count next hc => hs ⟨count, next, hc⟩, fun page hp => absurd hp (hpage page)⟩
      exact hfirst.advance

/-- A batch that is driven as far as it goes by itself does not stop where it is about to save a
checkpoint. -/
theorem settled_drive (h : ∀ count next, s.scheduler.stage? t ≠ some (.saving count next)) :
    (s.drive t).Settled t := (settled_advance_advance h).advance.advance

/-! ## Candid and paused processes -/

/-- A chore leaves every run where it stands, but for that of a batch that it submits. -/
theorem Chore.stage? (h : Chore s s') (t : TaskId) :
    s'.scheduler.stage? t = s.scheduler.stage? t ∨ s'.scheduler.stage? t = some .entering := by
  rcases h.pool with hp | ⟨b, u, hs, hb⟩
  · exact .inl (congrArg (Option.map Batch.stage) (hp.payload? t))
  · have hpay := Pool.payload?_submit hs t
    split at hpay
    · exact .inr ((congrArg (Option.map Batch.stage) hpay).trans (congrArg some hb))
    · exact .inl (congrArg (Option.map Batch.stage) hpay)

theorem Chores.paused (h : Chores s s') (hp : s.scheduler.Paused) : s'.scheduler.Paused := by
  induction h with
  | refl => exact hp
  | tail _ h ih =>
    intro t count next hs
    rcases h.stage? t with he | he <;> rw [he] at hs
    · exact ih t count next hs
    · cases hs

/-- A turn of one batch leaves the runs of the others where they stand. -/
theorem Turn.stage?_other (h : Turn u s s') (hne : t ≠ u) :
    s'.scheduler.stage? t = s.scheduler.stage? t :=
  congrArg (Option.map Batch.stage) (h.spares hne).payload?

theorem Turns.stage?_other (h : Turns u s s') (hne : t ≠ u) :
    s'.scheduler.stage? t = s.scheduler.stage? t := by
  induction h with
  | refl => rfl
  | tail _ h ih => exact (h.stage?_other hne).trans ih

/-- A turn of a batch does not let it save a checkpoint once it was cancelled. -/
theorem Turn.candid (h : Turn u s s') (hc : s.scheduler.Candid) : s'.scheduler.Candid := by
  intro t count next hs
  rw [h.alike.tripped t]
  by_cases htu : t = u
  · subst htu
    have hsame (hst : s'.scheduler.stage? t = s.scheduler.stage? t) :
        ¬ s.scheduler.pool.isTripped t := hc t count next (hst ▸ hs)
    cases h with
    | take h =>
      obtain ⟨rest, -, rfl⟩ := Pool.take?_eq_some h
      exact hsame rfl
    | @move b k r hx hb =>
      rw [s.stage?_moved hb, Option.some.injEq] at hs
      rw [(RunStage.saving_of_advance hs).1]
      exact Bool.false_ne_true
    | @answer b r checkpoint a hb hst =>
      have hstage : (s.scheduler.withStage t (RunStage.answer a r (.calling checkpoint)).1).stage? t =
          some (.saving count next) := hs
      rw [Scheduler.stage?, Scheduler.batch?_withStage, if_pos rfl, hb] at hstage
      cases a <;> cases hstage
    | crash | retire | choke | count => exact hsame (Scheduler.stage?_finish rfl t)
    | @settle b k code =>
      rcases settleBatch_cases (s.counted t k (BatchResult.ofCode code).count) t b k (.ofCode code) with
        ⟨-, he⟩ | ⟨-, disabled, -, he⟩ <;> rw [he] at hsame
      all_goals exact hsame (Scheduler.stage?_finish rfl t)
  · exact hc t count next ((h.stage?_other htu) ▸ hs)

/-- Turns of a batch that leave it not about to save a checkpoint leave none that is. -/
theorem Turns.paused (h : Turns u s s') (hp : s.scheduler.Paused)
    (hu : ∀ count next, s'.scheduler.stage? u ≠ some (.saving count next)) :
    s'.scheduler.Paused := by
  intro t count next hs
  by_cases htu : t = u
  · exact hu count next (htu ▸ hs)
  · exact hp t count next ((Turns.stage?_other h htu) ▸ hs)

theorem paused_drive (hp : s.scheduler.Paused) (t : TaskId) : (s.drive t).scheduler.Paused :=
  Turns.paused (s.drive_turns t) hp (settled_drive (hp t)).notSaving

theorem paused_take (hp : s.scheduler.Paused) (w : WorkerId) : (s.take w).scheduler.Paused := by
  rw [take]
  cases h : s.scheduler.pool.take? w with
  | none => exact hp
  | some tp =>
    obtain ⟨t, pool⟩ := tp
    obtain ⟨rest, -, rfl⟩ := Pool.take?_eq_some h
    exact fun t count next hs => hp t count next hs

theorem paused_answer (hp : s.scheduler.Paused) (t : TaskId) (a : Answer) :
    (s.answer t a).scheduler.Paused := by
  refine Turns.paused (s.answer_turns t a) hp fun count next hs => ?_
  unfold answer at hs
  split at hs
  · exact hp t count next hs
  · next b hb =>
    split at hs
    · next r checkpoint hr hst =>
      have hstage : (s.scheduler.withStage t (RunStage.answer a r (.calling checkpoint)).1).stage? t =
          some (.saving count next) := hs
      rw [Scheduler.stage?, Scheduler.batch?_withStage, if_pos rfl, hb] at hstage
      cases a <;> cases hstage
    · exact hp t count next hs

/-- Between actions that are whole no run is about to save a checkpoint. -/
theorem act_paused (hr : s.scheduler.Registered) (hp : s.scheduler.Paused) {a : Action}
    (ha : a.Whole) : (s.act a).scheduler.Paused := by
  have hcall (h : a.IsCall) : (s.act a).scheduler.Paused := Chores.paused (call_edits hr h).chores hp
  have hupkeep (h : a.IsUpkeep) : (s.act a).scheduler.Paused :=
    Chores.paused (s.upkeep_act h).chores hp
  cases a with
  | detect =>
    obtain ⟨s', inventory, h, e⟩ := detect_edits hr
    have hp' : s'.scheduler.Paused := Chores.paused h.chores hp
    rw [act, e]
    exact hp'
  | setConfig | setSchedule | remove | restart => exact hcall trivial
  | pass | askPhase | start | tick | scan | revive | shutDown => exact hupkeep trivial
  | fetch w => exact paused_take hp w
  | take w =>
    rw [act, begin]
    split
    · exact hp
    · exact paused_drive (paused_take hp w) _
  | advance => cases ha
  | answer t x => exact paused_answer hp t x
  | proceed t => exact paused_drive hp t
  | conclude t x => exact paused_drive (paused_answer hp t x) t

end Site

end BatchTraversal
