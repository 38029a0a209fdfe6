import BatchTraversal.Proofs.Process.Saving
import BatchTraversal.Proofs.Process.Severed

/-!
# Batches that are barred from saving

A batch that is not open any more, because it was dropped, has ended or was cancelled, and that is not
just about to save a checkpoint is barred: it will look at its token before it saves one, and find it
tripped. Nothing that happens afterwards lifts that (`Site.Moves.barred`).
-/

namespace BatchTraversal

namespace Scheduler

/-- Whether the run of a batch is about to save a checkpoint. -/
def Saving (p : Scheduler) (t : TaskId) : Prop :=
  ∃ count next, p.stage? t = some (.saving count next)

/-- What holds of a batch that was barred from saving a checkpoint. -/
structure Barred (p : Scheduler) (t : TaskId) : Prop where
  known : t < p.pool.tasks.length
  queue : t ∉ p.pool.queue
  cut : p.pool.isExecuting t → p.pool.isTripped t ∧ ¬ p.Saving t

variable {p q : Scheduler} {t : TaskId}

/-- A batch that is neither open nor about to save a checkpoint is barred. -/
theorem Flight.barred (h : p.Flight) (hknown : t < p.pool.tasks.length) (hopen : ¬ p.pool.Open t)
    (hsaving : ¬ p.Saving t) : p.Barred t := by
  refine ⟨hknown, fun hq => hopen ⟨.inl hq, h.sound.unrequested t hq⟩, fun hx => ⟨?_, hsaving⟩⟩
  by_contra htrip
  exact hopen ⟨.inr hx, fun hr => htrip (h.sound.tripped t hr)⟩

theorem Barred.of_spares (h : p.Barred t) (hs : p.pool.Spares t q.pool) : q.Barred t := by
  refine ⟨lt_of_spares hs h.known, fun hq => h.queue (hs.queue hq), fun hx => ?_⟩
  obtain ⟨htrip, hsaving⟩ := h.cut (hs.executing.1 hx)
  have hstage : q.stage? t = p.stage? t := congrArg (Option.map Batch.stage) hs.payload?
  exact ⟨hs.tripped htrip, fun ⟨count, next, hst⟩ => hsaving ⟨count, next, hstage ▸ hst⟩⟩

/-- A batch that leaves its worker is barred. -/
theorem Barred.finish (h : p.Barred t) (hq : q.pool = p.pool.finish t) : q.Barred t := by
  refine ⟨?_, ?_, fun hx => ?_⟩
  · rw [hq]
    exact (Pool.length_markDone p.pool t).symm ▸ h.known
  · rw [hq]
    exact h.queue
  · rw [hq] at hx
    exact absurd rfl (Pool.isExecuting_finish.1 hx).2

/-- A batch that was barred and takes up a stage in which it is not about to save stays barred. -/
theorem Barred.withStage (h : p.Barred t) {stage : RunStage}
    (hst : ∀ count next, stage ≠ .saving count next)
    (hq : q.pool = (p.withStage t stage).pool) : q.Barred t := by
  refine ⟨?_, ?_, fun hx => ⟨?_, fun ⟨count, next, hs⟩ => ?_⟩⟩
  · rw [hq]
    exact (List.length_modify ..).symm ▸ h.known
  · rw [hq]
    exact h.queue
  · rw [hq] at hx ⊢
    exact (Pool.any_modifyTask p.pool t t (by intro task; rfl)).trans (h.cut hx).1
  · have hb : q.batch? t = (p.withStage t stage).batch? t := by rw [batch?, batch?, hq]
    rw [stage?, hb, batch?_withStage, if_pos rfl, Option.map_map] at hs
    obtain ⟨b, -, he⟩ := Option.map_eq_some_iff.1 hs
    exact hst count next he

/-- What enters no checkpoint for a batch leaves what was saved for it. -/
theorem saves_append {l : List Occurrence} (hj : q.journal = p.journal ++ l)
    (hl : ∀ o ∈ l, o.savedOf? t = none) : q.saves t = p.saves t := by
  rw [saves, hj, List.filterMap_append, List.filterMap_eq_nil_iff.2 hl, List.append_nil]
  rfl

end Scheduler

namespace Site

variable {s s' : Site} {t u : TaskId}

/-- A turn of a batch that was barred saves nothing, and it stays barred. -/
theorem Turn.barred (h : Turn t s s') (hb : s.scheduler.Barred t) :
    s'.scheduler.Barred t ∧ s'.scheduler.saves t = s.scheduler.saves t := by
  cases h with
  | take h =>
    obtain ⟨rest, hq, -⟩ := Pool.take?_eq_some h
    exact absurd (hq ▸ List.mem_cons_self) hb.queue
  | @move b k r hx hbatch =>
    obtain ⟨htrip, hsaving⟩ := hb.cut hx
    refine ⟨hb.withStage (fun count next hst => ?_) rfl, Scheduler.saves_append rfl fun o ho => ?_⟩
    · rw [htrip] at hst
      exact nomatch (RunStage.saving_of_advance hst).1
    · obtain ⟨e, he, rfl⟩ := Option.map_eq_some_iff.1 (Option.mem_toList.1 ho)
      cases e with
      | called => rfl
      | saved checkpoint =>
        obtain ⟨count, hst⟩ := RunStage.saving_of_saved he
        exact absurd ⟨count, checkpoint, hst ▸ Scheduler.stage?_of_batch? hbatch⟩ hsaving
  | @answer b r checkpoint a =>
    refine ⟨hb.withStage (q := Scheduler.note _ _) (fun count next hst => ?_) rfl,
      Scheduler.saves_append rfl fun o ho => ?_⟩
    · cases a <;> cases hst
    · rw [List.mem_singleton.1 ho]
      rfl
  | crash | retire | choke => exact ⟨hb.finish rfl, rfl⟩
  | count =>
    refine ⟨hb.finish rfl, Scheduler.saves_append rfl fun o ho => ?_⟩
    rw [List.mem_singleton.1 ho]
    rfl
  | @settle b k code =>
    rcases settleBatch_cases (s.counted t k (BatchResult.ofCode code).count) t b k (.ofCode code) with
      ⟨-, he⟩ | ⟨-, disabled, -, he⟩ <;> rw [he]
    · refine ⟨hb.finish rfl, Scheduler.saves_append rfl fun o ho => ?_⟩
      rw [List.mem_singleton.1 ho]
      rfl
    · refine ⟨hb.finish rfl, Scheduler.saves_append (List.append_assoc ..) fun o ho => ?_⟩
      rcases List.mem_append.1 ho with ho | ho <;> rw [List.mem_singleton.1 ho] <;> rfl

/-- Whatever a process does, a batch that was barred stays so and saves nothing. -/
theorem Moves.barred (h : Moves s s') (hb : s.scheduler.Barred t) :
    s'.scheduler.Barred t ∧ s'.scheduler.saves t = s.scheduler.saves t := by
  induction h with
  | refl => exact ⟨hb, rfl⟩
  | tail _ h ih =>
    obtain ⟨hb₁, hsame⟩ := ih
    cases h with
    | chore h => exact ⟨hb₁.of_spares (h.spares hb₁.known), (h.silent hb₁.known).saves.trans hsame⟩
    | turn u h =>
      by_cases htu : t = u
      · subst htu
        obtain ⟨hb₂, hsame'⟩ := h.barred hb₁
        exact ⟨hb₂, hsame'.trans hsame⟩
      · exact ⟨hb₁.of_spares (h.spares htu), (h.silent_other htu).saves.trans hsame⟩

theorem act_barred (hr : s.scheduler.Registered) (hb : s.scheduler.Barred t) (a : Action) :
    (s.act a).scheduler.Barred t ∧ (s.act a).scheduler.saves t = s.scheduler.saves t := by
  obtain ⟨s', inventory, h, e⟩ := act_moves hr a
  obtain ⟨hb', hsame⟩ := Moves.barred h hb
  rw [e]
  exact ⟨⟨hb'.known, hb'.queue, hb'.cut⟩, hsame⟩

end Site

end BatchTraversal
