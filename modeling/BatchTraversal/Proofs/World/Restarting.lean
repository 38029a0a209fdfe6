import BatchTraversal.Proofs.Process.Restarting
import BatchTraversal.Proofs.World.Edits

/-!
# Restarts while a batch goes on

At whatever moment of a run a connector is restarted, the batch that its coordinator has in flight may go on
between any two steps of the restart. `World.restart_clears_iff` says when the checkpoint stays cleared. It
does not always (`World.restart_undone`): a batch that has looked at its token before it was cancelled saves
its checkpoint after the restart has cleared it.
-/

namespace BatchTraversal

/-- A batch in flight stands as a restart that is about to begin expects it. -/
theorem Scheduler.Orderly.restarting {s : Site} (ho : s.scheduler.Orderly) (hb : s.backend.Reliable)
    {c : CoordinatorId} {k : Coordinator} {t : TaskId} (hk : s.scheduler.coordinators[c]? = some k)
    (hh : k.handle = some t) :
    (Restarting.mk .pending s).Standing c t ∧ s.Within c k.name t := by
  refine ⟨fun l hl => ?_, hb, ho.flight.sound, ⟨_, ho.flight.handled c k t hk hh⟩, k, hk, rfl, ?_⟩
  · cases hk.symm.trans hl
    exact .inl hh
  · refine eq_false_of_ne_true fun hr => ?_
    rw [ho.flight.removed c k hk hr] at hh
    cases hh

namespace World

/-- At any moment of a run at which the store works, the steps of a restart, one right after the other, are
the restart. If they alternate in any way with those of the batch that was in flight and of workers that
take batches, then, once the restart has returned and the batch has ended, the restart has returned no
error, and the checkpoint is cleared unless the batch stood between its look at its token and its save when
the restart cleared it. -/
theorem restart_clears_iff {w : World} (hw : w.Initial) (before : List Event) {i : Nat} {s : Site}
    (hs : (w.run before).site? i = some s) (hb : s.backend.Reliable) {c : CoordinatorId}
    {k : Coordinator} {t : TaskId} (hk : s.scheduler.coordinators[c]? = some k)
    (hh : k.handle = some t) (moves : List Restarting.Move) {result : Except Error Unit}
    (hend : (Restarting.run c t ⟨.pending, s⟩ moves).stage = .returned result)
    (hended : (Restarting.run c t ⟨.pending, s⟩ moves).site.scheduler.Ended t) :
    Restarting.run c t ⟨.pending, s⟩ [.restart, .restart, .restart] =
        ⟨.returned (s.restart c).1, (s.restart c).2⟩ ∧
      result = .ok () ∧
      ((Restarting.run c t ⟨.pending, s⟩ moves).site.backend.store.checkpoint? k.name = none ↔
        ¬ Restarting.Overtaken c t ⟨.pending, s⟩ moves) := by
  have ho := run_orderly hw before _ (List.mem_of_getElem? (site?_eq_some.1 hs).1)
  obtain ⟨hstanding, hwithin⟩ := ho.restarting hb hk hh
  exact ⟨Restarting.run_restart s c t, Restarting.run_cleared_iff hstanding hwithin moves hend hended⟩

/-- The store of a process works that has started over one that does. -/
theorem reliable_of_firstBatch {s : Site} (hs : (solo.run firstBatch).site? 0 = some s) :
    s.backend.Reliable := by
  rw [(site?_eq_some.1 hs).2.1]
  refine run_reliable initial_solo (fun _ h => nomatch h) fun e he => ?_
  simp only [firstBatch, List.mem_cons, List.not_mem_nil, or_false] at he
  rcases he with rfl | rfl | rfl | rfl <;> trivial

/-- The adapter of the first batch answers before the restart has cancelled the batch, which looks at its
token after that. -/
def cancelledInTime : List Restarting.Move :=
  [.restart, .answer (.page ⟨3, some "c"⟩), .restart, .advance, .restart, .advance]

/-- The batch looks at its token when the restart has tripped it, so it saves nothing and the checkpoint stays
cleared. -/
theorem restart_clears_iff_inTime : ∃ s k, (solo.run firstBatch).site? 0 = some s ∧
    s.scheduler.coordinators[0]? = some k ∧ k.handle = some 0 ∧ s.backend.Reliable ∧
    (Restarting.run 0 0 ⟨.pending, s⟩ cancelledInTime).stage = .returned (.ok ()) ∧
    (Restarting.run 0 0 ⟨.pending, s⟩ cancelledInTime).site.scheduler.Ended 0 ∧
    (Restarting.run 0 0 ⟨.pending, s⟩ cancelledInTime).site.backend.store.checkpoint? k.name = none := by
  obtain ⟨s, hs⟩ : ∃ s, (solo.run firstBatch).site? 0 = some s := ⟨_, rfl⟩
  have hb := reliable_of_firstBatch hs
  have hk : ((solo.run firstBatch).site? 0).map
      (fun s => (s.scheduler.coordinators[0]?).map (·.handle)) = some (some (some 0)) := by decide +kernel
  rw [hs, Option.map_some, Option.some.injEq] at hk
  obtain ⟨k, hk, hh⟩ := Option.map_eq_some_iff.1 hk
  have hend : ((solo.run firstBatch).site? 0).map (fun s =>
      let r := Restarting.run 0 0 ⟨.pending, s⟩ cancelledInTime
      (r.stage, decide (r.site.scheduler.Ended 0),
        decide (Restarting.Overtaken 0 0 ⟨.pending, s⟩ cancelledInTime))) =
      some (.returned (.ok ()), true, false) := by decide +kernel
  rw [hs, Option.map_some, Option.some.injEq, Prod.mk.injEq, Prod.mk.injEq, decide_eq_true_iff,
    decide_eq_false_iff_not] at hend
  obtain ⟨hstage, hended, hovertaken⟩ := hend
  exact ⟨s, k, hs, hk, hh, hb, hstage, hended,
    (restart_clears_iff initial_solo firstBatch hs hb hk hh cancelledInTime hstage hended).2.2.2
      hovertaken⟩

/-- The adapter of the first batch answers, and the batch looks at its token, before the restart begins; the
batch saves its checkpoint when the restart has returned. -/
def cancelledTooLate : List Restarting.Move :=
  [.answer (.page ⟨3, some "c"⟩), .advance, .restart, .restart, .restart, .advance, .advance]

/-- The checkpoint of the interrupted batch is stored after the restart. -/
theorem restart_undone : ¬ ∀ (w : World) (before : List Event) (i : Nat) (s : Site) (c : CoordinatorId)
    (k : Coordinator) (t : TaskId) (moves : List Restarting.Move), w.Initial →
    (w.run before).site? i = some s → s.backend.Reliable → s.scheduler.coordinators[c]? = some k →
    k.handle = some t → (Restarting.run c t ⟨.pending, s⟩ moves).stage = .returned (.ok ()) →
    (Restarting.run c t ⟨.pending, s⟩ moves).site.scheduler.Ended t →
    (Restarting.run c t ⟨.pending, s⟩ moves).site.backend.store.checkpoint? k.name = none := by
  intro h
  obtain ⟨s, hs⟩ : ∃ s, (solo.run firstBatch).site? 0 = some s := ⟨_, rfl⟩
  have hk : ((solo.run firstBatch).site? 0).map
      (fun s => (s.scheduler.coordinators[0]?).map (fun k => (k.handle, k.name))) =
      some (some (some 0, "a")) := by decide +kernel
  have hend : ((solo.run firstBatch).site? 0).map (fun s =>
      let r := Restarting.run 0 0 ⟨.pending, s⟩ cancelledTooLate
      (r.stage, decide (r.site.scheduler.Ended 0), r.site.backend.store.checkpoint? "a")) =
      some (.returned (.ok ()), true, some "c") := by decide +kernel
  rw [hs, Option.map_some, Option.some.injEq] at hk hend
  obtain ⟨k, hk, hh⟩ := Option.map_eq_some_iff.1 hk
  rw [Prod.mk.injEq] at hh
  rw [Prod.mk.injEq, Prod.mk.injEq, decide_eq_true_iff] at hend
  obtain ⟨hh, hname⟩ := hh
  obtain ⟨hstage, hended, hstored⟩ := hend
  have hnone := h solo firstBatch 0 s 0 k 0 cancelledTooLate initial_solo hs (reliable_of_firstBatch hs)
    hk hh hstage hended
  rw [hname, hstored] at hnone
  cases hnone

end World

end BatchTraversal
