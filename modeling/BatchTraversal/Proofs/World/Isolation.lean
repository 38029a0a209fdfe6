import BatchTraversal.Proofs.Process.Isolation
import BatchTraversal.Proofs.World.Reuse

/-!
# Isolated cancellation along a run

At every moment of every run, a batch that has not ended and was not cancelled has an untripped token,
and keeps it when others are cancelled (`World.cancellation_isolated`): by requests in any order for
batches that are queued, being executed or in flight for a coordinator, by an interruption of another
batch, by a look of the deadline monitor before its deadline, and by a shutdown that lets it run. So does
every action of the process that leaves it open.
-/

namespace BatchTraversal

namespace World

variable {w : World} {events : List Event} {i : Nat}

/-- The batches of a process are isolated along every run. -/
theorem run_isolated (hw : w.Initial) (events : List Event) :
    ∀ p ∈ (w.run events).schedulers, p.Orderly ∧ p.Sourced ∧ p.Isolated := by
  refine run_invariant (P := fun p => p.Orderly ∧ p.Sourced ∧ p.Isolated) (fun s a h => ?_)
    (fun p hp => ?_) events
  · obtain ⟨ho, hsourced, hisolated⟩ := h
    obtain ⟨s', inventory, hmoves, he⟩ := Site.act_moves ho.registered a
    obtain ⟨-, hisolated'⟩ := hmoves.isolated ho.flight hsourced hisolated
    refine ⟨Site.orderly_act ho a, Site.act_sourced ho.registered hsourced a, ?_⟩
    rw [he]
    exact hisolated'.of_traversers (.same rfl (fun _ => rfl) rfl fun _ => id) hisolated'.clear rfl
  · have hstart := hw p hp
    refine ⟨?_, Scheduler.sourced_start hstart, Scheduler.isolated_start hstart⟩
    obtain ⟨_, _, _, h⟩ := hstart
    exact Scheduler.orderly_start h

/-- An open batch has an untripped token at every moment of every run. It stays untripped whatever other
batches a call, the deadline monitor or a shutdown cancels, and after every action that leaves the batch
open. -/
theorem cancellation_isolated (hw : w.Initial) {s : Site} (hs : (w.run events).site? i = some s)
    {u : TaskId} (hu : s.scheduler.pool.Open u) :
    s.scheduler.pool.isTripped u = false ∧
    (∀ ts : List TaskId, (∀ t ∈ ts, s.scheduler.Cancellable t) → u ∉ ts →
      (s.scheduler.pool.requestAll s.scheduler.hook ts).isTripped u = false) ∧
    (∀ (c : CoordinatorId) (f : Coordinator → Coordinator),
      (∀ k, s.scheduler.coordinators[c]? = some k → k.handle ≠ some u) →
        (s.scheduler.interrupt c f).pool.isTripped u = false) ∧
    (u ∉ s.scheduler.pool.expiredTasks → s.scheduler.scan.pool.isTripped u = false) ∧
    (∀ interrupt, u ∉ s.scheduler.pool.queue → u ∉ s.scheduler.pool.stopped interrupt →
      (s.scheduler.shutDown interrupt).pool.isTripped u = false) ∧
    ∀ a, (s.act a).scheduler.pool.Open u → (s.act a).scheduler.pool.isTripped u = false := by
  have hp := (site?_eq_some.1 hs).1
  obtain ⟨ho, -, hi⟩ := run_isolated hw events _ (List.mem_of_getElem? hp)
  have hclear := hi.clear
  have hconf := hi.confined_pool ho.flight
  -- what is deliberate trips the token only if it requests the batch
  have huntripped {q : Pool Batch} (hq : s.scheduler.pool.Deliberate q)
      (hr : ¬ q.isRequested u) : q.isTripped u = false :=
    Bool.eq_false_iff.2 fun ht => hr (hq u hu ht)
  refine ⟨hclear u hu, fun ts hts hmem => huntripped ?_ fun hr => ?_, fun c f hne => ?_,
    fun hmem => huntripped (Pool.careful_scan _ hclear hconf) fun hr => ?_,
    fun interrupt hq hmem => huntripped (Pool.careful_shutDown _ interrupt hclear hconf) fun hr => ?_,
    fun a hopen => ?_⟩
  · exact hclear.deliberate.requestAll (.refl _) fun t ht => hi.confined ho.flight (hts t ht)
  · exact hu.2 (Pool.isRequested_of_requestAll _ hmem hr)
  · cases hk : s.scheduler.coordinators[c]? with
    | none =>
      rw [Scheduler.interrupt, hk]
      exact hclear u hu
    | some k =>
      refine huntripped (hi.deliberate_interrupt ho.flight hk f) fun hr => ?_
      rw [Scheduler.interrupt_eq hk] at hr
      cases hh : k.handle with
      | none =>
        rw [hh] at hr
        exact hu.2 hr
      | some t =>
        rw [hh] at hr
        refine hne k hk ?_
        rw [hh, (Pool.isRequested_of_cancel hr).resolve_left hu.2]
  · exact (Pool.isRequested_of_scan hr).elim hu.2 hmem
  · exact (Pool.isRequested_of_shutDown hr).elim hu.2 fun h => h.elim hq hmem
  · have hstep : (w.run (events ++ [.act i a])).schedulers[i]? = some (s.act a).scheduler := by
      rw [run_act hs]
      exact withSite_self hs _
    exact (run_isolated hw _ _ (List.mem_of_getElem? hstep)).2.2.clear u hopen

/-- The process of `solo` with two workers. -/
def tandem : World :=
  { solo with schedulers := [{ soloProcess with
      pool := { settings := { name := "tandem", workers := 2 }, workers := [0, 1], spawned := 2 } }] }

theorem initial_tandem : tandem.Initial := by
  intro p hp
  rw [List.mem_singleton.1 hp]
  exact ⟨{}, { name := "tandem", workers := 2 }, soloProcess.kinds, rfl⟩

/-- The first batch is cancelled by a new schedule while its adapter is at work, and the second worker
begins the next batch on the same traverser. -/
def overlapping : List Event := rescheduled ++ [.act 0 (.pass [0]), .act 0 (.take 1)]

/-- The hook of the first batch names the second one, which is open, and cancelling the first one once
more does not reach it. -/
theorem cancellation_isolated_overlapping : ∃ s, (tandem.run overlapping).site? 0 = some s ∧
    (s.scheduler.batch? 0).bind s.scheduler.hook = some 1 ∧ s.scheduler.pool.Open 1 ∧
    s.scheduler.pool.isTripped 0 = true ∧
    (s.scheduler.pool.requestAll s.scheduler.hook [0]).isTripped 1 = false ∧
    (s.scheduler.shutDown false).pool.isTripped 1 = false := by
  obtain ⟨s, hs⟩ : ∃ s, (tandem.run overlapping).site? 0 = some s := ⟨_, rfl⟩
  have hshown : ((tandem.run overlapping).site? 0).map (fun s =>
      (((s.scheduler.batch? 0).bind s.scheduler.hook, s.scheduler.pool.executing,
        s.scheduler.pool.queue), s.scheduler.pool.isRequested 1, s.scheduler.pool.isTripped 0)) =
      some ((some 1, [(0, 0), (1, 1)], []), false, true) := by decide +kernel
  rw [hs, Option.map_some, Option.some.injEq] at hshown
  simp only [Prod.mk.injEq] at hshown
  obtain ⟨⟨hhook, hexecuting, hqueue⟩, hrequested, htripped⟩ := hshown
  have hexec (t : TaskId) (ht : t = 0 ∨ t = 1) : s.scheduler.pool.isExecuting t := by
    rw [Pool.isExecuting_iff, hexecuting]
    simpa using ht
  have hopen : s.scheduler.pool.Open 1 := ⟨.inr (hexec 1 (.inr rfl)), by simp [hrequested]⟩
  obtain ⟨-, hrequests, -, -, hdown, -⟩ := cancellation_isolated initial_tandem hs hopen
  refine ⟨s, hs, hhook, hopen, htripped, hrequests [0] (fun t ht => ?_) (by decide),
    hdown false (by simp [hqueue]) List.not_mem_nil⟩
  exact .inr (.inl (hexec t (.inl (List.mem_singleton.1 ht))))

end World

end BatchTraversal
