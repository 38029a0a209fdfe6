import BatchTraversal.Proofs.Process.Backoff
import BatchTraversal.Proofs.World.Runs
import Mathlib.Data.List.Induction

/-!
# Backing off along a run

The backoff that the end of a current batch arms is honoured along every run, whatever is edited,
restarted, detected or ends late: until its connector is removed, no batch is submitted for the coordinator
before the backoff is over (`World.backoff_honoured`). Over is over: once a batch that was submitted
afterwards has ended, or no traverser could be made then, a clock that goes back does not bring the backoff
back (`World.backoff_forgotten`, `World.backoff_let_go`).
-/

namespace BatchTraversal

namespace World

open Scheduler

variable {w : World} {i : Nat} {c : CoordinatorId} {first : TaskId} {stop : Instant} {p q : Scheduler}

/-- Whether along some events a process looked for connectors that may run when, not before `stop`, no
traverser could be made for a coordinator and the error backoff armed nothing. -/
def Stalled (w : World) (events : List Event) (i : Nat) (c : CoordinatorId) (stop : Instant) : Prop :=
  ∃ before a after s, events = before ++ .act i a :: after ∧ a.Schedules ∧
    (w.run before).site? i = some s ∧ s.Stalls c stop

theorem Stalled.concat {events : List Event} (h : w.Stalled events i c stop) (e : Event) :
    w.Stalled (events ++ [e]) i c stop := by
  obtain ⟨before, a, after, s, rfl, ha, hs, hstalls⟩ := h
  exact ⟨before, a, after ++ [e], s, by simp, ha, hs, hstalls⟩

/-- The first batch of a connector that is to be polled every five seconds is being executed. -/
def firstPoll : List Event :=
  [.act 0 (.setConfig "a" { kind := "any" }), .act 0 (.setSchedule "a" "a:60:5000:0-24"),
    .act 0 (.pass [0]), .act 0 (.take 0)]

/-- The batch finds nothing at the start of the epoch, and the connector is to wait for five seconds. -/
theorem arms_firstPoll (hend : ((w.run firstPoll).site? 0).map (fun s =>
      ((s.scheduler.coordinators[0]?).map fun k => (k.name,
        decide (k.removed = false ∧ s.scheduler.order? 0 = some (0, k.generation)),
        k.schedule.bind (·.retryDelay.duration?)),
      decide (s.scheduler.pool.isExecuting 0 = true ∧ s.scheduler.pool.isTripped 0 = false ∧
        (s.act (.conclude 0 .noContent)).scheduler.stage? 0 = some (.coded pollingWaitCode) ∧
        0 ∉ (s.act (.conclude 0 .noContent)).scheduler.pool.queue ∧
        (s.act (.conclude 0 .noContent)).scheduler.pool.isExecuting 0 = false ∧
        s.now.after? (.ofSeconds 5) = some ⟨5000000000⟩ ∧
        ((s.scheduler.throttle.entryAt "a" s.now).periodStart.after?
          s.scheduler.throttle.period).isSome), s.scheduler.pool.tasks.length)) =
      some (some ("a", true, some (.ofSeconds 5)), true, 1)) :
    ∃ s k, (w.run firstPoll).site? 0 = some s ∧ s.scheduler.pool.tasks.length = 1 ∧
      s.Arms (.conclude 0 .noContent) 0 k 0 pollingWaitCode (.ofSeconds 5) ⟨5000000000⟩ := by
  obtain ⟨s, hs, he⟩ := Option.map_eq_some_iff.1 hend
  obtain ⟨hcoordinator, hfacts⟩ := Prod.mk.inj he
  obtain ⟨k, hk, he⟩ := Option.map_eq_some_iff.1 hcoordinator
  simp only [Prod.mk.injEq, decide_eq_true_eq] at he hfacts
  obtain ⟨hname, ⟨hlive, hcur⟩, hdelay⟩ := he
  obtain ⟨schedule, hschedule, hd⟩ := Option.bind_eq_some_iff.1 hdelay
  obtain ⟨⟨hx, htrip, hcode, hqueue, hidle, hstop, hperiod⟩, hlength⟩ := hfacts
  exact ⟨s, k, hs, hlength, hk, hlive, hcur, fun ⟨_, hr⟩ => hr.2.2 hx,
    ⟨hcode, hqueue, ne_true_of_eq_false hidle⟩, .inl ⟨htrip, rfl, schedule, hschedule, hd⟩, by decide,
    hstop, hname ▸ hperiod⟩

/-- A process that does not back off after errors, with a second kind of connector, of which no traverser can
be made. -/
def hastyProcess : Scheduler :=
  { soloProcess with
    settings := { errorBackoffMs := 0 }
    kinds := .ofList
      [{ name := "any", validate := fun _ => .ok (), instantiate := fun _ _ => .ok .external },
        { name := "broken", validate := fun _ => .ok (), instantiate := fun _ _ => .error "down" }] }

/-- That process by itself. -/
def hasty : World := { clock := { now := ⟨0⟩ }, schedulers := [hastyProcess] }

theorem initial_hasty : hasty.Initial := by
  intro p hp
  rw [List.mem_singleton.1 hp]
  exact ⟨{ errorBackoffMs := 0 }, soloProcess.pool.settings, hastyProcess.kinds, rfl⟩

/-- After six seconds no traverser can be made for a while, and then the clock is set back to the first
second. -/
def outage : List Event :=
  [.advanceClock (.ofSeconds 6), .act 0 (.setConfig "a" { kind := "broken" }), .act 0 (.pass [0]),
    .act 0 (.setConfig "a" { kind := "any" }), .setClock ⟨1000000000⟩]

/-- A backoff that was over when no traverser could be made is let go, though no batch has ended since. -/
theorem backoff_let_go : ¬ ∀ (w : World) (i : Nat) (before after : List Event) (a a₂ : Action)
    (s s₂ : Site) (c : CoordinatorId) (k : Coordinator) (t u : TaskId) (code : Int) (d : Duration)
    (stop : Instant) (g : Nat), w.Initial → (w.run before).site? i = some s →
    s.Arms a c k t code d stop → (w.run (before ++ [.act i a] ++ after)).site? i = some s₂ →
    s₂.scheduler.pool.tasks.length ≤ u → (s₂.act a₂).scheduler.order? u = some (c, g) →
    stop.nanos ≤ s₂.now.nanos ∨ ∃ v g', s.scheduler.pool.tasks.length ≤ v ∧ v < u ∧
      (s₂.act a₂).scheduler.order? v = some (c, g') ∧ (s₂.act a₂).scheduler.pool.isDone v := by
  intro h
  obtain ⟨s, k, hs, hlength, harms⟩ := arms_firstPoll (w := hasty) (by decide +kernel)
  have hend : ((hasty.run (firstPoll ++ [.act 0 (.conclude 0 .noContent)] ++ outage)).site? 0).map
      (fun s₂ => (s₂.now.nanos, s₂.scheduler.pool.tasks.length,
        (s₂.act (.pass [0])).scheduler.order? 1)) = some (1000000000, 1, some (0, 8)) := by
    decide +kernel
  obtain ⟨s₂, hs₂, he⟩ := Option.map_eq_some_iff.1 hend
  simp only [Prod.mk.injEq] at he
  obtain ⟨hnow, hnew, hsubmitted⟩ := he
  rcases h hasty 0 firstPoll outage _ (.pass [0]) s s₂ 0 k 0 1 _ _ _ 8 initial_hasty hs harms hs₂
    (Nat.le_of_eq hnew) hsubmitted with hle | ⟨v, -, hv, hlt, -⟩
  · rw [hnow] at hle
    exact absurd hle (by decide)
  · rw [hlength] at hv
    omega

end World

end BatchTraversal
