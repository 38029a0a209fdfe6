import BatchTraversal.Proofs.Process.Severed
import BatchTraversal.Proofs.World.Runs

/-!
# Interrupted batches along a run

A change of a connector interrupts the batch that its coordinator has in flight: the coordinator gives
up its handle. A batch that was queued then, or was waiting for its adapter or for the adapter's answer,
is cut off by that (`Site.act_severs`) and stays cut off for the rest of the run
(`World.run_severed`). So whatever its adapter answers, and however late, the batch leaves no trace but
the count of its items (`World.interrupted_leaves_no_trace`).
-/

namespace BatchTraversal

/-- Whether an action is of a kind that may interrupt a batch. -/
def Action.Interrupts : Action → Prop
  | setConfig .. | setSchedule .. | restart _ | remove _ | detect => True
  | _ => False

/-- Whether an action is one of a batch that has left the queue. -/
def Action.OfBatch (t : TaskId) : Action → Prop
  | advance u | answer u _ | proceed u | conclude u _ => u = t
  | _ => False

namespace Scheduler

/-- Whether a batch is queued, or is executed and has not begun, waits for its adapter or waits for the
adapter's answer. -/
def InPlay (p : Scheduler) (t : TaskId) : Prop :=
  t ∈ p.pool.queue ∨ p.pool.isExecuting t ∧ (p.stage? t = some .entering ∨ ∃ checkpoint,
    p.stage? t = some (.waiting checkpoint) ∨ p.stage? t = some (.calling checkpoint))

variable {p : Scheduler} {c : CoordinatorId} {k : Coordinator} {t : TaskId}

/-- The run of a batch that is in play looks at its token before it touches the store. -/
theorem Flight.guarded_inPlay (h : p.Flight) (hk : p.coordinators[c]? = some k)
    (hh : k.handle = some t) (hplay : p.InPlay t) : p.Guarded t := by
  rcases hplay with hq | ⟨-, hst | ⟨checkpoint, hst | hst⟩⟩
  · obtain ⟨b, hb, -⟩ := Option.map_eq_some_iff.1 (h.handled c k t hk hh)
    exact ⟨.entering, by rw [stage?_of_batch? hb, h.fresh t hq b hb], trivial⟩
  all_goals exact ⟨_, hst, trivial⟩

end Scheduler

namespace Site

variable {s : Site} {c : CoordinatorId} {k : Coordinator} {t : TaskId} {a : Action}

/-- An action that may interrupt batches is a sequence of edits, after which a detection replaces the
inventory. -/
theorem interrupts_edits (hr : s.scheduler.Registered) (ha : a.Interrupts) :
    ∃ s' inventory, Edits s s' ∧ s.act a = s'.withInventory inventory := by
  cases a with
  | detect => exact detect_edits hr
  | setConfig name config =>
    exact ⟨_, _, setConfig_edits hr name config, (withInventory_self _).symm⟩
  | setSchedule name text =>
    exact ⟨_, _, setSchedule_call_edits hr name text, (withInventory_self _).symm⟩
  | remove name => exact ⟨_, _, removeConnector_edits hr name, (withInventory_self _).symm⟩
  | restart name => exact ⟨_, _, restartConnector_edits hr name, (withInventory_self _).symm⟩
  | _ => cases ha

theorem ofBatch_turns (ha : a.OfBatch t) : Turns t s (s.act a) := by
  cases a with
  | advance u => exact (show u = t from ha) ▸ s.advance_turns u
  | answer u x => exact (show u = t from ha) ▸ s.answer_turns u x
  | proceed u => exact (show u = t from ha) ▸ s.drive_turns u
  | conclude u x => exact (show u = t from ha) ▸ s.conclude_turns u x
  | _ => cases ha

/-- If a coordinator gives up the handle of a batch in play by such an action, the batch is cut off,
and it has neither saved a checkpoint nor delivered a result meanwhile. -/
theorem act_severs (ho : s.scheduler.Orderly) (ha : a.Interrupts)
    (hk : s.scheduler.coordinators[c]? = some k) (hh : k.handle = some t)
    (hplay : s.scheduler.InPlay t)
    (hcut : ∀ k', (s.act a).scheduler.coordinators[c]? = some k' → k'.handle ≠ some t) :
    (s.act a).scheduler.Severed t ∧ s.scheduler.Silent t (s.act a).scheduler := by
  obtain ⟨s', inventory, hedits, e⟩ := interrupts_edits ho.registered ha
  have h := hedits.chores
  rw [e] at hcut ⊢
  have hsilent : s.scheduler.Silent t s'.scheduler :=
    Chores.silent h (Scheduler.lt_of_order? (ho.flight.handled c k t hk hh))
  rcases Chores.sever h ho.flight hk hh fun _ => ho.flight.guarded_inPlay hk hh hplay with
    ⟨k', hk', hh'⟩ | hs
  · exact absurd hh' (hcut k' hk')
  · exact ⟨⟨hs.known, hs.queue, hs.cut⟩, ⟨hsilent.order, hsilent.saves, hsilent.deliveries⟩⟩

/-- No action mends a batch that was cut off. -/
theorem act_severed (ho : s.scheduler.Orderly) (hs : s.scheduler.Severed t) (a : Action) :
    (s.act a).scheduler.Severed t ∧ s.scheduler.Silent t (s.act a).scheduler := by
  obtain ⟨s', inventory, h, e⟩ := act_moves ho.registered a
  obtain ⟨hs', hsilent⟩ := Moves.severed h ho.flight hs
  rw [e]
  exact ⟨⟨hs'.known, hs'.queue, hs'.cut⟩, ⟨hsilent.order, hsilent.saves, hsilent.deliveries⟩⟩

end Site

namespace World

variable {w : World} {i : Nat} {p p' : Scheduler} {t : TaskId}

/-- A batch that was cut off stays so along a run, and neither saves a checkpoint nor delivers a
result. -/
theorem run_severed (hw : ∀ p ∈ w.schedulers, p.Orderly) (hp : w.schedulers[i]? = some p)
    (hs : p.Severed t) (events : List Event) (hp' : (w.run events).schedulers[i]? = some p') :
    p'.Severed t ∧ p.Silent t p' := by
  refine run_process (P := fun q => q.Severed t ∧ p.Silent t q) hw (fun s a ho h => ?_) hp
    ⟨hs, .refl t p⟩ events hp'
  obtain ⟨hsev, hsilent⟩ := Site.act_severed ho h.1 a
  exact ⟨hsev, h.2.trans hsilent⟩

/-- If a coordinator gives up the handle of a batch in play because its connector was configured,
scheduled, restarted or removed, by a call or because a detection found that in the store, then at
every later moment of the run: the batch is still that of the coordinator, and not queued; it has
neither saved a checkpoint nor had a result delivered since; and whatever it does next, with whatever
answer of its adapter, leaves no trace but the count of its items, and not even that if the coordinator
is removed. -/
theorem interrupted_leaves_no_trace (hw : w.Initial) (before after : List Event) {a : Action}
    (ha : a.Interrupts) {s s' : Site} (hs : (w.run before).site? i = some s) {c : CoordinatorId}
    {k : Coordinator} (hk : s.scheduler.coordinators[c]? = some k) (hh : k.handle = some t)
    (hplay : s.scheduler.InPlay t)
    (hcut : ∀ k', (s.act a).scheduler.coordinators[c]? = some k' → k'.handle ≠ some t)
    (hs' : (w.run (before ++ .act i a :: after)).site? i = some s') :
    s'.scheduler.order? t = some (c, k.generation) ∧ t ∉ s'.scheduler.pool.queue ∧
      s.scheduler.Silent t s'.scheduler ∧
      ∀ next : Action, next.OfBatch t → s'.Traceless t (s'.act next) := by
  obtain ⟨hp, -⟩ := site?_eq_some.1 hs
  have ho := run_orderly hw before _ (List.mem_of_getElem? hp)
  obtain ⟨hsev, hsilent⟩ := Site.act_severs ho ha hk hh hplay hcut
  have hstep : (w.run before).step (.act i a) = (w.run before).withSite i (s.act a) := by
    rw [step, hs]
  have hcutoff : ((w.run before).step (.act i a)).schedulers[i]? = some (s.act a).scheduler := by
    rw [hstep]
    exact List.getElem?_set_self (List.getElem?_eq_some_iff.1 hp).1
  rw [List.append_cons, run_append, run_concat] at hs'
  have hrest := run_severed (run_concat w before (.act i a) ▸ run_orderly hw _) hcutoff hsev after
    (site?_eq_some.1 hs').1
  have hall := hsilent.trans hrest.2
  exact ⟨hall.order.trans (ho.flight.handled c k t hk hh), hrest.1.queue, hall,
    fun next hnext => (Site.Turns.traceless (Site.ofBatch_turns hnext) hrest.1).1⟩

/-- A connector that was removed is made anew. -/
def remade : List Event := [.act 0 (.setConfig "a" { kind := "any" })]

/-- The batch in flight when the connector is removed leaves no trace once the connector has been made anew, not
even when its adapter then returns a page. -/
theorem interrupted_leaves_no_trace_remade : ∃ s s' k,
    (solo.run firstBatch).site? 0 = some s ∧ s.scheduler.coordinators[0]? = some k ∧
    k.handle = some 0 ∧ s.scheduler.InPlay 0 ∧
    (solo.run (firstBatch ++ .act 0 (.remove "a") :: remade)).site? 0 = some s' ∧
    s.scheduler.Silent 0 s'.scheduler ∧
    s'.Traceless 0 (s'.conclude 0 (.page ⟨3, some "c"⟩)) := by
  refine ⟨_, _, _, rfl, rfl, rfl, .inr ⟨rfl, .inr ⟨none, .inr rfl⟩⟩, rfl, ?_⟩
  have h := interrupted_leaves_no_trace (t := 0) (c := 0) (i := 0) (a := .remove "a") initial_solo
    firstBatch remade trivial rfl rfl rfl (.inr ⟨rfl, .inr ⟨none, .inr rfl⟩⟩)
    (fun k' hk' => by cases hk'; nofun) rfl
  exact ⟨h.2.2.1, h.2.2.2 (.conclude 0 (.page ⟨3, some "c"⟩)) rfl⟩

end World

end BatchTraversal
