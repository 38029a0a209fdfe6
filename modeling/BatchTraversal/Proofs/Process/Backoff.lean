import BatchTraversal.Proofs.Process.Enrolled
import BatchTraversal.Proofs.Process.Severed
import BatchTraversal.Proofs.Process.Tallies
import BatchTraversal.Proofs.Process.Trims
import BatchTraversal.Proofs.Throttle.Backoff

/-!
# Backing off until a moment

The batch that ends as the current one of a coordinator arms the backoff of the connector
(`Site.Turns.held`). From then on the connector is held (`Scheduler.Held`): it backs off until that
moment at least, the coordinator has nothing in flight but what was submitted since, and the batches from
before have no say any more (`Scheduler.Muted`), so that they end without moving the backoff. A batch is
submitted for the coordinator only when the backoff is over (`Site.Upkeeps.held_until`). The connector
stays held until one of the batches submitted since has ended (`Scheduler.Relieved`), or until no traverser
can be made for it when the backoff is over and the error backoff arms nothing (`Site.Stalls`).
-/

namespace BatchTraversal

/-- Whether an action makes a process look for connectors that may run. -/
def Action.Schedules : Action → Prop
  | pass _ | start .. => True
  | _ => False

namespace Scheduler

/-- Whether a batch has no say any more: it has left the queue, and if it is executed its coordinator has
moved on. -/
structure Muted (p : Scheduler) (t : TaskId) : Prop where
  known : t < p.pool.tasks.length
  queue : t ∉ p.pool.queue
  cut : p.pool.isExecuting t → p.Superseded t

/-- Whether the connector of a coordinator backs off until a moment at least, or is removed, and no batch
submitted before `first` can have a say in that. -/
structure Held (p : Scheduler) (c : CoordinatorId) (first : TaskId) (stop : Instant) : Prop where
  coordinator : ∃ k, p.coordinators[c]? = some k ∧ (∀ u, k.handle = some u → first ≤ u) ∧
    (k.removed = false →
      ∃ due, p.throttle.stop? k.name = some due ∧ stop.nanos ≤ due.nanos)
  known : first ≤ p.pool.tasks.length
  muted : ∀ u g, u < first → p.order? u = some (c, g) → p.Muted u

/-- Whether a batch of a coordinator that was not submitted before `first` has ended. -/
def Relieved (p : Scheduler) (c : CoordinatorId) (first : TaskId) : Prop :=
  ∃ v g, first ≤ v ∧ p.order? v = some (c, g) ∧ p.pool.isDone v

/-- Whether every batch is still that of its coordinator, and one that has ended has ended for good. -/
def Retains (p q : Scheduler) : Prop :=
  ∀ v o, p.order? v = some o → q.order? v = some o ∧ (p.pool.isDone v → q.pool.isDone v)

/-- Whether a coordinator keeps its batch in flight or gives it up, and its connector goes on backing off
unless it is removed. -/
def Sustains (p q : Scheduler) (c : CoordinatorId) : Prop :=
  ∀ k, p.coordinators[c]? = some k → ∃ k', q.coordinators[c]? = some k' ∧
    (k'.handle = none ∨ k'.handle = k.handle) ∧
    (k'.removed = false → k.removed = false ∧ q.throttle.stop? k'.name = p.throttle.stop? k.name)

variable {p q r : Scheduler} {t u : TaskId} {c d : CoordinatorId} {k l : Coordinator} {first : TaskId}
  {stop : Instant}

theorem Retains.refl (p : Scheduler) : p.Retains p := fun _ _ ho => ⟨ho, id⟩

/-- What is retained step by step is retained. -/
theorem Retains.trans (h : p.Retains q) (h' : q.Retains r) : p.Retains r := by
  intro v o ho
  obtain ⟨ho', hdone⟩ := h v o ho
  obtain ⟨ho'', hdone'⟩ := h' v o ho'
  exact ⟨ho'', hdone' ∘ hdone⟩

/-- A backoff that was relieved once stays so. -/
theorem Relieved.of_retains (hr : p.Relieved c first) (h : p.Retains q) : q.Relieved c first := by
  obtain ⟨v, g, hv, ho, hd⟩ := hr
  exact ⟨v, g, hv, (h v _ ho).1, (h v _ ho).2 hd⟩

/-- A muted batch stays muted while it is spared and its coordinator only ages. -/
theorem Muted.of_spares (h : p.Muted t) (hs : p.pool.Spares t q.pool) (ha : p.Ages q) : q.Muted t :=
  ⟨lt_of_spares hs h.known, fun hq => h.queue (hs.queue hq),
    fun hx => (h.cut (hs.executing.1 hx)).of_ages hs ha⟩

/-- A connector stays held if its coordinator sustains that and the batches from before stay muted. -/
theorem Held.of_sustains (h : p.Held c first stop) (hs : p.Sustains q c)
    (hlen : p.pool.tasks.length ≤ q.pool.tasks.length)
    (hm : ∀ u g, u < first → q.order? u = some (c, g) → q.Muted u) : q.Held c first stop := by
  obtain ⟨k, hk, hhandle, hback⟩ := h.coordinator
  obtain ⟨k', hk', hsame, hkeep⟩ := hs k hk
  refine ⟨⟨k', hk', fun u hu => ?_, fun hlive => ?_⟩, Nat.le_trans h.known hlen, hm⟩
  · rcases hsame with hnone | hsame
    · rw [hnone] at hu
      cases hu
    · exact hhandle u (hsame ▸ hu)
  · obtain ⟨hlive', hstop⟩ := hkeep hlive
    rw [hstop]
    exact hback hlive'

/-- A change of one coordinator sustains if it keeps the name, leaves the batch in flight or gives it up,
and brings nothing back, as long as the connector goes on backing off. -/
theorem Sustains.modify {f : Coordinator → Coordinator}
    (hc : q.coordinators = p.coordinators.modify d f)
    (hf : ∀ k, p.coordinators[d]? = some k → (f k).name = k.name ∧
      ((f k).handle = none ∨ (f k).handle = k.handle) ∧ ((f k).removed = false → k.removed = false))
    (ht : ∀ k, p.coordinators[c]? = some k → k.removed = false →
      q.throttle.stop? k.name = p.throttle.stop? k.name) : p.Sustains q c := by
  intro k hk
  have hget := getElem?_modifyCoordinator p d c f
  rw [modifyCoordinator] at hget
  rw [hc, hget, hk]
  split
  · next hdc =>
    obtain ⟨hname, hhandle, hlive⟩ := hf k (hdc ▸ hk)
    refine ⟨f k, rfl, hhandle, fun hr => ⟨hlive hr, ?_⟩⟩
    rw [hname]
    exact ht k hk (hlive hr)
  · exact ⟨k, rfl, .inr rfl, fun hr => ⟨hr, ht k hk hr⟩⟩

/-- A backoff is sustained where neither the coordinators nor the end of it are touched. -/
theorem Sustains.same (hc : q.coordinators = p.coordinators)
    (ht : ∀ k, p.coordinators[c]? = some k → k.removed = false →
      q.throttle.stop? k.name = p.throttle.stop? k.name) : p.Sustains q c :=
  .modify (d := 0) (f := id) (by rw [hc, List.modify_id]) (fun _ _ => ⟨rfl, .inr rfl, id⟩) ht

/-- What is changed for the connector of one live coordinator leaves the backoffs of the others. -/
theorem Enrolled.stop?_of_alters (he : p.Enrolled) (hl : p.coordinators[d]? = some l)
    (hlivel : l.removed = false) (hne : d ≠ c) {throttle : Throttle}
    (ht : p.throttle.Alters l.name throttle) (k : Coordinator) (hk : p.coordinators[c]? = some k)
    (hlive : k.removed = false) : throttle.stop? k.name = p.throttle.stop? k.name := by
  rw [Throttle.stop?, Throttle.stop?, ht k.name fun hname => hne ?_]
  have hreg := he.registered c k hk hlive
  rw [hname, he.registered d l hl hlivel] at hreg
  exact Option.some.inj hreg

end Scheduler

namespace Site

open Scheduler

variable {s s' : Site} {t u : TaskId} {c d : CoordinatorId} {k : Coordinator} {first : TaskId}
  {stop : Instant}

/-- Whether it is not before a moment, no traverser can be made for a coordinator, and the error backoff
arms nothing. -/
def Stalls (s : Site) (c : CoordinatorId) (stop : Instant) : Prop :=
  stop.nanos ≤ s.now.nanos ∧
    Throttle.armed? s.now (some s.scheduler.settings.errorBackoff) = none ∧
    ∃ k config e, s.scheduler.coordinators[c]? = some k ∧ k.config = some config ∧
      s.scheduler.kinds.instantiate k.name config = .error e

/-! ## Batches from before -/

/-- A chore may submit a batch, and takes none back. -/
theorem Chore.length_le (h : Chore s s') :
    s.scheduler.pool.tasks.length ≤ s'.scheduler.pool.tasks.length := by
  rcases h.pool with hp | ⟨b, t, hs, -⟩
  · exact Nat.le_of_eq hp.length.symm
  · obtain ⟨-, -, -, -, -, deadline, htasks⟩ := Pool.submit_eq_some hs
    rw [htasks, List.length_append]
    exact Nat.le_add_right _ _

/-- A chore leaves every batch with its coordinator, and an ended one ended. -/
theorem Chore.retains (h : Chore s s') : s.scheduler.Retains s'.scheduler := by
  refine fun v o ho => ⟨(order?_of_spares (h.spares (lt_of_order? ho))).trans ho, fun hd => ?_⟩
  rcases h.pool with hp | ⟨b, u, hs, -⟩
  · exact hp.done v hd
  · obtain ⟨-, -, -, -, -, deadline, htasks⟩ := Pool.submit_eq_some hs
    rw [Pool.isDone, htasks, Pool.any_append rfl]
    exact hd

/-- A chore lets no batch from before the backoff speak again. -/
theorem Chore.muted (h : Chore s s') (hf : s.scheduler.Flight) (hh : s.scheduler.Held c first stop)
    (u : TaskId) (g : Nat) (hu : u < first) (ho : s'.scheduler.order? u = some (c, g)) :
    s'.scheduler.Muted u := by
  have hs := h.spares (Nat.lt_of_lt_of_le hu hh.known)
  exact (hh.muted u g hu ((order?_of_spares hs).symm.trans ho)).of_spares hs (h.ages hf)

/-- A turn of a batch submits none. -/
theorem Turn.length (h : Turn t s s') :
    s'.scheduler.pool.tasks.length = s.scheduler.pool.tasks.length := by
  cases h with
  | take h =>
    obtain ⟨rest, -, rfl⟩ := Pool.take?_eq_some h
    rfl
  | move | answer => exact Pool.length_modifyTask ..
  | crash | retire | choke | count => exact Pool.length_markDone ..
  | @settle b k code =>
    rcases settleBatch_cases (s.counted t k (BatchResult.ofCode code).count) t b k (.ofCode code) with
      ⟨-, he⟩ | ⟨-, disabled, -, he⟩ <;> rw [he]
    all_goals exact Pool.length_markDone ..

/-- A turn leaves every batch with its coordinator, and an ended one ended. -/
theorem Turn.retains (h : Turn t s s') : s.scheduler.Retains s'.scheduler := by
  refine fun v o ho => ⟨(h.alike.order? v).trans ho, fun hd => ?_⟩
  have hfinish : (s.scheduler.pool.finish t).isDone v :=
    (Pool.isDone_markDone_iff s.scheduler.pool t v).2 (.inl hd)
  cases h with
  | take h =>
    obtain ⟨rest, -, rfl⟩ := Pool.take?_eq_some h
    exact hd
  | move | answer =>
    exact (Pool.any_modifyTask s.scheduler.pool t v (by intro task; rfl)).trans hd
  | crash | retire | choke | count => exact hfinish
  | @settle b k code =>
    rcases settleBatch_cases (s.counted t k (BatchResult.ofCode code).count) t b k (.ofCode code) with
      ⟨-, he⟩ | ⟨-, disabled, -, he⟩ <;> rw [he]
    all_goals exact hfinish

/-- No batch is lost from one moment to a later one. -/
theorem Moves.retains (h : Moves s s') : s.scheduler.Retains s'.scheduler := by
  induction h with
  | refl => exact .refl _
  | tail _ h ih =>
    cases h with
    | chore h => exact ih.trans h.retains
    | turn t h => exact ih.trans h.retains

/-- A turn leaves every batch muted, whether it is its own or not. -/
theorem Turn.muted (h : Turn u s s') (hm : s.scheduler.Muted t) : s'.scheduler.Muted t := by
  by_cases htu : t = u
  · subst htu
    have hlen := h.length.symm ▸ hm.known
    have hsup : s.scheduler.Superseded t → s'.scheduler.Superseded t := by
      rintro ⟨c, g, k, ho, hk, hg⟩
      obtain ⟨k', hk', hle⟩ := h.ages c k hk
      exact ⟨c, g, k', (h.alike.order? t).trans ho, hk', Nat.lt_of_lt_of_le hg hle⟩
    have hfinish {q : Scheduler} (hq : q.pool = s.scheduler.pool.finish t)
        (hlen : t < q.pool.tasks.length) : q.Muted t := by
      refine ⟨hlen, hq ▸ hm.queue, fun hx => ?_⟩
      rw [hq, Pool.isExecuting_finish] at hx
      exact absurd rfl hx.2
    cases h with
    | take h =>
      obtain ⟨rest, hq, -⟩ := Pool.take?_eq_some h
      exact absurd (hq ▸ List.mem_cons_self) hm.queue
    | move | answer => exact ⟨hlen, hm.queue, fun hx => hsup (hm.cut hx)⟩
    | crash | retire | choke | count => exact hfinish rfl hlen
    | @settle b k code =>
      rcases settleBatch_cases (s.counted t k (BatchResult.ofCode code).count) t b k (.ofCode code) with
        ⟨-, he⟩ | ⟨-, disabled, -, he⟩ <;> rw [he] at hlen ⊢
      all_goals exact hfinish rfl hlen
  · exact hm.of_spares (h.spares htu) h.ages

/-! ## Upkeep -/

/-- Upkeep through which the coordinator sustains it leaves a connector held. -/
theorem Upkeep.held_of_sustains (h : Upkeep s s') (hf : s.scheduler.Flight)
    (hh : s.scheduler.Held c first stop) (hs : s.scheduler.Sustains s'.scheduler c) :
    s'.scheduler.Held c first stop :=
  hh.of_sustains hs (Chore.upkeep h).length_le ((Chore.upkeep h).muted hf hh)

/-- A batch in flight that is given up has ended: either it is one that was submitted since, or that of
another connector. -/
theorem held_giveUp {l : Coordinator} (hk : s.scheduler.coordinators[d]? = some l)
    (ht : l.handle = some t) (hdone : s.scheduler.pool.isDone t) (hf : s.scheduler.Flight)
    (he : s.scheduler.Enrolled) (hh : s.scheduler.Held c first stop) :
    let q := (s.scheduler.modifyCoordinator d .givenUp).backOff l.name s.now
    q.Held c first stop ∨ q.Relieved c first := by
  by_cases hdc : d = c
  · subst hdc
    obtain ⟨k, hk', hhandle, -⟩ := hh.coordinator
    cases hk.symm.trans hk'
    exact .inr ⟨t, l.generation, hhandle t ht, hf.handled d l t hk ht, hdone⟩
  · have hlive : l.removed = false := by
      refine eq_false_of_ne_true fun hr => ?_
      rw [hf.removed d l hk hr] at ht
      cases ht
    have hs : s.scheduler.Sustains ((s.scheduler.modifyCoordinator d .givenUp).backOff l.name s.now) c :=
      .modify (d := d) (f := .givenUp) rfl (fun _ _ => ⟨rfl, .inl rfl, id⟩)
        (he.stop?_of_alters hk hlive hdc (Throttle.alters_finish _ _ _ _))
    exact .inl ((Upkeep.giveUp hk ht hdone).held_of_sustains hf hh hs)

/-- A connector for which no traverser can be made backs off anew, and as the backoff was over it does so
until later. -/
theorem held_backOff (hk : s.scheduler.coordinators[c]? = some k) (hlive : k.removed = false)
    (hon : s.scheduler.throttle.delays k.name s.now = false)
    (hfail : ∃ e, (s.scheduler.traverserFor c k).1 = .error e) (he : s.scheduler.Enrolled)
    (hh : s.scheduler.Held c first stop) :
    (s.scheduler.backOff k.name s.now).Held c first stop ∨ s.Stalls c stop := by
  obtain ⟨l, hl, hhandle, hback⟩ := hh.coordinator
  cases hk.symm.trans hl
  obtain ⟨due, hdue, hle⟩ := hback hlive
  have hover := Throttle.delays_eq_false_iff.1 hon due hdue
  have hstop := Throttle.stop?_finish s.scheduler.throttle k.name k.name
    (some s.scheduler.settings.errorBackoff) s.now
  rw [if_pos rfl] at hstop
  cases harmed : Throttle.armed? s.now (some s.scheduler.settings.errorBackoff) with
  | some until' =>
    refine .inl ⟨⟨k, hk, hhandle, fun _ => ⟨until', hstop.trans harmed, ?_⟩⟩, hh.known,
      fun u g hu ho => ?_⟩
    · have hlater := (Instant.after?_eq_some_iff.1 (Throttle.after?_of_armed? harmed)).1
      omega
    · have hm := hh.muted u g hu ho
      exact ⟨hm.known, hm.queue, hm.cut⟩
  | none =>
    obtain ⟨config, hconfig⟩ := Option.isSome_iff_exists.1 (he.configured c k hk hlive)
    obtain ⟨e, hfail⟩ := hfail
    refine .inr ⟨Int.le_trans hle hover, harmed, k, config, e, hk, hconfig, ?_⟩
    unfold Scheduler.traverserFor at hfail
    split at hfail
    · cases hfail
    · rw [hconfig] at hfail
      dsimp only at hfail
      split at hfail
      · next hinst =>
        cases hfail
        exact hinst
      · cases hfail

/-- A batch that is submitted for a connector is one of those submitted since. -/
theorem held_submit {l : Coordinator} {r : TraverserId} (hk : s.scheduler.coordinators[d]? = some l)
    (hlive : l.removed = false) (hidle : l.handle = none) (htr : l.traverser = some r)
    (hon : s.scheduler.throttle.delays l.name s.now = false) (maxItems : Nat) (metered : Bool)
    (hf : s.scheduler.Flight) (hh : s.scheduler.Held c first stop) :
    (s.scheduler.submit d l r maxItems metered).2.Held c first stop := by
  have hup := Upkeep.submit maxItems metered hk hlive hidle htr hon
  have hthrottle : (s.scheduler.submit d l r maxItems metered).2.throttle = s.scheduler.throttle := by
    rcases s.scheduler.submit_cases d l r maxItems metered with he | ⟨t, pool, -, he⟩ <;> rw [he] <;> rfl
  by_cases hdc : d = c
  · subst hdc
    obtain ⟨k, hk', hhandle, hback⟩ := hh.coordinator
    cases hk.symm.trans hk'
    refine ⟨?_, Nat.le_trans hh.known (Chore.upkeep hup).length_le, (Chore.upkeep hup).muted hf hh⟩
    rw [hthrottle]
    rcases s.scheduler.submit_cases d l r maxItems metered with he | ⟨t, pool, hs, he⟩ <;> rw [he]
    · exact ⟨_, getElem?_modifyCoordinator_self hk _, hhandle, hback⟩
    · refine ⟨_, getElem?_modifyCoordinator_self hk _, fun u hu => ?_, hback⟩
      cases hu
      exact (Pool.submit_eq_some hs).1 ▸ hh.known
  · refine hup.held_of_sustains hf hh fun k hk => ⟨k, getElem?_submit hk hdc, .inr rfl, fun hr => ⟨hr, ?_⟩⟩
    exact congrArg (·.stop? k.name) hthrottle

/-- Upkeep leaves a connector held, unless a batch that was submitted since has ended or no traverser can be
made for it. -/
theorem Upkeep.held (h : Upkeep s s') (hf : s.scheduler.Flight) (he : s.scheduler.Enrolled)
    (hh : s.scheduler.Held c first stop) :
    s'.scheduler.Held c first stop ∨ s'.scheduler.Relieved c first ∨ s.Stalls c stop := by
  have hkeep := h.held_of_sustains (c := c) hf hh
  cases h with
  | giveUp hk ht hdone => exact (held_giveUp hk ht hdone hf he hh).imp_right .inl
  | @backOff d l hk hlive hon hfail =>
    by_cases hdc : d = c
    · subst hdc
      exact (held_backOff hk hlive hon hfail he hh).imp_right .inr
    · exact .inl (hkeep (.same rfl
        (he.stop?_of_alters hk hlive hdc (Throttle.alters_finish _ _ _ _))))
  | hint => exact .inl (hkeep (.same rfl fun _ _ _ => Throttle.stop?_hint ..))
  | @equip d l hk _ hnone =>
    refine .inl (hkeep ?_)
    rcases s.scheduler.traverserFor_cases d hnone with ⟨e, he⟩ | ⟨config, adapter, -, -, he⟩ <;> rw [he]
    · exact .same rfl fun _ _ _ => rfl
    · exact .modify (d := d) rfl (fun _ _ => ⟨rfl, .inr rfl, id⟩) fun _ _ _ => rfl
  | submit maxItems metered hk hlive hidle htr hon =>
    exact .inl (held_submit hk hlive hidle htr hon maxItems metered hf hh)
  | measure | curb => exact .inl (hkeep (.same rfl fun _ _ _ => rfl))

/-! ## Edits and turns -/

/-- An edit leaves a connector held: what it removes has nothing to back off any more. -/
theorem Edit.held (h : Edit s s') (hf : s.scheduler.Flight) (he : s.scheduler.Enrolled)
    (hh : s.scheduler.Held c first stop) : s'.scheduler.Held c first stop := by
  refine hh.of_sustains ?_ (Chore.edit h).length_le ((Chore.edit h).muted hf hh)
  cases h with
  | @amend d l a _ hk =>
    show s.scheduler.Sustains (s.scheduler.interrupt d a.apply) c
    rw [interrupt_eq hk]
    refine .modify (d := d) (f := .interrupted a.apply) rfl (fun k _ => ?_) fun _ _ _ => rfl
    obtain ⟨hname, hremoved⟩ := a.apply_name_removed k
    exact ⟨hname, .inl rfl, fun hr => hremoved.symm.trans hr⟩
  | enlist => exact fun k hk => ⟨k, getElem?_enlist hk, .inr rfl, fun hr => ⟨hr, rfl⟩⟩
  | @detach d l hreg hk hlive =>
    show s.scheduler.Sustains (s.scheduler.detach l.name d) c
    rw [detach_eq hk hlive, interrupt_eq hk]
    by_cases hdc : d = c
    · subst hdc
      intro k _
      exact ⟨_, getElem?_modifyCoordinator_self hk _, .inl rfl, nofun⟩
    · exact .modify (d := d) rfl (fun _ _ => ⟨rfl, .inl rfl, nofun⟩)
        (he.stop?_of_alters hk hlive hdc (Throttle.alters_remove _ _))
  | look | storeConfiguration | storeSchedule | removeTask => exact .same rfl fun _ _ _ => rfl
  | @clearCheckpoint d l hk =>
    refine .modify (d := d) rfl (fun k hk' => ?_) fun _ _ _ => rfl
    cases hk.symm.trans hk'
    exact ⟨CheckpointCell.connector_write _ _ _, .inr rfl, id⟩

/-- The turn of a batch leaves a connector held, or it is the end of one that was submitted since: a batch
from before is not the current one of the coordinator. -/
theorem Turn.held (h : Turn t s s') (he : s.scheduler.Enrolled) (hh : s.scheduler.Held c first stop) :
    s'.scheduler.Held c first stop ∨ s'.scheduler.Relieved c first := by
  have hkeep (hs : s.scheduler.Sustains s'.scheduler c) : s'.scheduler.Held c first stop :=
    hh.of_sustains hs (Nat.le_of_eq h.length.symm) fun u g hu ho =>
      h.muted (hh.muted u g hu ((h.alike.order? u).symm.trans ho))
  have horder := h.alike.order? t
  cases h with
  | take | answer | crash | retire => exact .inl (hkeep (.same rfl fun _ _ _ => rfl))
  | @move b l r _ _ _ hk =>
    refine .inl (hkeep (.modify (d := b.coordinator) rfl (fun k hk' => ?_) fun _ _ _ => rfl))
    cases hk.symm.trans hk'
    exact ⟨RunStage.connector_advance .., .inr rfl, id⟩
  | choke | count => exact .inl (hkeep (.same rfl fun _ _ _ => Throttle.stop?_fold ..))
  | @settle b l code hx hb hst hk hlive hfold hcur =>
    have ho := order?_of_batch? hb
    have hdone : (s.scheduler.pool.finish t).isDone t :=
      (Pool.isDone_markDone_iff s.scheduler.pool t t).2 (.inr ⟨rfl, lt_of_order? ho⟩)
    have hfolded := s.scheduler.throttle.alters_fold l.name (BatchResult.ofCode code).count s.now
    rcases settleBatch_cases (s.counted t l (BatchResult.ofCode code).count) t b l (.ofCode code) with
      ⟨-, hs⟩ | ⟨-, disabled, -, hs⟩ <;> rw [hs] at hkeep horder ⊢
    all_goals
      by_cases hbc : b.coordinator = c
      · -- the current batch is not one from before
        refine .inr ⟨t, b.generation, ?_, hbc ▸ horder.trans ho, hdone⟩
        by_contra hlt
        obtain ⟨d, g, k, ho', hk', hg⟩ := (hh.muted t b.generation (Nat.lt_of_not_le hlt) (hbc ▸ ho)).cut hx
        cases ho.symm.trans ho'
        cases hk.symm.trans hk'
        omega
      · refine .inl (hkeep (.modify (d := b.coordinator) rfl (fun _ _ => ⟨rfl, .inl rfl, id⟩) ?_))
        exact he.stop?_of_alters hk hlive hbc (hfolded.trans (Throttle.alters_finish _ _ _ _))

/-! ## Sequences -/

/-- Calls and detections hold to a backoff. -/
theorem Edits.held (h : Edits s s') (hf : s.scheduler.Flight) (he : s.scheduler.Enrolled)
    (hh : s.scheduler.Held c first stop) : s'.scheduler.Held c first stop := by
  induction h with
  | refl => exact hh
  | tail h₀ h ih =>
    have hmoves := Chores.moves (Edits.chores h₀)
    exact h.held (hmoves.flight hf) (Moves.enrolled hmoves he) ih

/-- The turns of a batch hold to a backoff, or the batch relieves it. -/
theorem Turns.held (h : Turns t s s') (he : s.scheduler.Enrolled)
    (hh : s.scheduler.Held c first stop) :
    s'.scheduler.Held c first stop ∨ s'.scheduler.Relieved c first := by
  induction h with
  | refl => exact .inl hh
  | tail h₀ h ih =>
    rcases ih with hh | hr
    · exact h.held (Moves.enrolled (Turns.moves h₀) he) hh
    · exact .inr (hr.of_retains h.retains)

/-- Upkeep makes it neither later nor possible to make a traverser. -/
theorem Upkeep.stalls (h : Upkeep s s') (hc : ∃ k, s.scheduler.coordinators[c]? = some k)
    (hs : s'.Stalls c stop) : s.Stalls c stop := by
  obtain ⟨k, hk⟩ := hc
  obtain ⟨hle, harmed, k', config, e, hk', hconfig, hinst⟩ := hs
  obtain ⟨hsettings, hkinds, -, -⟩ := h.frame
  obtain ⟨l, hl, hb⟩ := h.coordinator hk
  cases hk'.symm.trans hl
  have hname : k'.bare.name = k.bare.name := congrArg Coordinator.name hb
  have hsame : k'.bare.config = k.bare.config := congrArg Coordinator.config hb
  rw [Site.now, h.clock] at hle harmed
  rw [hsettings] at harmed
  rw [hkinds, show k'.name = k.name from hname] at hinst
  exact ⟨hle, harmed, k, config, e, hk, hsame.symm.trans hconfig, hinst⟩

/-- Upkeep holds to a backoff, unless it is relieved or no traverser could be made after its end. -/
theorem Upkeeps.held (h : Upkeeps s s') (hf : s.scheduler.Flight) (he : s.scheduler.Enrolled)
    (hh : s.scheduler.Held c first stop) :
    s'.scheduler.Held c first stop ∨ s'.scheduler.Relieved c first ∨ s.Stalls c stop := by
  induction h using Relation.ReflTransGen.head_induction_on with
  | refl => exact .inl hh
  | head h h₀ ih =>
    have hc := hh.coordinator.imp fun _ => And.left
    rcases h.held hf he hh with hh' | hr | hs
    · exact (ih ((Chore.upkeep h).flight hf) (h.enrolled he) hh').imp_right (.imp_right (h.stalls hc))
    · exact .inr (.inl (hr.of_retains (Moves.retains (Chores.moves (Upkeeps.chores h₀)))))
    · exact .inr (.inr hs)

/-! ## New batches -/

/-- Whether what a coordinator goes by when it settles a batch is what it was. -/
structure Unsettled (s s' : Site) : Prop where
  alike : s.scheduler.Alike s'.scheduler
  throttle : s'.scheduler.throttle = s.scheduler.throttle
  settings : s'.scheduler.settings = s.scheduler.settings
  terms : ∀ c : CoordinatorId, (s'.scheduler.coordinators[c]?).map (fun k => (k.name, k.schedule)) =
    (s.scheduler.coordinators[c]?).map fun k => (k.name, k.schedule)

/-- A coordinator keeps its generation, its name and its schedule, and whether it is removed. -/
theorem Unsettled.coordinator {s s' : Site} (h : Unsettled s s')
    (hk : s.scheduler.coordinators[c]? = some k) :
    ∃ k', s'.scheduler.coordinators[c]? = some k' ∧ k'.generation = k.generation ∧
      k'.removed = k.removed ∧ k'.name = k.name ∧ k'.schedule = k.schedule := by
  obtain ⟨k', hk', hgen, hremoved⟩ := h.alike.coordinator hk
  have hterms := h.terms c
  rw [hk, hk', Option.map_some, Option.map_some, Option.some.injEq] at hterms
  exact ⟨k', hk', hgen, hremoved, congrArg Prod.fst hterms, congrArg Prod.snd hterms⟩

/-- What a coordinator goes by is what it was, also after two steps. -/
theorem Unsettled.trans {s s' s'' : Site} (h : Unsettled s s') (h' : Unsettled s' s'') :
    Unsettled s s'' :=
  ⟨h.alike.trans h'.alike, h'.throttle.trans h.throttle, h'.settings.trans h.settings,
    fun c => (h'.terms c).trans (h.terms c)⟩

end Site

namespace Scheduler

variable {p q : Scheduler} {t : TaskId} {c : CoordinatorId} {k : Coordinator} {stop : Instant}

end Scheduler

namespace Site

open Scheduler

variable {s s' : Site} {t : TaskId} {c : CoordinatorId} {k : Coordinator} {code : Int}
  {stop : Instant} {d : Duration}

/-- The turns of a batch submit none. -/
theorem Turns.length (h : Turns t s s') :
    s'.scheduler.pool.tasks.length = s.scheduler.pool.tasks.length := by
  induction h with
  | refl => rfl
  | tail _ h ih => exact h.length.trans ih

/-- The turns of one batch let another one alone. -/
theorem Turns.steady_other {u : TaskId} (h : Turns u s s') (hf : s.scheduler.Flight) (hne : t ≠ u) :
    s.scheduler.Steady t s'.scheduler := by
  induction h with
  | refl => exact .refl ..
  | tail h₀ h ih => exact ih.trans (h.steady_other ((Turns.moves h₀).flight hf) hne)

/-- Whether by an action the current batch of a live coordinator returns, not cancelled and to poll again
after the delay of the schedule, or cancelled or with an error and to wait for the error backoff, where the
wait is not zero and its end can be told, as well as that of the connector's load period. -/
structure Arms (s : Site) (a : Action) (c : CoordinatorId) (k : Coordinator) (t : TaskId) (code : Int)
    (d : Duration) (stop : Instant) : Prop where
  coordinator : s.scheduler.coordinators[c]? = some k
  live : k.removed = false
  current : s.scheduler.order? t = some (c, k.generation)
  before : ¬ s.scheduler.Returned t
  after : (s.act a).scheduler.ReturnedWith t code
  wait : (s.scheduler.pool.isTripped t = false ∧ (BatchResult.ofCode code).policy = .poll ∧
      ∃ schedule, k.schedule = some schedule ∧ schedule.retryDelay.duration? = some d) ∨
    (s.scheduler.pool.isTripped t = true ∨ (BatchResult.ofCode code).policy = .error) ∧
      d = s.scheduler.settings.errorBackoff
  positive : 0 < d.nanos
  stop : s.now.after? d = some stop
  period : ((s.scheduler.throttle.entryAt k.name s.now).periodStart.after?
    s.scheduler.throttle.period).isSome

end Site

end BatchTraversal
