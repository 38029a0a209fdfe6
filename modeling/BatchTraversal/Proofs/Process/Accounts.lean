import BatchTraversal.Proofs.Process.Flight
import BatchTraversal.Proofs.Throttle.Backoff

/-!
# The accounts of a batch

The journal of a process is the account of its batches: `Scheduler.folds` lists the counts that the
throttle was given for a batch, `Scheduler.deliveries` the results that were handed over for it. A chore
enters nothing for any batch. The turns of a batch enter something only when its run returns
(`Site.Turns.account`), and then what its coordinator owes it at that time: the count unless the
coordinator is removed, and the result if the batch is the current one and was not cancelled. All
this is so as long as the periods of the throttle have an end; a period without one swallows a batch.
-/

namespace BatchTraversal

/-! ## Periods that end -/

namespace Throttle

/-- Whether every period that was begun has an end. -/
def PeriodsEnd (t : Throttle) : Prop :=
  ∀ e ∈ t.entries.entries, (e.2.periodStart.after? t.period).isSome

instance (t : Throttle) : Decidable t.PeriodsEnd :=
  inferInstanceAs (Decidable (∀ e ∈ t.entries.entries, _))

/-- The periods end if that of every connector's entry does. -/
theorem periodsEnd_iff {t : Throttle} : t.PeriodsEnd ↔
    ∀ name e, t.entries.find? name = some e → (e.periodStart.after? t.period).isSome :=
  ⟨fun h name e he => h (name, e) (NameMap.find?_eq_some_iff.1 he),
    fun h e he => h e.1 e.2 (NameMap.find?_eq_some_iff.2 he)⟩

/-- If the periods end with an entry replaced, and the one it replaced had an end, they ended
before. -/
theorem PeriodsEnd.of_withEntry {t : Throttle} {name : String} {e : LoadEntry}
    (h : (t.withEntry name e).PeriodsEnd)
    (hold : ∀ old, t.entries.find? name = some old → (old.periodStart.after? t.period).isSome) :
    t.PeriodsEnd := by
  rw [periodsEnd_iff] at h ⊢
  intro other old ho
  by_cases hn : other = name
  · exact hold old (hn ▸ ho)
  · exact h other old ((NameMap.find?_insert_of_ne _ _ hn).trans ho)

/-- A connector that has an entry is counted in it. -/
theorem entryAt_of_find? {t : Throttle} {name : String} {e : LoadEntry}
    (h : t.entries.find? name = some e) (now : Instant) : t.entryAt name now = e := by
  rw [entryAt, h]
  rfl

/-- Items are counted if their period has an end. -/
theorem fold_cases (t : Throttle) (name : String) (count : Nat) (now : Instant) :
    ((t.fold name count now).1 = false ∧ ¬ (t.fold name count now).2.PeriodsEnd) ∨
    ((t.fold name count now).1 = true ∧
      ((t.fold name count now).2.PeriodsEnd → t.PeriodsEnd)) := by
  unfold fold
  dsimp only
  cases hr : (t.entryAt name now).roll? now t.period with
  | none =>
    refine .inl ⟨rfl, fun h => ?_⟩
    have hs := periodsEnd_iff.1 h name _ (NameMap.find?_insert_self ..)
    rw [LoadEntry.roll?, Option.map_eq_none_iff] at hr
    simp only [withEntry, hr] at hs
    cases hs
  | some rolled =>
    refine .inr ⟨rfl, fun h => h.of_withEntry fun old ho => ?_⟩
    rw [entryAt_of_find? ho, LoadEntry.roll?] at hr
    obtain ⟨stop, hstop, -⟩ := Option.map_eq_some_iff.1 hr
    rw [hstop]
    rfl

/-- Arming a backoff leaves the periods as they are. -/
theorem periodsEnd_of_finish {t : Throttle} {name : String} {delay : Option Duration}
    {now : Instant} (h : (t.finish name delay now).2.PeriodsEnd) : t.PeriodsEnd := by
  rw [finish_eq] at h
  refine h.of_withEntry fun old ho => ?_
  have hs := periodsEnd_iff.1 h name _ (NameMap.find?_insert_self ..)
  rwa [entryAt_of_find? ho] at hs

end Throttle

/-! ## Entries of the journal -/

namespace Occurrence

/-- The count that was folded for a batch. -/
def foldOf? (t : TaskId) : Occurrence → Option Nat
  | folded u _ count => if u = t then some count else none
  | _ => none

/-- The result that was delivered for a batch. -/
def deliveryOf? (t : TaskId) : Occurrence → Option BatchResult
  | delivered u _ result => if u = t then some result else none
  | _ => none

end Occurrence

namespace Scheduler

/-- The counts that the throttle was given for a batch. -/
def folds (p : Scheduler) (t : TaskId) : List Nat := p.journal.filterMap (·.foldOf? t)

/-- The results that were delivered for a batch. -/
def deliveries (p : Scheduler) (t : TaskId) : List BatchResult :=
  p.journal.filterMap (·.deliveryOf? t)

/-- Where the run of a batch stands. -/
def stage? (p : Scheduler) (t : TaskId) : Option RunStage := (p.batch? t).map (·.stage)

/-- Whether the run of a batch has returned with a code and is over. -/
def ReturnedWith (p : Scheduler) (t : TaskId) (code : Int) : Prop :=
  p.stage? t = some (.coded code) ∧ t ∉ p.pool.queue ∧ ¬ p.pool.isExecuting t

/-- Whether the run of a batch has returned and is over. -/
def Returned (p : Scheduler) (t : TaskId) : Prop := ∃ code, p.ReturnedWith t code

/-- Whether the adapter of a batch crashed, and its run with it. -/
def Crashed (p : Scheduler) (t : TaskId) : Prop := p.stage? t = some .crashed

/-- Whether a batch was dropped from the queue before it began. -/
def Dropped (p : Scheduler) (t : TaskId) : Prop :=
  p.stage? t = some .entering ∧ t ∉ p.pool.queue ∧ ¬ p.pool.isExecuting t

/-- Whether the coordinator of a batch is not removed. -/
def Liable (p : Scheduler) (t : TaskId) : Prop :=
  ∃ c g k, p.order? t = some (c, g) ∧ p.coordinators[c]? = some k ∧ k.removed = false

/-- Whether a batch is the current one of a coordinator that is not removed, and its token is not
tripped. -/
def Current (p : Scheduler) (t : TaskId) : Prop :=
  ∃ c k, p.order? t = some (c, k.generation) ∧ p.coordinators[c]? = some k ∧ k.removed = false ∧
    ¬ p.pool.isTripped t

variable {p q r : Scheduler} {t u : TaskId}

/-- The current batch of a coordinator is one that it is liable for. -/
theorem Current.liable (h : p.Current t) : p.Liable t :=
  let ⟨c, k, ho, hk, hr, _⟩ := h
  ⟨c, k.generation, k, ho, hk, hr⟩

/-- Whether nothing was entered for a batch, and it returned neither now nor then. -/
structure Steady (p : Scheduler) (t : TaskId) (q : Scheduler) : Prop where
  folds : q.folds t = p.folds t
  deliveries : q.deliveries t = p.deliveries t
  returned : ∀ code, q.ReturnedWith t code ↔ p.ReturnedWith t code

/-- Whether a batch has returned in between, and what it was owed was entered. -/
structure Booked (p : Scheduler) (t : TaskId) (q : Scheduler) (code : Int) : Prop where
  before : ¬ p.Returned t
  after : q.ReturnedWith t code
  fold : p.Liable t → q.folds t = p.folds t ++ [(BatchResult.ofCode code).count]
  noFold : ¬ p.Liable t → q.folds t = p.folds t
  delivery : p.Current t → q.deliveries t = p.deliveries t ++ [.ofCode code]
  noDelivery : ¬ p.Current t → q.deliveries t = p.deliveries t

theorem Steady.refl (t : TaskId) (p : Scheduler) : p.Steady t p := ⟨rfl, rfl, fun _ => .rfl⟩

/-- A batch for which nothing is entered step by step has nothing entered. -/
theorem Steady.trans (h : p.Steady t q) (h' : q.Steady t r) : p.Steady t r :=
  ⟨h'.folds.trans h.folds, h'.deliveries.trans h.deliveries,
    fun code => (h'.returned code).trans (h.returned code)⟩

/-- Whether nobody's claim on its coordinator has changed. -/
structure Alike (p q : Scheduler) : Prop where
  order? : ∀ t, q.order? t = p.order? t
  coordinators : ∀ c : CoordinatorId, (q.coordinators[c]?).map (fun k => (k.generation, k.removed)) =
    (p.coordinators[c]?).map fun k => (k.generation, k.removed)
  tripped : ∀ t, q.pool.isTripped t = p.pool.isTripped t

theorem Alike.refl (p : Scheduler) : p.Alike p := ⟨fun _ => rfl, fun _ => rfl, fun _ => rfl⟩

/-- Processes that are alike in turn are alike. -/
theorem Alike.trans (h : p.Alike q) (h' : q.Alike r) : p.Alike r :=
  ⟨fun t => (h'.order? t).trans (h.order? t), fun c => (h'.coordinators c).trans (h.coordinators c),
    fun t => (h'.tripped t).trans (h.tripped t)⟩

/-- To be alike is mutual. -/
theorem Alike.symm (h : p.Alike q) : q.Alike p :=
  ⟨fun t => (h.order? t).symm, fun c => (h.coordinators c).symm, fun t => (h.tripped t).symm⟩

/-- Processes that are alike have the coordinators in common, with their generations. -/
theorem Alike.coordinator (h : p.Alike q) {c : CoordinatorId} {k : Coordinator}
    (hk : p.coordinators[c]? = some k) : ∃ k', q.coordinators[c]? = some k' ∧
      k'.generation = k.generation ∧ k'.removed = k.removed := by
  have hc := h.coordinators c
  rw [hk] at hc
  obtain ⟨k', hk', e⟩ := Option.map_eq_some_iff.1 hc
  exact ⟨k', hk', congrArg Prod.fst e, congrArg Prod.snd e⟩

/-- Processes that are alike are liable for the same batches. -/
theorem Alike.liable (h : p.Alike q) (hl : p.Liable t) : q.Liable t := by
  obtain ⟨c, g, k, ho, hk, hr⟩ := hl
  obtain ⟨k', hk', -, hr'⟩ := h.coordinator hk
  exact ⟨c, g, k', (h.order? t).trans ho, hk', hr'.trans hr⟩

/-- Processes that are alike have the same current batches. -/
theorem Alike.current (h : p.Alike q) (hl : p.Current t) : q.Current t := by
  obtain ⟨c, k, ho, hk, hr, ht⟩ := hl
  obtain ⟨k', hk', hg, hr'⟩ := h.coordinator hk
  exact ⟨c, k', by rw [h.order?, ho, hg], hk', hr'.trans hr, by rwa [h.tripped]⟩

/-- A batch that was steady before or after it was booked is booked all the same. -/
theorem Steady.booked {code : Int} (h : p.Steady t q) (ha : p.Alike q) (h' : q.Booked t r code) :
    p.Booked t r code where
  before := fun ⟨code, hc⟩ => h'.before ⟨code, (h.returned code).2 hc⟩
  after := h'.after
  fold hl := by rw [h'.fold (ha.liable hl), h.folds]
  noFold hl := by rw [h'.noFold fun hq => hl (ha.symm.liable hq), h.folds]
  delivery hl := by rw [h'.delivery (ha.current hl), h.deliveries]
  noDelivery hl := by rw [h'.noDelivery fun hq => hl (ha.symm.current hq), h.deliveries]

/-- What was booked stays booked while the batch is let alone. -/
theorem Booked.steady {code : Int} (h : p.Booked t q code) (h' : q.Steady t r) :
    p.Booked t r code where
  before := h.before
  after := (h'.returned code).2 h.after
  fold hl := h'.folds.trans (h.fold hl)
  noFold hl := h'.folds.trans (h.noFold hl)
  delivery hl := h'.deliveries.trans (h.delivery hl)
  noDelivery hl := h'.deliveries.trans (h.noDelivery hl)

/-! ## Chores enter nothing -/

/-- What is new in the journal adds the counts that it tells of. -/
theorem folds_append {l : List Occurrence} (hj : q.journal = p.journal ++ l) :
    q.folds t = p.folds t ++ l.filterMap (·.foldOf? t) := by
  rw [folds, hj, List.filterMap_append]
  rfl

/-- What is new in the journal adds the deliveries that it tells of. -/
theorem deliveries_append {l : List Occurrence} (hj : q.journal = p.journal ++ l) :
    q.deliveries t = p.deliveries t ++ l.filterMap (·.deliveryOf? t) := by
  rw [deliveries, hj, List.filterMap_append]
  rfl

/-- What enters nothing for a batch, which does not return by it, is steady. -/
theorem Steady.of_returned (hr : ∀ code, q.ReturnedWith t code ↔ p.ReturnedWith t code)
    {l : List Occurrence} (hj : q.journal = p.journal ++ l)
    (hl : ∀ o ∈ l, o.foldOf? t = none ∧ o.deliveryOf? t = none) : p.Steady t q where
  folds := by
    rw [folds_append hj, List.filterMap_eq_nil_iff.2 fun o ho => (hl o ho).1, List.append_nil]
  deliveries := by
    rw [deliveries_append hj, List.filterMap_eq_nil_iff.2 fun o ho => (hl o ho).2,
      List.append_nil]
  returned := hr

/-- A queued batch has not entered its run. -/
theorem Flight.stage?_queued (h : p.Flight) (ht : t ∈ p.pool.queue) {stage : RunStage}
    (hs : p.stage? t = some stage) : stage = .entering := by
  obtain ⟨b, hb, rfl⟩ := Option.map_eq_some_iff.1 hs
  exact h.fresh t ht b hb

/-- A process that has just started has no journal and no batches. -/
theorem journal_start (h : ∃ settings pool kinds, Scheduler.start settings pool kinds = .ok p) :
    p.journal = [] ∧ ∀ t, p.stage? t = none := by
  obtain ⟨settings, pool, kinds, h⟩ := h
  obtain ⟨-, rfl⟩ := start_eq_ok h
  exact ⟨rfl, fun t => rfl⟩

/-- A batch stands at its stage. -/
theorem stage?_of_batch? {b : Batch} (hb : p.batch? t = some b) : p.stage? t = some b.stage := by
  rw [stage?, hb]
  rfl

/-- A batch that ends leaves every run where it stands. -/
theorem stage?_finish (hq : q.pool = p.pool.finish u) (t : TaskId) : q.stage? t = p.stage? t := by
  rw [stage?, batch?, hq]
  exact congrArg (Option.map Batch.stage) (Pool.payload?_markDone p.pool u t)

/-- A batch that ends with a code has returned. -/
theorem Flight.returnedWith_finish (h : p.Flight) (hx : p.pool.isExecuting t) {b : Batch}
    (hb : p.batch? t = some b) {code : Int} (hst : b.stage = .coded code)
    (hq : q.pool = p.pool.finish t) : q.ReturnedWith t code := by
  refine ⟨?_, ?_, ?_⟩
  · rw [stage?_finish hq, stage?_of_batch? hb, hst]
  · rw [hq]
    exact h.sound.notMem_queue hx
  · rw [hq, Pool.isExecuting_finish]
    exact fun h => h.2 rfl

/-- A coordinator is liable for its batches until it is removed. -/
theorem liable_iff {b : Batch} {k : Coordinator} (hb : p.batch? t = some b)
    (hk : p.coordinators[b.coordinator]? = some k) : p.Liable t ↔ k.removed = false := by
  constructor
  · rintro ⟨c, g, l, ho, hl, hr⟩
    rw [order?_of_batch? hb] at ho
    cases ho
    rw [hk] at hl
    cases hl
    exact hr
  · exact fun hr => ⟨_, _, k, order?_of_batch? hb, hk, hr⟩

/-- A batch is current if it is of the generation of a live coordinator and was not cancelled. -/
theorem current_iff {b : Batch} {k : Coordinator} (hb : p.batch? t = some b)
    (hk : p.coordinators[b.coordinator]? = some k) : p.Current t ↔
      b.generation = k.generation ∧ k.removed = false ∧ ¬ p.pool.isTripped t := by
  constructor
  · rintro ⟨c, l, ho, hl, hr, ht⟩
    rw [order?_of_batch? hb] at ho
    injection ho with ho
    injection ho with hc hg
    subst hc
    rw [hk] at hl
    cases hl
    exact ⟨hg, hr, ht⟩
  · rintro ⟨hg, hr, ht⟩
    exact ⟨_, k, by rw [order?_of_batch? hb, hg], hk, hr, ht⟩

/-- A batch that returns while its coordinator is not removed is booked if its items are counted and,
exactly if it is current, its result is delivered. -/
theorem Flight.booked_counted (h : p.Flight) (hx : p.pool.isExecuting t) {b : Batch} {k : Coordinator}
    (hb : p.batch? t = some b) {code : Int} (hst : b.stage = .coded code)
    (hk : p.coordinators[b.coordinator]? = some k) (hlive : k.removed = false)
    (hq : q.pool = p.pool.finish t) {l : List Occurrence}
    (hj : q.journal = p.journal ++ .folded t k.name (BatchResult.ofCode code).count :: l)
    (hl : l.filterMap (·.foldOf? t) = [])
    (hcur : p.Current t → l.filterMap (·.deliveryOf? t) = [.ofCode code])
    (hold : ¬ p.Current t → l.filterMap (·.deliveryOf? t) = []) : p.Booked t q code where
  before := fun ⟨_, hr⟩ => hr.2.2 hx
  after := h.returnedWith_finish hx hb hst hq
  fold _ := by
    rw [folds_append hj, List.filterMap_cons, hl]
    simp [Occurrence.foldOf?]
  noFold hn := absurd ((liable_iff hb hk).2 hlive) hn
  delivery hc := by
    rw [deliveries_append hj, List.filterMap_cons_none rfl, hcur hc]
  noDelivery hn := by
    rw [deliveries_append hj, List.filterMap_cons_none rfl, hold hn, List.append_nil]

/-- What spares a batch, and enters nothing for it, is steady. -/
theorem Steady.of_spares (h : p.Flight) (hs : p.pool.Spares t q.pool)
    {l : List Occurrence} (hj : q.journal = p.journal ++ l)
    (hl : ∀ o ∈ l, o.foldOf? t = none ∧ o.deliveryOf? t = none) : p.Steady t q := by
  have hstage : q.stage? t = p.stage? t := congrArg (Option.map Batch.stage) hs.payload?
  refine .of_returned (fun code => ?_) hj hl
  rw [ReturnedWith, ReturnedWith, hstage]
  refine and_congr_right fun hc => and_congr (not_congr ⟨hs.queue, fun ht => ?_⟩)
    (not_congr hs.executing)
  cases h.stage?_queued ht hc

end Scheduler

namespace Site

variable {s s' : Site} {t u : TaskId}

/-- A chore enters nothing for any batch, and none returns by it. -/
theorem Chore.steady (h : Chore s s') (hf : s.scheduler.Flight) (t : TaskId) :
    s.scheduler.Steady t s'.scheduler := by
  obtain ⟨l, hj, hl⟩ := h.journal
  have hnone : ∀ o ∈ l, o.foldOf? t = none ∧ o.deliveryOf? t = none := by
    intro o ho
    rcases hl o ho with ⟨_, _, _, rfl⟩ | ⟨_, _, rfl⟩ <;> exact ⟨rfl, rfl⟩
  rcases h.pool with hp | ⟨b, u, hs, hb⟩
  · exact .of_spares hf (hp.spares t) hj hnone
  · by_cases ht : t = u
    · -- the new batch has not begun, and before it was not there
      have hpay := Pool.payload?_submit hs t
      rw [if_pos ht] at hpay
      obtain ⟨rfl, -⟩ := Pool.submit_eq_some hs
      refine .of_returned (fun code => ⟨fun hr => ?_, fun hr => ?_⟩) hj hnone
      · have hs := hr.1
        rw [Scheduler.stage?, Scheduler.batch?, hpay, Option.map_some, hb] at hs
        cases hs
      · obtain ⟨b', hb', -⟩ := Option.map_eq_some_iff.1 hr.1
        exact absurd ht (Nat.ne_of_lt (Scheduler.lt_of_order? (Scheduler.order?_of_batch? hb')))
    · exact .of_spares hf (Pool.spares_submit hs ht) hj hnone

/-! ## Turns enter what is owed -/

/-- A turn changes nobody's claim on its coordinator. -/
theorem Turn.alike (h : Turn u s s') : s.scheduler.Alike s'.scheduler := by
  have hfinish {q : Scheduler} (hq : q.pool = s.scheduler.pool.finish u)
      {f : Coordinator → Coordinator} {c : CoordinatorId}
      (hc : q.coordinators = s.scheduler.coordinators.modify c f)
      (hf : ∀ k, (f k).generation = k.generation ∧ (f k).removed = k.removed) :
      s.scheduler.Alike q := by
    refine ⟨fun t => ?_, fun d => ?_, fun t => ?_⟩
    · show (q.pool.payload? t).map Batch.order = (s.scheduler.pool.payload? t).map Batch.order
      rw [hq]
      exact congrArg (Option.map Batch.order) (Pool.payload?_markDone s.scheduler.pool u t)
    · rw [hc]
      exact map_modify_coordinator (fun k _ => Prod.ext (hf k).1 (hf k).2) d
    · rw [hq]
      exact Pool.isTripped_markDone s.scheduler.pool u t
  have hsame {q : Scheduler} (hq : q.pool = s.scheduler.pool.finish u)
      (hc : q.coordinators = s.scheduler.coordinators) : s.scheduler.Alike q :=
    hfinish (f := id) (c := 0) hq (by rw [hc, List.modify_id]) fun _ => ⟨rfl, rfl⟩
  cases h with
  | take h =>
    obtain ⟨rest, -, rfl⟩ := Pool.take?_eq_some h
    exact ⟨fun _ => rfl, fun _ => rfl, fun _ => rfl⟩
  | move =>
    exact ⟨fun t => Scheduler.order?_withStage s.scheduler u t _,
      map_modify_coordinator fun _ _ => rfl,
      fun t => Pool.any_modifyTask s.scheduler.pool u t (by intro task; rfl)⟩
  | answer =>
    exact ⟨fun t => Scheduler.order?_withStage s.scheduler u t _, fun _ => rfl,
      fun t => Pool.any_modifyTask s.scheduler.pool u t (by intro task; rfl)⟩
  | crash | retire | choke | count => exact hsame rfl rfl
  | @settle b k code =>
    rcases settleBatch_cases (s.counted u k (BatchResult.ofCode code).count) u b k (.ofCode code) with
      ⟨-, he⟩ | ⟨-, disabled, -, he⟩ <;> rw [he]
    all_goals exact hfinish rfl rfl fun _ => ⟨rfl, rfl⟩

/-- If the periods of the throttle end after a turn, they ended before. -/
theorem Turn.periodsEnd (h : Turn u s s') (he : s'.scheduler.throttle.PeriodsEnd) :
    s.scheduler.throttle.PeriodsEnd := by
  have hfold {name : String} {count : Nat}
      (h : (s.scheduler.throttle.fold name count s.now).2.PeriodsEnd) :
      s.scheduler.throttle.PeriodsEnd := by
    rcases s.scheduler.throttle.fold_cases name count s.now with ⟨-, hn⟩ | ⟨-, hk⟩
    · exact absurd h hn
    · exact hk h
  cases h with
  | take | move | answer | crash | retire => exact he
  | choke | count => exact hfold he
  | @settle b k code =>
    rcases settleBatch_cases (s.counted u k (BatchResult.ofCode code).count) u b k (.ofCode code) with
      ⟨-, hs⟩ | ⟨-, disabled, -, hs⟩ <;> rw [hs] at he
    all_goals exact hfold (Throttle.periodsEnd_of_finish he)

/-- What a run lets be seen of it enters nothing. -/
theorem entry_of_run {b : Batch} {connector : String} {event : Option RunEvent} :
    ∀ o ∈ (event.map (occurrenceOf u b connector)).toList,
      o.foldOf? t = none ∧ o.deliveryOf? t = none := by
  intro o ho
  obtain ⟨e, -, rfl⟩ := Option.map_eq_some_iff.1 (Option.mem_toList.1 ho)
  cases e <;> exact ⟨rfl, rfl⟩

/-- What a turn of one batch enters is none of the others' business. -/
theorem Turn.steady_other (h : Turn u s s') (hf : s.scheduler.Flight) (hne : t ≠ u) :
    s.scheduler.Steady t s'.scheduler := by
  obtain ⟨l, hj, hl⟩ := h.journal
  refine .of_spares hf (h.spares hne) hj fun o ho => ?_
  have hu := hl o ho
  have hut : u ≠ t := Ne.symm hne
  cases o <;> cases hu <;> simp [Occurrence.foldOf?, Occurrence.deliveryOf?, hut]

/-- A turn of a batch enters nothing for it, or its run returns and what it is owed is entered. -/
theorem Turn.account_own (h : Turn t s s') (hf : s.scheduler.Flight)
    (hends : s'.scheduler.throttle.PeriodsEnd) : s.scheduler.Steady t s'.scheduler ∨
      ∃ code, s.scheduler.Booked t s'.scheduler code := by
  -- only the last four turns end the batch, and what each of them owes it is entered there and then
  cases h with
  | take h =>
    left
    obtain ⟨rest, hq, rfl⟩ := Pool.take?_eq_some h
    have hin : t ∈ s.scheduler.pool.queue := hq ▸ List.mem_cons_self
    refine .of_returned (l := []) (fun code => ⟨fun hr => ?_, fun hr => ?_⟩)
      (List.append_nil _).symm fun o ho => nomatch ho
    · cases hf.stage?_queued hin hr.1
    · exact absurd hin hr.2.1
  | move hx =>
    left
    exact .of_returned (fun code => ⟨fun hr => absurd hx hr.2.2, fun hr => absurd hx hr.2.2⟩) rfl
      entry_of_run
  | @answer b r checkpoint a hb hst =>
    left
    refine .of_returned (fun code => ⟨fun hr => ?_, fun hr => ?_⟩) rfl fun o ho => ?_
    · have hs : (s.scheduler.withStage t (RunStage.answer a r (.calling checkpoint)).1).stage? t =
        some (.coded code) := hr.1
      rw [Scheduler.stage?, Scheduler.batch?_withStage, if_pos rfl, hb] at hs
      cases a <;> cases hs
    · have hs := hr.1
      rw [Scheduler.stage?_of_batch? hb, hst] at hs
      cases hs
    · rw [List.mem_singleton.1 ho]
      exact ⟨rfl, rfl⟩
  | @crash b hx hb hst =>
    left
    refine .of_returned (l := []) (fun code => ⟨fun hr => ?_, fun hr => absurd hx hr.2.2⟩)
      (List.append_nil _).symm fun o ho => nomatch ho
    have hs := (Scheduler.stage?_finish (p := s.scheduler) rfl t).symm.trans hr.1
    rw [Scheduler.stage?_of_batch? hb, hst] at hs
    cases hs
  | @retire b code hx hb hst hgone =>
    -- nobody is left who would be liable
    have hno : ¬ s.scheduler.Liable t := by
      rintro ⟨c, g, k, ho, hk, hlive⟩
      rw [Scheduler.order?_of_batch? hb] at ho
      cases ho
      have := hgone k hk
      rw [hlive, hf.unreleased _ k hk] at this
      exact this.elim Bool.false_ne_true Bool.false_ne_true
    exact .inr ⟨code, fun ⟨_, hr⟩ => hr.2.2 hx, hf.returnedWith_finish hx hb hst rfl,
      fun hl => absurd hl hno, fun _ => rfl, fun hl => absurd hl.liable hno, fun _ => rfl⟩
  | @choke b k code hx hb hst hk hlive hfold =>
    rcases s.scheduler.throttle.fold_cases k.name (BatchResult.ofCode code).count s.now with
      ⟨-, hn⟩ | ⟨htrue, -⟩
    · exact absurd hends hn
    · rw [hfold] at htrue
      cases htrue
  | @count b k code hx hb hst hk hlive _ hold =>
    exact .inr ⟨code, hf.booked_counted hx hb hst hk hlive rfl rfl rfl
      (fun hc => absurd ((Scheduler.current_iff hb hk).1 hc).1 hold) fun _ => rfl⟩
  | @settle b k code hx hb hst hk hlive _ hcur =>
    rcases settleBatch_cases (s.counted t k (BatchResult.ofCode code).count) t b k (.ofCode code) with
      ⟨htrip, he⟩ | ⟨htrip, disabled, -, he⟩ <;> rw [he]
    · -- it was cancelled: its items count, but it has no result
      exact .inr ⟨code, hf.booked_counted hx hb hst hk hlive rfl rfl rfl
        (fun hc => absurd htrip ((Scheduler.current_iff hb hk).1 hc).2.2) fun _ => rfl⟩
    · have hc : s.scheduler.Current t :=
        (Scheduler.current_iff hb hk).2 ⟨hcur, hlive, fun h => Bool.false_ne_true (htrip.symm.trans h)⟩
      refine .inr ⟨code, hf.booked_counted hx hb hst hk hlive rfl (List.append_assoc ..) rfl
        (fun _ => ?_) fun hn => absurd hc hn⟩
      simp [Occurrence.deliveryOf?]

/-! ## Actions -/

/-- Whatever is done besides the batches, no batch is accounted for by it. -/
theorem Chores.steady (h : Chores s s') (hf : s.scheduler.Flight) (t : TaskId) :
    s.scheduler.Steady t s'.scheduler := by
  induction h with
  | refl => exact .refl ..
  | tail h₀ h ih => exact ih.trans (h.steady ((Chores.moves h₀).flight hf) t)

/-- The turns of a batch enter nothing for a batch, or it returns by them, once, and what it is owed
is entered. -/
theorem Turns.account (h : Turns u s s') (hf : s.scheduler.Flight) (t : TaskId)
    (hends : s'.scheduler.throttle.PeriodsEnd) : s.scheduler.Alike s'.scheduler ∧
      (s.scheduler.Steady t s'.scheduler ∨ ∃ code, s.scheduler.Booked t s'.scheduler code) := by
  induction h with
  | refl => exact ⟨.refl _, .inl (.refl ..)⟩
  | @tail s₁ s₂ h₀ h ih =>
    obtain ⟨ha, hacc⟩ := ih (h.periodsEnd hends)
    have hf₁ : s₁.scheduler.Flight := (Turns.moves h₀).flight hf
    have hlast : s₁.scheduler.Steady t s₂.scheduler ∨
        ∃ code, s₁.scheduler.Booked t s₂.scheduler code := by
      by_cases htu : t = u
      · subst htu
        exact h.account_own hf₁ hends
      · exact .inl (h.steady_other hf₁ htu)
    refine ⟨ha.trans h.alike, ?_⟩
    rcases hacc with hs | ⟨code, hb⟩ <;> rcases hlast with hs' | ⟨code', hb'⟩
    · exact .inl (hs.trans hs')
    · exact .inr ⟨code', hs.booked ha hb'⟩
    · exact .inr ⟨code, hb.steady hs'⟩
    · exact absurd ⟨code, hb.after⟩ hb'.before

/-- An action of a process enters nothing for a batch, or the batch returns by it and what it is owed
is entered. -/
theorem act_account (hf : s.scheduler.Flight) (hr : s.scheduler.Registered) (a : Action)
    (t : TaskId) (hends : (s.act a).scheduler.throttle.PeriodsEnd) :
    s.scheduler.Steady t (s.act a).scheduler ∨
      ∃ code, s.scheduler.Booked t (s.act a).scheduler code := by
  rcases act_cases hr a with rfl | h | ⟨u, h⟩
  · obtain ⟨s', inventory, h, e⟩ := detect_edits hr
    have hs := h.chores.steady hf t
    rw [act, e]
    exact .inl ⟨hs.folds, hs.deliveries, hs.returned⟩
  · exact .inl (h.steady hf t)
  · exact (h.account hf t hends).2

end Site

end BatchTraversal
