import BatchTraversal.Proofs.Process.Turns

/-!
# Single flight

A coordinator has at most one batch in flight that counts: of its batches that have not ended, at most
one was not cancelled, and that one carries the coordinator's present generation and is the one it
keeps the handle of. `Scheduler.Flight` is the invariant behind it. It ties the coordinators to the
pool, and it is kept by every chore of a process and every turn of a batch, because a chore that takes
a handle away from a coordinator also cancels the batch or finds it ended, and a batch that ends while
it is the current one is the only one of its generation.
-/

namespace BatchTraversal

/-- The coordinator that a batch was started for, and the generation it was started under. -/
def Batch.order (b : Batch) : CoordinatorId × Nat := (b.coordinator, b.generation)

namespace Scheduler

/-- The coordinator and the generation of the batch of a task. -/
def order? (p : Scheduler) (t : TaskId) : Option (CoordinatorId × Nat) :=
  (p.batch? t).map (·.order)

/-- What holds of the coordinators of a process and of their batches at every moment. -/
structure Flight (p : Scheduler) : Prop where
  sound : p.pool.Sound
  owned : ∀ t c g, p.order? t = some (c, g) →
    ∃ k, p.coordinators[c]? = some k ∧ g ≤ k.generation
  distinct : ∀ t u c g, p.order? t = some (c, g) → p.order? u = some (c, g) → t = u
  handled : ∀ (c : CoordinatorId) (k : Coordinator) (t : TaskId), p.coordinators[c]? = some k →
    k.handle = some t → p.order? t = some (c, k.generation)
  single : ∀ t c g k, p.order? t = some (c, g) → p.coordinators[c]? = some k → p.pool.Open t →
    k.handle = some t
  removed : ∀ (c : CoordinatorId) (k : Coordinator), p.coordinators[c]? = some k → k.removed →
    k.handle = none
  unreleased : ∀ (c : CoordinatorId) (k : Coordinator), p.coordinators[c]? = some k →
    k.released = false
  fresh : ∀ t ∈ p.pool.queue, ∀ b, p.batch? t = some b → b.stage = .entering

variable {p q : Scheduler} {c : CoordinatorId} {k : Coordinator} {t u : TaskId}

theorem lt_of_order? {o : CoordinatorId × Nat} (h : p.order? t = some o) :
    t < p.pool.tasks.length := by
  simp only [order?, batch?, Pool.payload?, Option.map_map] at h
  by_cases ht : t < p.pool.tasks.length
  · exact ht
  · rw [List.getElem?_eq_none (Nat.le_of_not_lt ht)] at h
    cases h

theorem order?_of_batch? {b : Batch} (h : p.batch? t = some b) :
    p.order? t = some (b.coordinator, b.generation) := by
  rw [order?, h]
  rfl

/-- A process that knows no connector yet has no batches. -/
theorem flight_start {settings : SchedulerSettings} {pool : PoolSettings} {kinds : KindRegistry}
    (h : Scheduler.start settings pool kinds = .ok p) : p.Flight := by
  obtain ⟨hpool, rfl⟩ := start_eq_ok h
  constructor
  · exact Pool.sound_start hpool
  all_goals simp [order?, batch?, Pool.payload?]

/-- A coordinator keeps what ties it to its batches, or it gives up its handle when none of its
batches is open any more; either it moves its generation on then, or the batch of the handle has
ended. -/
def Yields (p q : Scheduler) (c : CoordinatorId) (k k' : Coordinator) : Prop :=
  k.generation ≤ k'.generation ∧ k'.released = k.released ∧
    (k'.handle = k.handle ∧ k'.generation = k.generation ∧ k'.removed = k.removed ∨
      k'.handle = none ∧ (∀ t g, p.order? t = some (c, g) → ¬ q.pool.Open t) ∧
        (k.generation < k'.generation ∨ ∀ t, k.handle = some t → ¬ q.pool.isExecuting t))

/-- Every coordinator yields, and none is new. -/
def Yielding (p q : Scheduler) : Prop :=
  ∀ c : CoordinatorId,
    (∀ k, p.coordinators[c]? = some k → ∃ k', q.coordinators[c]? = some k' ∧ p.Yields q c k k') ∧
    (p.coordinators[c]? = none → q.coordinators[c]? = none)

theorem Yields.of_same {k k' : Coordinator} (hh : k'.handle = k.handle)
    (hg : k'.generation = k.generation) (hr : k'.removed = k.removed)
    (hl : k'.released = k.released) : p.Yields q c k k' :=
  ⟨Nat.le_of_eq hg.symm, hl, .inl ⟨hh, hg, hr⟩⟩

/-- What an operation does that starts no batch. -/
structure Tame (p q : Scheduler) : Prop where
  sound : q.pool.Sound
  order? : ∀ t, q.order? t = p.order? t
  isOpen : ∀ t, q.pool.Open t → p.pool.Open t
  coordinators : p.Yielding q
  fresh : ∀ t ∈ q.pool.queue, t ∈ p.pool.queue ∧ q.batch? t = p.batch? t

theorem Flight.of_tame (h : p.Flight) (ht : p.Tame q) : q.Flight := by
  have hback (c : CoordinatorId) (k' : Coordinator) (hk' : q.coordinators[c]? = some k') :
      ∃ k, p.coordinators[c]? = some k ∧ p.Yields q c k k' := by
    cases hk : p.coordinators[c]? with
    | none =>
      rw [(ht.coordinators c).2 hk] at hk'
      cases hk'
    | some k =>
      obtain ⟨l, hl, hrest⟩ := (ht.coordinators c).1 k hk
      rw [hk'] at hl
      cases hl
      exact ⟨k, rfl, hrest⟩
  constructor
  · exact ht.sound
  · intro t c g ho
    obtain ⟨k, hk, hg⟩ := h.owned t c g (ht.order? t ▸ ho)
    obtain ⟨k', hk', hgen, -⟩ := (ht.coordinators c).1 k hk
    exact ⟨k', hk', Nat.le_trans hg hgen⟩
  · intro t u c g hot hou
    exact h.distinct t u c g (ht.order? t ▸ hot) (ht.order? u ▸ hou)
  · intro c k' t hk' hh
    obtain ⟨k, hk, -, -, ⟨hsame, hgen, -⟩ | ⟨hnone, -⟩⟩ := hback c k' hk'
    · rw [ht.order? t, hgen]
      exact h.handled c k t hk (hsame ▸ hh)
    · rw [hnone] at hh
      cases hh
  · intro t c g k' ho hk' hopen
    have ho' : p.order? t = some (c, g) := ht.order? t ▸ ho
    obtain ⟨k, hk, -, -, ⟨hsame, -⟩ | ⟨-, hno, -⟩⟩ := hback c k' hk'
    · rw [hsame]
      exact h.single t c g k ho' hk (ht.isOpen t hopen)
    · exact absurd hopen (hno t g ho')
  · intro c k' hk' hr
    obtain ⟨k, hk, -, -, ⟨hsame, -, hrem⟩ | ⟨hnone, -⟩⟩ := hback c k' hk'
    · rw [hsame]
      exact h.removed c k hk (hrem ▸ hr)
    · exact hnone
  · intro c k' hk'
    obtain ⟨k, hk, -, hrel, -⟩ := hback c k' hk'
    exact hrel.trans (h.unreleased c k hk)
  · intro t hq b hb
    obtain ⟨hpq, hbatch⟩ := ht.fresh t hq
    exact h.fresh t hpq b (hbatch ▸ hb)

/-- Coordinators that were not touched yield nothing. -/
theorem yielding_of_eq (hq : q.coordinators = p.coordinators) : p.Yielding q := by
  intro c
  rw [hq]
  exact ⟨fun k hk => ⟨k, hk, .of_same rfl rfl rfl rfl⟩, id⟩

/-- If one coordinator was changed, the others yield nothing. -/
theorem yielding_of_modify {f : Coordinator → Coordinator}
    (hq : q.coordinators = p.coordinators.modify c f)
    (hf : ∀ k, p.coordinators[c]? = some k → p.Yields q c k (f k)) : p.Yielding q := by
  intro d
  rw [hq, List.getElem?_modify]
  constructor
  · intro k hk
    rw [hk]
    by_cases hcd : c = d
    · subst hcd
      exact ⟨f k, by simp, hf k hk⟩
    · exact ⟨k, by simp [hcd], .of_same rfl rfl rfl rfl⟩
  · intro hnone
    rw [hnone]
    rfl

theorem Tame.of_curbs (h : p.Flight) (hp : p.pool.Curbs q.pool)
    (hc : p.Yielding q) : p.Tame q where
  sound := hp.sound h.sound
  order? t := congrArg (Option.map Batch.order) (hp.payload? t)
  isOpen _ ht := hp.isOpen ht
  coordinators := hc
  fresh t ht := ⟨hp.queue ht, hp.payload? t⟩

/-! ## Chores -/

/-- An interruption takes the handle away and cancels the batch in flight, so that no batch of the
coordinator stays open. -/
theorem tame_interrupt (h : p.Flight) (hk : p.coordinators[c]? = some k)
    {f : Coordinator → Coordinator} (hf : ∀ k, (f k).released = k.released) :
    p.Tame (p.interrupt c f) := by
  have hpool := curbs_interrupt hk f
  refine .of_curbs h hpool (yielding_of_modify (c := c) (f := .interrupted f)
    (by rw [interrupt_eq hk]; rfl) fun l hl => ?_)
  rw [hk] at hl
  cases hl
  refine ⟨Nat.le_succ _, hf k, .inr ⟨rfl, fun t g ho hopen => ?_, .inl (Nat.lt_succ_self _)⟩⟩
  have hh := h.single t c g k ho hk (hpool.isOpen hopen)
  refine hopen.2 ?_
  rw [interrupt_eq hk, hh]
  exact Pool.isRequested_cancel p.hook p.pool (lt_of_order? ho)

/-- A coordinator whose batch in flight is done has no open batch. -/
theorem tame_giveUp (h : p.Flight) (hk : p.coordinators[c]? = some k) (ht : k.handle = some t)
    (hdone : p.pool.isDone t) : p.Tame (p.modifyCoordinator c .givenUp) := by
  refine .of_curbs h (.refl p.pool) (yielding_of_modify rfl fun l hl => ?_)
  rw [hk] at hl
  cases hl
  refine ⟨Nat.le_succ _, rfl, .inr ⟨rfl, fun u g ho hopen => ?_, .inl (Nat.lt_succ_self _)⟩⟩
  have hu := h.single u c g k ho hk hopen
  rw [ht] at hu
  cases hu
  obtain ⟨hnq, hnr⟩ := (h.sound.done_iff t (lt_of_order? ho)).1 hdone
  exact hopen.2 (h.sound.given_up t (hopen.1.resolve_left hnq) hnr)

/-- A process with the same pool and the same coordinators is in the same flight. -/
theorem Flight.congr (h : p.Flight) (hp : q.pool = p.pool) (hc : q.coordinators = p.coordinators) :
    q.Flight :=
  h.of_tame (.of_curbs h (hp ▸ .refl p.pool) (yielding_of_eq hc))

/-- A new coordinator has no batches. -/
theorem Flight.enlist (h : p.Flight) (name : String) (config : ConnectorConfig) :
    (p.enlist name config).Flight := by
  refine ⟨h.sound, fun t c g ho => ?_, h.distinct, fun c k t hk hh => ?_,
    fun t c g k ho hk hopen => ?_, fun c k hk hr => ?_, fun c k hk => ?_, h.fresh⟩
  · obtain ⟨k, hk, hg⟩ := h.owned t c g ho
    exact ⟨k, getElem?_enlist hk, hg⟩
  · rcases enlist_cases hk with hk | ⟨-, rfl⟩
    · exact h.handled c k t hk hh
    · cases hh
  · rcases enlist_cases hk with hk | ⟨rfl, -⟩
    · exact h.single t c g k ho hk hopen
    · obtain ⟨l, hl, -⟩ := h.owned t _ g ho
      exact absurd (List.getElem?_eq_some_iff.1 hl).1 (Nat.lt_irrefl _)
  · rcases enlist_cases hk with hk | ⟨-, rfl⟩
    · exact h.removed c k hk hr
    · rfl
  · rcases enlist_cases hk with hk | ⟨-, rfl⟩
    · exact h.unreleased c k hk
    · rfl

/-! ## A new batch -/

/-- What the submission of a batch does: its coordinator has it in flight, under a new generation, and
everything else is as it was. -/
structure Launches (p q : Scheduler) (c : CoordinatorId) (k : Coordinator) (t : TaskId) (b : Batch) :
    Prop where
  sound : q.pool.Sound
  unknown : p.order? t = none
  entering : b.stage = .entering
  order : b.order = (c, k.generation + 1)
  batch? : ∀ u, q.batch? u = if u = t then some b else p.batch? u
  isOpen : ∀ u, u ≠ t → q.pool.Open u → p.pool.Open u
  queue : ∀ u ∈ q.pool.queue, u ≠ t → u ∈ p.pool.queue
  launched : q.coordinators[c]? = some { k with generation := k.generation + 1, handle := some t }
  others : ∀ d : CoordinatorId, d ≠ c → q.coordinators[d]? = p.coordinators[d]?

/-- A submission launches a batch, unless the pool is shut down: then only the generation moves on. -/
theorem submit_launches (h : p.Flight) (hk : p.coordinators[c]? = some k) (r : TraverserId)
    (maxItems : Nat) (metered : Bool) :
    ((p.submit c k r maxItems metered).2 =
      p.modifyCoordinator c fun l => { l with generation := k.generation + 1 }) ∨
    ∃ t, p.Launches (p.submit c k r maxItems metered).2 c k t (k.nextBatch c r maxItems metered) := by
  rcases p.submit_cases c k r maxItems metered with he | ⟨t, pool, hs, he⟩ <;> rw [he]
  · exact .inl rfl
  · obtain ⟨ht, -, hq, -⟩ := Pool.submit_eq_some hs
    refine .inr ⟨t, h.sound.submit hs, ?_, rfl, rfl, Pool.payload?_submit hs,
      fun u hne => Pool.open_of_submit hs hne, ?_, ?_, ?_⟩
    · cases ho : p.order? t with
      | none => rfl
      | some o => exact absurd (ht ▸ lt_of_order? ho) (Nat.lt_irrefl _)
    · intro u hu hne
      rw [hq, List.mem_append, List.mem_singleton] at hu
      exact hu.resolve_right hne
    · exact getElem?_modifyCoordinator_self hk _
    · intro d hne
      exact (getElem?_modifyCoordinator p c d _).trans (if_neg (Ne.symm hne))

variable {b : Batch}

theorem Launches.order? (hl : p.Launches q c k t b) (u : TaskId) :
    q.order? u = if u = t then some (c, k.generation + 1) else p.order? u := by
  rw [Scheduler.order?, hl.batch?]
  split
  · exact congrArg some hl.order
  · rfl

/-- A batch is the new one or was there before. -/
theorem Launches.order?_eq_some (hl : p.Launches q c k t b) {o : CoordinatorId × Nat} :
    q.order? u = some o ↔ u = t ∧ o = (c, k.generation + 1) ∨ u ≠ t ∧ p.order? u = some o := by
  rw [hl.order?]
  split
  · next hu => simp [hu, eq_comm]
  · next hu => simp [hu]

/-- A coordinator is the one of the new batch or is as it was. -/
theorem Launches.coordinator_cases (hl : p.Launches q c k t b) {d : CoordinatorId} {l : Coordinator}
    (hd : q.coordinators[d]? = some l) :
    d = c ∧ l = { k with generation := k.generation + 1, handle := some t } ∨
      d ≠ c ∧ p.coordinators[d]? = some l := by
  rcases eq_or_ne d c with rfl | hne
  · rw [hl.launched] at hd
    exact .inl ⟨rfl, (Option.some.inj hd).symm⟩
  · rw [hl.others d hne] at hd
    exact .inr ⟨hne, hd⟩

/-- A batch launched by a coordinator that had none in flight is the only open one of it, and the
first of its generation. -/
theorem Flight.of_launches (h : p.Flight) (hk : p.coordinators[c]? = some k)
    (hlive : k.removed = false) (hidle : k.handle = none) (hl : p.Launches q c k t b) : q.Flight := by
  -- an older batch of the coordinator has a smaller generation and is not open
  have hold {u : TaskId} {g : Nat} (ho : p.order? u = some (c, g)) :
      g ≤ k.generation ∧ ¬ p.pool.Open u := by
    obtain ⟨l, hk', hg⟩ := h.owned u c g ho
    rw [hk] at hk'
    cases hk'
    refine ⟨hg, fun hopen => ?_⟩
    rw [h.single u c g k ho hk hopen] at hidle
    cases hidle
  constructor
  · exact hl.sound
  · intro u d g ho
    rcases hl.order?_eq_some.1 ho with ⟨-, e⟩ | ⟨-, ho⟩
    · cases e
      exact ⟨_, hl.launched, Nat.le_refl _⟩
    · obtain ⟨l, hd, hg⟩ := h.owned u d g ho
      rcases eq_or_ne d c with rfl | hne
      · exact ⟨_, hl.launched, Nat.le_succ_of_le (hold ho).1⟩
      · exact ⟨l, (hl.others d hne).trans hd, hg⟩
  · intro u v d g hou hov
    rcases hl.order?_eq_some.1 hou with ⟨hu, e⟩ | ⟨-, hou⟩ <;>
      rcases hl.order?_eq_some.1 hov with ⟨hv, e'⟩ | ⟨-, hov⟩
    · exact hu.trans hv.symm
    · cases e
      exact absurd (hold hov).1 (Nat.not_succ_le_self _)
    · cases e'
      exact absurd (hold hou).1 (Nat.not_succ_le_self _)
    · exact h.distinct u v d g hou hov
  · intro d l u hd hh
    rcases hl.coordinator_cases hd with ⟨rfl, rfl⟩ | ⟨-, hd⟩
    · exact hl.order?_eq_some.2 (.inl ⟨(Option.some.inj hh).symm, rfl⟩)
    · have ho := h.handled d l u hd hh
      refine hl.order?_eq_some.2 (.inr ⟨?_, ho⟩)
      rintro rfl
      rw [hl.unknown] at ho
      cases ho
  · intro u d g l ho hd hu
    rcases hl.order?_eq_some.1 ho with ⟨rfl, e⟩ | ⟨hne, ho⟩ <;>
      rcases hl.coordinator_cases hd with ⟨rfl, rfl⟩ | ⟨hdc, hd⟩
    · rfl
    · cases e
      exact absurd rfl hdc
    · exact absurd (hl.isOpen u hne hu) (hold ho).2
    · exact h.single u d g l ho hd (hl.isOpen u hne hu)
  · intro d l hd hr
    rcases hl.coordinator_cases hd with ⟨-, rfl⟩ | ⟨-, hd⟩
    · rw [hlive] at hr
      cases hr
    · exact h.removed d l hd hr
  · intro d l hd
    rcases hl.coordinator_cases hd with ⟨-, rfl⟩ | ⟨-, hd⟩
    · exact h.unreleased c k hk
    · exact h.unreleased d l hd
  · intro u hu x hx
    rw [hl.batch?] at hx
    split at hx
    · cases hx
      exact hl.entering
    · next hne => exact h.fresh u (hl.queue u hu hne) x hx

/-- A coordinator that has no batch in flight may submit one. -/
theorem Flight.submit (h : p.Flight) (hk : p.coordinators[c]? = some k) (hlive : k.removed = false)
    (hidle : k.handle = none) (r : TraverserId) (maxItems : Nat) (metered : Bool) :
    (p.submit c k r maxItems metered).2.Flight := by
  rcases submit_launches h hk r maxItems metered with he | ⟨t, hl⟩
  · rw [he]
    refine h.of_tame (.of_curbs h (.refl p.pool) (yielding_of_modify rfl fun l hl => ?_))
    rw [hk] at hl
    cases hl
    refine ⟨Nat.le_succ _, rfl, .inr ⟨hidle, fun t g ho hopen => ?_, .inl (Nat.lt_succ_self _)⟩⟩
    rw [h.single t c g k ho hk hopen] at hidle
    cases hidle
  · exact h.of_launches hk hlive hidle hl

/-! ## Turns -/

/-- A batch that ends leaves the others as they are. -/
theorem Tame.of_finish (h : p.Flight) (hx : p.pool.isExecuting t) (hq : q.pool = p.pool.finish t)
    (hc : p.Yielding q) : p.Tame q where
  sound := hq ▸ h.sound.finish hx
  order? u := by
    show (q.pool.payload? u).map Batch.order = (p.pool.payload? u).map Batch.order
    rw [hq]
    exact congrArg (Option.map Batch.order) (Pool.payload?_markDone p.pool t u)
  isOpen u hu := by
    rw [hq] at hu
    refine ⟨hu.1.imp id fun hux => (Pool.isExecuting_finish.1 hux).1, fun hr => hu.2 ?_⟩
    exact (Pool.isRequested_markDone p.pool t u).trans hr
  coordinators := hc
  fresh u hu := by
    rw [hq] at hu
    refine ⟨hu, ?_⟩
    show q.pool.payload? u = p.pool.payload? u
    rw [hq]
    exact Pool.payload?_markDone p.pool t u

theorem batch?_withStage (p : Scheduler) (t u : TaskId) (stage : RunStage) :
    (p.withStage t stage).batch? u =
      if t = u then (p.batch? u).map fun b => { b with stage } else p.batch? u := by
  simp only [withStage, batch?, Pool.payload?, Pool.getElem?_modifyTask]
  split
  · simp only [Option.map_map]
    rfl
  · rfl

theorem order?_withStage (p : Scheduler) (t u : TaskId) (stage : RunStage) :
    (p.withStage t stage).order? u = p.order? u := by
  rw [order?, batch?_withStage]
  split
  · rw [Option.map_map]
    rfl
  · rfl

/-- A batch whose stage changes while it is not queued leaves everything else as it is. -/
theorem Tame.of_stage (h : p.Flight) (htq : t ∉ p.pool.queue) (stage : RunStage)
    (hq : q.pool = (p.withStage t stage).pool)
    (hc : p.Yielding q) : p.Tame q := by
  have hbatch (u : TaskId) : q.batch? u =
      if t = u then (p.batch? u).map fun b => { b with stage } else p.batch? u := by
    rw [batch?, hq]
    exact batch?_withStage p t u stage
  refine ⟨?_, fun u => ?_, fun u hu => ?_, hc, fun u hu => ?_⟩
  · rw [hq]
    exact h.sound.modifyPayload t fun b => { b with stage }
  · show (q.pool.payload? u).map Batch.order = _
    rw [hq]
    exact order?_withStage p t u stage
  · rw [hq] at hu
    refine ⟨hu.1, fun hr => hu.2 ?_⟩
    exact (Pool.any_modifyTask p.pool t u (by intro task; rfl)).trans hr
  · rw [hq] at hu
    refine ⟨hu, ?_⟩
    rw [hbatch, if_neg]
    rintro rfl
    exact htq hu

/-- A batch that begins is as open as it was in the queue. -/
theorem tame_take (h : p.Flight) {w : WorkerId} {pool : Pool Batch}
    (ht : p.pool.take? w = some (t, pool)) : p.Tame { p with pool } := by
  have hsound := h.sound.take? ht
  obtain ⟨rest, hq, rfl⟩ := Pool.take?_eq_some ht
  refine ⟨hsound, fun _ => rfl, fun u hu => ⟨?_, hu.2⟩, yielding_of_eq rfl, fun u hu => ⟨?_, rfl⟩⟩
  · rcases hu.1 with hmem | hx
    · exact .inl (hq ▸ List.mem_cons_of_mem t hmem)
    · simp only [Pool.isExecuting, List.any_append, List.any_cons, List.any_nil, Bool.or_false,
        Bool.or_eq_true, beq_iff_eq] at hx
      rcases hx with hx | rfl
      · exact .inr hx
      · exact .inl (hq ▸ List.mem_cons_self)
  · exact hq ▸ List.mem_cons_of_mem t hu

/-- The current batch of a coordinator that ends, with the handle given up, leaves no open batch of
it: all open ones would be of the same generation. -/
theorem tame_settle (h : p.Flight) {b : Batch} (hx : p.pool.isExecuting t)
    (hb : p.batch? t = some b) (hk : p.coordinators[b.coordinator]? = some k)
    (hcur : b.generation = k.generation) (disabled : Option Schedule)
    (hq : q.pool = p.pool.finish t)
    (hc : q.coordinators = p.coordinators.modify b.coordinator (.settled disabled)) : p.Tame q := by
  refine .of_finish h hx hq (yielding_of_modify hc fun l hl => ?_)
  rw [hk] at hl
  cases hl
  have hsame {u : TaskId} (hu : k.handle = some u) : u = t := by
    have ho := h.handled _ k u hk hu
    rw [← hcur] at ho
    exact h.distinct u t _ _ ho (order?_of_batch? hb)
  have hopen {u : TaskId} (hu : (p.pool.finish t).Open u) : p.pool.Open u ∧ u ≠ t := by
    have hr : ¬ p.pool.isRequested u :=
      fun hr => hu.2 ((Pool.isRequested_markDone p.pool t u).trans hr)
    rcases hu.1 with hmem | hux
    · exact ⟨⟨.inl hmem, hr⟩, fun e => h.sound.notMem_queue hx (e ▸ hmem)⟩
    · obtain ⟨hux, hut⟩ := Pool.isExecuting_finish.1 hux
      exact ⟨⟨.inr hux, hr⟩, hut⟩
  refine ⟨Nat.le_refl _, rfl, .inr ⟨rfl, fun u g ho hu => ?_, .inr fun u hu hux => ?_⟩⟩
  · rw [hq] at hu
    exact (hopen hu).2 (hsame (h.single u _ g k ho hk (hopen hu).1))
  · rw [hq, hsame hu] at hux
    exact (Pool.isExecuting_finish.1 hux).2 rfl

/-! ## Phases -/

/-- A coordinator is running exactly if its batch in flight is queued or occupies a worker. -/
theorem Flight.phase_running_iff (h : p.Flight) (hk : p.coordinators[c]? = some k) (now : Instant) :
    (p.phase c now).1 = .running ↔
      ∃ t, k.handle = some t ∧ (t ∈ p.pool.queue ∨ p.pool.isRunning t) := by
  unfold phase
  rcases reap_cases hk now with ⟨he, hnd⟩ | ⟨t, hh, hd, he⟩ <;> rw [he]
  · dsimp only
    rw [hk]
    dsimp only
    split
    · next hr =>
      rw [h.removed c k hk hr]
      simp
    · cases hh : k.handle with
      | none => simp
      | some t =>
        have hdone := h.sound.done_iff t (lt_of_order? (h.handled c k t hk hh))
        have hin : t ∈ p.pool.queue ∨ p.pool.isRunning t := by
          by_contra hout
          exact hnd t hh (hdone.2 (not_or.1 hout))
        simpa [hnd t hh] using hin
  · -- a batch that is done is neither queued nor running, and its coordinator is reaped
    have hdone := (h.sound.done_iff t (lt_of_order? (h.handled c k t hk hh))).1 hd
    have hk' : ((p.modifyCoordinator c .givenUp).backOff k.name now).coordinators[c]? =
        some k.givenUp := getElem?_modifyCoordinator_self hk _
    dsimp only
    rw [hk', hh]
    dsimp only
    split <;> simp [Coordinator.givenUp, hdone]

end Scheduler

namespace Site

variable {s s' : Site} {t : TaskId}

/-- Upkeep that does not submit a batch is tame. -/
theorem Upkeep.tame (h : Upkeep s s') (hf : s.scheduler.Flight) :
    s.scheduler.Tame s'.scheduler ∨
      ∃ c k r maxItems metered, s.scheduler.coordinators[c]? = some k ∧ k.removed = false ∧
        k.handle = none ∧ s'.scheduler = (s.scheduler.submit c k r maxItems metered).2 := by
  have hsame {q : Scheduler} (hp : q.pool = s.scheduler.pool)
      (hc : q.coordinators = s.scheduler.coordinators) : s.scheduler.Tame q :=
    .of_curbs hf (hp ▸ .refl _) (Scheduler.yielding_of_eq hc)
  cases h with
  | backOff | hint | measure => exact .inl (hsame rfl rfl)
  | giveUp hk ht hdone =>
    have hup := Scheduler.tame_giveUp hf hk ht hdone
    exact .inl ⟨hup.sound, hup.order?, hup.isOpen, hup.coordinators, hup.fresh⟩
  | @equip c k _ _ hnone =>
    rcases Scheduler.traverserFor_cases s.scheduler c hnone with ⟨e, he⟩ | ⟨_, _, -, -, he⟩ <;> rw [he]
    · exact .inl (hsame rfl rfl)
    · refine .inl (.of_curbs hf (.refl _) (Scheduler.yielding_of_modify rfl fun _ _ => ?_))
      exact .of_same rfl rfl rfl rfl
  | submit maxItems metered hk hlive hidle =>
    exact .inr ⟨_, _, _, maxItems, metered, hk, hlive, hidle, rfl⟩
  | curb hp => exact .inl (.of_curbs hf hp (Scheduler.yielding_of_eq rfl))

/-- A chore that neither makes a coordinator nor submits a batch is tame. -/
theorem Chore.tame (h : Chore s s') (hf : s.scheduler.Flight) :
    s.scheduler.Tame s'.scheduler ∨
      (∃ name config, s'.scheduler = s.scheduler.enlist name config) ∨
      ∃ c k r maxItems metered, s.scheduler.coordinators[c]? = some k ∧ k.removed = false ∧
        k.handle = none ∧ s'.scheduler = (s.scheduler.submit c k r maxItems metered).2 := by
  cases h with
  | upkeep h => exact (h.tame hf).imp_right .inr
  | edit h =>
    cases h with
    | amend a _ hk =>
      exact .inl (Scheduler.tame_interrupt hf hk (by cases a <;> exact fun _ => rfl))
    | @enlist name config => exact .inr (.inl ⟨name, config, rfl⟩)
    | @detach c k _ hk hlive =>
      have hrem := Scheduler.tame_interrupt hf hk (f := fun k =>
        { k with removed := true, config := none, schedule := none, traverser := none }) fun _ => rfl
      refine .inl ?_
      show s.scheduler.Tame (s.scheduler.detach k.name c)
      rw [Scheduler.detach_eq hk hlive]
      exact ⟨hrem.sound, hrem.order?, hrem.isOpen, hrem.coordinators, hrem.fresh⟩
    | look | storeConfiguration | storeSchedule | removeTask =>
      exact .inl (.of_curbs hf (.refl _) (Scheduler.yielding_of_eq rfl))
    | clearCheckpoint =>
      refine .inl (.of_curbs hf (.refl _) (Scheduler.yielding_of_modify rfl fun _ _ => ?_))
      exact .of_same rfl rfl rfl rfl

/-- A chore keeps the batches of a process in flight. -/
theorem Chore.flight (h : Chore s s') (hf : s.scheduler.Flight) : s'.scheduler.Flight := by
  rcases h.tame hf with ht | ⟨name, config, he⟩ | ⟨c, k, r, maxItems, metered, hk, hlive, hidle, he⟩
  · exact hf.of_tame ht
  · rw [he]
    exact hf.enlist name config
  · rw [he]
    exact hf.submit hk hlive hidle r maxItems metered

/-- Every turn of a batch is tame. -/
theorem Turn.tame (h : Turn t s s') (hf : s.scheduler.Flight) : s.scheduler.Tame s'.scheduler := by
  cases h with
  | take h => exact Scheduler.tame_take hf h
  | move hx =>
    refine .of_stage hf (hf.sound.notMem_queue hx) _ rfl
      (Scheduler.yielding_of_modify rfl fun _ _ => ?_)
    exact .of_same rfl rfl rfl rfl
  | answer a hb hst =>
    refine .of_stage hf (fun hq => ?_) _ rfl (Scheduler.yielding_of_eq rfl)
    have hen := hf.fresh t hq _ hb
    rw [hst] at hen
    cases hen
  | crash hx | retire hx | choke hx | count hx =>
    exact .of_finish hf hx rfl (Scheduler.yielding_of_eq rfl)
  | @settle b k code hx hb _ hk _ _ hcur =>
    rcases settleBatch_cases (s.counted t k (BatchResult.ofCode code).count) t b k (.ofCode code) with
      ⟨-, he⟩ | ⟨-, disabled, -, he⟩ <;> rw [he]
    · exact Scheduler.tame_settle hf hx hb hk hcur none rfl rfl
    · exact Scheduler.tame_settle hf hx hb hk hcur disabled rfl rfl

/-- A turn of a batch keeps the batches of a process in flight. -/
theorem Turn.flight (h : Turn t s s') (hf : s.scheduler.Flight) : s'.scheduler.Flight :=
  hf.of_tame (h.tame hf)

theorem Moves.flight (h : Moves s s') (hf : s.scheduler.Flight) : s'.scheduler.Flight := by
  induction h with
  | refl => exact hf
  | tail _ h ih =>
    cases h with
    | chore h => exact h.flight ih
    | turn t h => exact h.flight ih

end Site

end BatchTraversal
