import BatchTraversal.Proofs.Process.Accounts

/-!
# Batches that were cut off

A batch whose coordinator gave up its handle for another generation is cut off (`Scheduler.Severed`):
it has left the queue, or it is still executed but its token is tripped, its coordinator is ahead of
it, and it will look at its token before it touches the store. Nothing that happens afterwards mends
that (`Site.Moves.severed`), and what such a batch still does leaves no trace but the count of its
items (`Site.Turns.traceless`).
-/

namespace BatchTraversal

/-- Whether a run looks at its token before it touches the store, if it touches it at all. -/
def RunStage.Guarded : RunStage → Prop
  | reading | saving _ _ => False
  | entering | waiting _ | calling _ | answered _ | coded _ | crashed => True

/-- A guarded run whose token is tripped leaves the store and its cell alone, saves no checkpoint and
stays guarded. -/
theorem RunStage.Guarded.advance {stage : RunStage} (h : stage.Guarded) (token : TokenId)
    (w : Workbench) :
    let a := stage.advance token true w
    a.1.Guarded ∧ a.2.1.cell = w.cell ∧ a.2.1.backend = w.backend ∧
      ∀ checkpoint, a.2.2 ≠ some (.saved checkpoint) := by
  have hadvances := stage.advances token true w
  generalize stage.advance token true w = a at hadvances
  cases hadvances with
  | misread | read | missave | save => cases h
  | enter htrip | keep htrip => cases htrip
  | stay => exact ⟨h, rfl, rfl, fun _ => nofun⟩
  | _ => exact ⟨trivial, rfl, rfl, fun _ => nofun⟩

namespace Scheduler

/-- Whether the coordinator of a batch has moved on to another generation. -/
def Superseded (p : Scheduler) (t : TaskId) : Prop :=
  ∃ c g k, p.order? t = some (c, g) ∧ p.coordinators[c]? = some k ∧ g < k.generation

/-- Whether the run of a batch looks at its token before it touches the store. -/
def Guarded (p : Scheduler) (t : TaskId) : Prop := ∃ stage, p.stage? t = some stage ∧ stage.Guarded

/-- What holds of a batch that was cut off. -/
structure Severed (p : Scheduler) (t : TaskId) : Prop where
  known : t < p.pool.tasks.length
  queue : t ∉ p.pool.queue
  cut : p.pool.isExecuting t → p.pool.isTripped t ∧ p.Superseded t ∧ p.Guarded t

variable {p q : Scheduler} {t u : TaskId} {c : CoordinatorId} {k : Coordinator}

/-- A guarded batch stays so while it is spared. -/
theorem Guarded.of_spares (h : p.Guarded t) (hs : p.pool.Spares t q.pool) : q.Guarded t := by
  obtain ⟨stage, hst, hg⟩ := h
  exact ⟨stage, (congrArg (Option.map Batch.stage) hs.payload?).trans hst, hg⟩

/-- A batch that is spared keeps its place in the order of its coordinator. -/
theorem order?_of_spares (hs : p.pool.Spares t q.pool) : q.order? t = p.order? t :=
  congrArg (Option.map Batch.order) hs.payload?

/-- A batch that is spared has been submitted. -/
theorem lt_of_spares (hs : p.pool.Spares t q.pool) (h : t < p.pool.tasks.length) :
    t < q.pool.tasks.length := by
  have hp := hs.payload?
  simp only [Pool.payload?] at hp
  by_contra hn
  rw [List.getElem?_eq_none (Nat.le_of_not_lt hn), List.getElem?_eq_getElem h] at hp
  cases hp

/-- A coordinator is never taken away, and its generation never goes back. -/
def Ages (p q : Scheduler) : Prop :=
  ∀ (c : CoordinatorId) (k : Coordinator), p.coordinators[c]? = some k →
    ∃ k', q.coordinators[c]? = some k' ∧ k.generation ≤ k'.generation

/-- A superseded batch stays so, as generations only move on. -/
theorem Superseded.of_ages (h : p.Superseded t) (hs : p.pool.Spares t q.pool) (ha : p.Ages q) :
    q.Superseded t := by
  obtain ⟨c, g, k, ho, hk, hg⟩ := h
  obtain ⟨k', hk', hle⟩ := ha c k hk
  exact ⟨c, g, k', (order?_of_spares hs).trans ho, hk', Nat.lt_of_lt_of_le hg hle⟩

/-- What spares a batch that was cut off does not mend that. -/
theorem Severed.of_spares (h : p.Severed t) (hs : p.pool.Spares t q.pool) (ha : p.Ages q) :
    q.Severed t := by
  refine ⟨lt_of_spares hs h.known, fun hq => h.queue (hs.queue hq), fun hx => ?_⟩
  obtain ⟨ht, hsup, hg⟩ := h.cut (hs.executing.1 hx)
  exact ⟨hs.tripped ht, hsup.of_ages hs ha, hg.of_spares hs⟩

/-! ## Cutting off -/

/-- A coordinator keeps its handle through what spares the batch, or the batch is cut off. -/
theorem Tame.sever (ht : p.Tame q) (h : p.Flight) (hs : p.pool.Spares t q.pool)
    (hk : p.coordinators[c]? = some k) (hh : k.handle = some t)
    (hg : p.pool.isExecuting t → p.Guarded t) :
    (∃ k', q.coordinators[c]? = some k' ∧ k'.handle = some t) ∨ q.Severed t := by
  obtain ⟨k', hk', -, -, ⟨hsame, -⟩ | ⟨-, hno, hend⟩⟩ := (ht.coordinators c).1 k hk
  · exact .inl ⟨k', hk', hsame.trans hh⟩
  · right
    have ho := h.handled c k t hk hh
    have hnot := hno t _ ho
    refine ⟨lt_of_spares hs (lt_of_order? ho), fun hq => ?_, fun hx => ⟨?_, ?_, ?_⟩⟩
    · exact hnot ⟨.inl hq, ht.sound.unrequested t hq⟩
    · by_contra htrip
      exact hnot ⟨.inr hx, fun hr => htrip (ht.sound.tripped t hr)⟩
    · rcases hend with hlt | hdone
      · exact ⟨c, _, k', (ht.order? t).trans ho, hk', hlt⟩
      · exact absurd hx (hdone t hh)
    · exact (hg (hs.executing.1 hx)).of_spares hs

end Scheduler

namespace Site

variable {s s' : Site} {t u : TaskId} {c : CoordinatorId} {k : Coordinator}

/-- A chore spares every batch that was submitted before. -/
theorem Chore.spares (h : Chore s s') (ht : t < s.scheduler.pool.tasks.length) :
    s.scheduler.pool.Spares t s'.scheduler.pool := by
  rcases h.pool with hp | ⟨b, u, hs, -⟩
  · exact hp.spares t
  · exact Pool.spares_submit hs (Nat.ne_of_lt ((Pool.submit_eq_some hs).1 ▸ ht))

/-- A coordinator other than the one that submits stays as it is. -/
theorem getElem?_submit {p : Scheduler} {d : CoordinatorId} {l : Coordinator} {r : TraverserId}
    {maxItems : Nat} {metered : Bool} (hk : p.coordinators[c]? = some k) (hne : d ≠ c) :
    (p.submit d l r maxItems metered).2.coordinators[c]? = some k := by
  rcases p.submit_cases d l r maxItems metered with he | ⟨_, _, -, he⟩ <;> rw [he]
  all_goals
    exact (Scheduler.getElem?_modifyCoordinator p d c _).trans ((if_neg hne).trans hk)

/-- A chore may move the generation of a coordinator on, and never back. -/
theorem Chore.ages (h : Chore s s') (hf : s.scheduler.Flight) : s.scheduler.Ages s'.scheduler := by
  intro c k hk
  rcases h.tame hf with ht | ⟨name, config, he⟩ | ⟨d, l, r, maxItems, metered, hl, -, -, he⟩
  · obtain ⟨k', hk', hle, -⟩ := (ht.coordinators c).1 k hk
    exact ⟨k', hk', hle⟩
  · rw [he]
    exact ⟨k, Scheduler.getElem?_enlist hk, Nat.le_refl _⟩
  · rw [he]
    by_cases hdc : d = c
    · subst hdc
      rw [hk] at hl
      cases hl
      rcases s.scheduler.submit_cases d k r maxItems metered with he | ⟨_, _, -, he⟩ <;> rw [he]
      all_goals
        exact ⟨_, Scheduler.getElem?_modifyCoordinator_self hk _, Nat.le_succ _⟩
    · exact ⟨k, getElem?_submit hk hdc, Nat.le_refl _⟩

/-- A chore through which a coordinator loses the handle of a batch cuts the batch off. -/
theorem Chore.sever (h : Chore s s') (hf : s.scheduler.Flight)
    (hk : s.scheduler.coordinators[c]? = some k) (hh : k.handle = some t)
    (hg : s.scheduler.pool.isExecuting t → s.scheduler.Guarded t) :
    (∃ k', s'.scheduler.coordinators[c]? = some k' ∧ k'.handle = some t) ∨
      s'.scheduler.Severed t := by
  have hs := h.spares (Scheduler.lt_of_order? (hf.handled c k t hk hh))
  rcases h.tame hf with ht | ⟨name, config, he⟩ | ⟨d, l, r, maxItems, metered, hl, -, hidle, he⟩
  · exact ht.sever hf hs hk hh hg
  · rw [he]
    exact .inl ⟨k, Scheduler.getElem?_enlist hk, hh⟩
  · have hdc : d ≠ c := by
      rintro rfl
      rw [hk] at hl
      cases hl
      rw [hh] at hidle
      cases hidle
    rw [he]
    exact .inl ⟨k, getElem?_submit hk hdc, hh⟩

/-- A chore does not take a severed batch back. -/
theorem Chore.severed (h : Chore s s') (hf : s.scheduler.Flight) (hs : s.scheduler.Severed t) :
    s'.scheduler.Severed t :=
  hs.of_spares (h.spares hs.known) (h.ages hf)

/-- Chores through which a coordinator loses the handle of a batch cut the batch off. -/
theorem Chores.sever (h : Chores s s') (hf : s.scheduler.Flight)
    (hk : s.scheduler.coordinators[c]? = some k) (hh : k.handle = some t)
    (hg : s.scheduler.pool.isExecuting t → s.scheduler.Guarded t) :
    (∃ k', s'.scheduler.coordinators[c]? = some k' ∧ k'.handle = some t) ∨
      s'.scheduler.Severed t := by
  -- as long as the handle is kept, the run of the batch stays guarded
  have hloop : (∃ k', s'.scheduler.coordinators[c]? = some k' ∧ k'.handle = some t) ∧
      (s'.scheduler.pool.isExecuting t → s'.scheduler.Guarded t) ∨ s'.scheduler.Severed t := by
    induction h with
    | refl => exact .inl ⟨⟨k, hk, hh⟩, hg⟩
    | @tail s₁ s₂ h₀ h ih =>
      have hf₁ : s₁.scheduler.Flight := (Chores.moves h₀).flight hf
      rcases ih with ⟨⟨k₁, hk₁, hh₁⟩, hg₁⟩ | hsev
      · have hs := h.spares (Scheduler.lt_of_order? (hf₁.handled c k₁ t hk₁ hh₁))
        refine (h.sever hf₁ hk₁ hh₁ hg₁).imp_left fun hkept => ⟨hkept, fun hx => ?_⟩
        exact (hg₁ (hs.executing.1 hx)).of_spares hs
      · exact .inr (h.severed hf₁ hsev)
  exact hloop.imp_left And.left

/-! ## Turns of a batch that was cut off -/

/-- A turn of a batch moves no generation back. -/
theorem Turn.ages (h : Turn u s s') : s.scheduler.Ages s'.scheduler := by
  intro c k hk
  obtain ⟨k', hk', hg, -⟩ := h.alike.coordinator hk
  exact ⟨k', hk', Nat.le_of_eq hg.symm⟩

/-- A turn of another batch does not mend a batch that was cut off. -/
theorem Turn.severed_other (h : Turn u s s') (hne : t ≠ u) (hs : s.scheduler.Severed t) :
    s'.scheduler.Severed t :=
  hs.of_spares (h.spares hne) h.ages

end Site

namespace Throttle

/-- Whether two throttles differ in nothing but what they counted for one connector. -/
structure CountsFor (name : String) (t t' : Throttle) : Prop where
  period : t'.period = t.period
  maxBatch : t'.maxBatch = t.maxBatch
  others : ∀ other, other ≠ name → t'.entries.find? other = t.entries.find? other
  backoff : ∀ other, (t'.entries.find? other).bind (·.delayUntil) =
    (t.entries.find? other).bind (·.delayUntil)

variable {name : String} {t t' t'' : Throttle}

theorem CountsFor.refl (name : String) (t : Throttle) : CountsFor name t t :=
  ⟨rfl, rfl, fun _ _ => rfl, fun _ => rfl⟩

/-- Counting twice for a connector is counting for it. -/
theorem CountsFor.trans (h : CountsFor name t t') (h' : CountsFor name t' t'') :
    CountsFor name t t'' :=
  ⟨h'.period.trans h.period, h'.maxBatch.trans h.maxBatch,
    fun o ho => (h'.others o ho).trans (h.others o ho),
    fun o => (h'.backoff o).trans (h.backoff o)⟩

/-- Items are counted for their connector and no other. -/
theorem countsFor_fold (t : Throttle) (name : String) (count : Nat) (now : Instant) :
    CountsFor name t (t.fold name count now).2 := by
  obtain ⟨e, he, -⟩ := t.fold_snd name count now
  exact ⟨he ▸ rfl, he ▸ rfl, t.alters_fold name count now, fun other => t.stop?_fold name other count now⟩

end Throttle

/-- The checkpoint that was saved for a batch. -/
def Occurrence.savedOf? (t : TaskId) : Occurrence → Option String
  | saved u _ checkpoint => if u = t then some checkpoint else none
  | _ => none

namespace Scheduler

/-- The checkpoints that were saved for a batch. -/
def saves (p : Scheduler) (t : TaskId) : List String := p.journal.filterMap (·.savedOf? t)

/-- Whether a batch, of the same coordinator and generation as before, has neither saved a checkpoint
in between nor had its result delivered. -/
structure Silent (p : Scheduler) (t : TaskId) (q : Scheduler) : Prop where
  order : q.order? t = p.order? t
  saves : q.saves t = p.saves t
  deliveries : q.deliveries t = p.deliveries t

variable {p q r : Scheduler} {t : TaskId}

theorem Silent.refl (t : TaskId) (p : Scheduler) : p.Silent t p := ⟨rfl, rfl, rfl⟩

/-- A batch that is silent step by step is silent. -/
theorem Silent.trans (h : p.Silent t q) (h' : q.Silent t r) : p.Silent t r :=
  ⟨h'.order.trans h.order, h'.saves.trans h.saves, h'.deliveries.trans h.deliveries⟩

/-- A batch is silent if the journal gets neither a save nor a delivery of it. -/
theorem Silent.of_journal (ho : q.order? t = p.order? t) {l : List Occurrence}
    (hj : q.journal = p.journal ++ l)
    (hl : ∀ o ∈ l, o.savedOf? t = none ∧ o.deliveryOf? t = none) : p.Silent t q where
  order := ho
  saves := by
    rw [Scheduler.saves, hj, List.filterMap_append,
      List.filterMap_eq_nil_iff.2 fun o ho => (hl o ho).1, List.append_nil]
    rfl
  deliveries := by
    rw [deliveries_append hj, List.filterMap_eq_nil_iff.2 fun o ho => (hl o ho).2,
      List.append_nil]

/-- Whether a throttle differs from that of the process in nothing but what it counted for the connector
of a batch, and in nothing at all if the coordinator of the batch is removed. -/
def CountsOnly (p : Scheduler) (t : TaskId) (throttle : Throttle) : Prop :=
  ∀ c g k, p.order? t = some (c, g) → p.coordinators[c]? = some k →
    Throttle.CountsFor k.name p.throttle throttle ∧ (k.removed → throttle = p.throttle)

theorem CountsOnly.refl (t : TaskId) (p : Scheduler) : p.CountsOnly t p.throttle :=
  fun _ _ k _ _ => ⟨.refl k.name _, fun _ => rfl⟩

/-- Counting items for a batch whose coordinator is not removed does only that. -/
theorem countsOnly_fold {b : Batch} {k : Coordinator} (hb : p.batch? t = some b)
    (hk : p.coordinators[b.coordinator]? = some k) (hlive : k.removed = false) (count : Nat)
    (now : Instant) : p.CountsOnly t (p.throttle.fold k.name count now).2 := by
  intro c g l ho hl
  rw [order?_of_batch? hb] at ho
  cases ho
  rw [hk] at hl
  cases hl
  refine ⟨Throttle.countsFor_fold _ _ _ _, fun hr => ?_⟩
  rw [hlive] at hr
  cases hr

end Scheduler

namespace Site

/-- Whether a batch has left no trace in between but the count of its items, and not even that if its
coordinator is removed. -/
structure Traceless (t : TaskId) (s s' : Site) : Prop where
  backend : s'.backend = s.backend
  clock : s'.clock = s.clock
  coordinators : s'.scheduler.coordinators = s.scheduler.coordinators
  registry : s'.scheduler.registry = s.scheduler.registry
  inventory : s'.scheduler.inventory = s.scheduler.inventory
  metrics : s'.scheduler.metrics = s.scheduler.metrics
  silent : s.scheduler.Silent t s'.scheduler
  throttle : s.scheduler.CountsOnly t s'.scheduler.throttle

variable {s s' s'' : Site} {t u : TaskId}

theorem Traceless.refl (t : TaskId) (s : Site) : Traceless t s s :=
  ⟨rfl, rfl, rfl, rfl, rfl, rfl, .refl t s.scheduler, .refl t s.scheduler⟩

/-- What leaves no trace step by step leaves none. -/
theorem Traceless.trans (h : Traceless t s s') (h' : Traceless t s' s'') : Traceless t s s'' where
  backend := h'.backend.trans h.backend
  clock := h'.clock.trans h.clock
  coordinators := h'.coordinators.trans h.coordinators
  registry := h'.registry.trans h.registry
  inventory := h'.inventory.trans h.inventory
  metrics := h'.metrics.trans h.metrics
  silent := h.silent.trans h'.silent
  throttle c g k ho hk := by
    obtain ⟨hc, hr⟩ := h.throttle c g k ho hk
    obtain ⟨hc', hr'⟩ := h'.throttle c g k (h.silent.order.trans ho) (h.coordinators ▸ hk)
    exact ⟨hc.trans hc', fun hrem => (hr' hrem).trans (hr hrem)⟩

/-- A turn that leaves the coordinators, the throttle and everything shared as they are, and enters
neither a checkpoint nor a result, leaves no trace. -/
theorem Traceless.of_same {q : Scheduler} (hc : q.coordinators = s.scheduler.coordinators)
    (hreg : q.registry = s.scheduler.registry) (hinv : q.inventory = s.scheduler.inventory)
    (hm : q.metrics = s.scheduler.metrics) (ho : q.order? t = s.scheduler.order? t)
    {l : List Occurrence} (hj : q.journal = s.scheduler.journal ++ l)
    (hl : ∀ o ∈ l, o.savedOf? t = none ∧ o.deliveryOf? t = none)
    (hth : s.scheduler.CountsOnly t q.throttle) :
    Traceless t s (s.withScheduler q) :=
  ⟨rfl, rfl, hc, hreg, hinv, hm, .of_journal ho hj hl, hth⟩

/-- A change that changes nothing of the one value it is applied to. -/
theorem modify_eq_self {α : Type} {l : List α} {i : Nat} {a : α} {f : α → α} (ha : l[i]? = some a)
    (hf : f a = a) : l.modify i f = l := by
  refine List.ext_getElem? fun j => ?_
  rw [List.getElem?_modify]
  by_cases hij : i = j
  · subst hij
    simp [ha, hf]
  · simp [hij]

/-- A batch that was cut off and leaves its worker stays cut off. -/
theorem severed_finish {q : Scheduler} (hs : s.scheduler.Severed t)
    (hq : q.pool = s.scheduler.pool.finish t) :
    q.order? t = s.scheduler.order? t ∧ q.Severed t := by
  refine ⟨?_, ?_, ?_, fun hx => ?_⟩
  · show (q.pool.payload? t).map Batch.order = (s.scheduler.pool.payload? t).map Batch.order
    rw [hq]
    exact congrArg (Option.map Batch.order) (Pool.payload?_markDone s.scheduler.pool t t)
  · rw [hq]
    exact (Pool.length_markDone s.scheduler.pool t).symm ▸ hs.known
  · rw [hq]
    exact hs.queue
  · rw [hq] at hx
    exact absurd rfl (Pool.isExecuting_finish.1 hx).2

/-- A batch that was cut off and takes up a guarded stage stays cut off. -/
theorem severed_withStage {q : Scheduler} (hs : s.scheduler.Severed t) {stage : RunStage}
    (hg : stage.Guarded) (hq : q.pool = (s.scheduler.withStage t stage).pool)
    (hc : q.coordinators = s.scheduler.coordinators) :
    q.order? t = s.scheduler.order? t ∧ q.Severed t := by
  have ho : q.order? t = s.scheduler.order? t := by
    rw [← Scheduler.order?_withStage s.scheduler t t stage]
    exact congrArg (fun pool : Pool Batch => (pool.payload? t).map Batch.order) hq
  have hstage : q.stage? t = (s.scheduler.stage? t).map fun _ => stage := by
    have h := congrArg (Option.map Batch.stage) (Scheduler.batch?_withStage s.scheduler t t stage)
    rw [if_pos rfl, Option.map_map] at h
    rw [Scheduler.stage?, Scheduler.batch?, hq, Scheduler.stage?, Option.map_map]
    exact h
  refine ⟨ho, ?_, ?_, fun hx => ?_⟩
  · rw [hq]
    exact (List.length_modify ..).symm ▸ hs.known
  · rw [hq]
    exact hs.queue
  · rw [hq] at hx
    obtain ⟨htrip, ⟨c, g, k, hct, hk, hlt⟩, old, hold, -⟩ := hs.cut hx
    refine ⟨?_, ⟨c, g, k, ho.trans hct, hc ▸ hk, hlt⟩, stage, ?_, hg⟩
    · rw [hq]
      exact (Pool.any_modifyTask s.scheduler.pool t t (by intro task; rfl)).trans htrip
    · rw [hstage, hold]
      rfl

/-- A run that goes on while its batch is cut off leaves the cell and the store as they are. -/
theorem traceless_moved (hs : s.scheduler.Severed t) {b : Batch} {k : Coordinator} {r : Traverser}
    (hx : s.scheduler.pool.isExecuting t) (hb : s.scheduler.batch? t = some b)
    (hk : s.scheduler.coordinators[b.coordinator]? = some k) :
    Traceless t s (s.moved t b { traverser := r, cell := k.cell, backend := s.backend }) ∧
      (s.moved t b { traverser := r, cell := k.cell, backend := s.backend }).scheduler.Severed t := by
  obtain ⟨htrip, -, stage, hstage, hg⟩ := hs.cut hx
  rw [Scheduler.stage?_of_batch? hb] at hstage
  cases hstage
  have hadv := hg.advance t { traverser := r, cell := k.cell, backend := s.backend }
  rw [← (htrip : s.scheduler.pool.isTripped t = true)] at hadv
  unfold moved
  generalize b.stage.advance t (s.scheduler.pool.isTripped t)
    { traverser := r, cell := k.cell, backend := s.backend } = a at hadv ⊢
  obtain ⟨stage, ⟨r', cell, backend⟩, event⟩ := a
  obtain ⟨hg', rfl, rfl, hsaved⟩ := hadv
  have hsame : s.scheduler.coordinators.modify b.coordinator (fun l => { l with cell := k.cell }) =
      s.scheduler.coordinators := modify_eq_self hk rfl
  obtain ⟨ho, hsev⟩ := severed_withStage hs hg' (q :=
    { s.scheduler.withStage t stage with
      coordinators := s.scheduler.coordinators.modify b.coordinator fun l =>
        { l with cell := k.cell }
      traversers := s.scheduler.traversers.set b.traverser r'
      journal := s.scheduler.journal ++ (event.map (occurrenceOf t b r'.connector)).toList })
    rfl hsame
  refine ⟨.of_same hsame rfl rfl rfl ho rfl (fun o hmem => ?_) (.refl t s.scheduler), hsev⟩
  obtain ⟨e, he, rfl⟩ := Option.map_eq_some_iff.1 (Option.mem_toList.1 hmem)
  cases e with
  | called => exact ⟨rfl, rfl⟩
  | saved checkpoint => exact absurd he (hsaved checkpoint)

/-- A turn of a batch that was cut off leaves no trace but its count, and the batch stays cut off. -/
theorem Turn.traceless (h : Turn t s s') (hs : s.scheduler.Severed t) :
    Traceless t s s' ∧ s'.scheduler.Severed t := by
  have hnothing : s.scheduler.journal = s.scheduler.journal ++ [] := (List.append_nil _).symm
  cases h with
  | take h =>
    obtain ⟨rest, hq, -⟩ := Pool.take?_eq_some h
    exact absurd (hq ▸ List.mem_cons_self) hs.queue
  | move hx hb _ hk => exact traceless_moved hs hx hb hk
  | @answer b r checkpoint a hb hst hr =>
    have hg : (RunStage.answer a r (.calling checkpoint)).1.Guarded := by cases a <;> trivial
    obtain ⟨ho, hsev⟩ := severed_withStage hs hg (q :=
      (Scheduler.withStage
        { s.scheduler with
          traversers := s.scheduler.traversers.set b.traverser
            (RunStage.answer a r (.calling checkpoint)).2 } t
        (RunStage.answer a r (.calling checkpoint)).1).note
        (.answered t (RunStage.answer a r (.calling checkpoint)).2.connector a)) rfl rfl
    refine ⟨.of_same rfl rfl rfl rfl ho rfl (fun o hmem => ?_) (.refl t s.scheduler), hsev⟩
    rw [List.mem_singleton.1 hmem]
    exact ⟨rfl, rfl⟩
  | crash | retire =>
    obtain ⟨ho, hsev⟩ := severed_finish hs (q :=
      { s.scheduler with pool := s.scheduler.pool.finish t }) rfl
    exact ⟨.of_same rfl rfl rfl rfl ho hnothing (fun _ ho => nomatch ho) (.refl t s.scheduler), hsev⟩
  | @choke b k code _ hb _ hk hlive =>
    obtain ⟨ho, hsev⟩ := severed_finish hs (q :=
      { s.scheduler.withThrottle
          (s.scheduler.throttle.fold k.name (BatchResult.ofCode code).count s.now).2 with
        pool := s.scheduler.pool.finish t }) rfl
    exact ⟨.of_same rfl rfl rfl rfl ho hnothing (fun _ ho => nomatch ho)
      (Scheduler.countsOnly_fold hb hk hlive _ _), hsev⟩
  | @count b k code _ hb _ hk hlive =>
    obtain ⟨ho, hsev⟩ := severed_finish hs (q :=
      { (s.counted t k (BatchResult.ofCode code).count).scheduler with
        pool := s.scheduler.pool.finish t }) rfl
    refine ⟨.of_same rfl rfl rfl rfl ho rfl (fun o hmem => ?_)
      (Scheduler.countsOnly_fold hb hk hlive _ _), hsev⟩
    rw [List.mem_singleton.1 hmem]
    exact ⟨rfl, rfl⟩
  | settle hx hb _ hk _ _ hcur =>
    -- the coordinator is ahead of a batch that was cut off, so there is nothing to settle
    obtain ⟨-, ⟨c, g, k, ho, hk', hlt⟩, -⟩ := hs.cut hx
    rw [Scheduler.order?_of_batch? hb] at ho
    cases ho
    rw [hk] at hk'
    cases hk'
    exact absurd hcur (Nat.ne_of_lt hlt)

/-- The turns of a batch that was cut off leave no trace but its count, and it stays cut off. -/
theorem Turns.traceless (h : Turns t s s') (hs : s.scheduler.Severed t) :
    Traceless t s s' ∧ s'.scheduler.Severed t := by
  induction h with
  | refl => exact ⟨.refl t s, hs⟩
  | tail _ h ih =>
    obtain ⟨htr, hsev⟩ := h.traceless ih.2
    exact ⟨ih.1.trans htr, hsev⟩

/-! ## What happens to a batch that was cut off -/

/-- A chore neither saves a checkpoint for a batch nor delivers a result for it. -/
theorem Chore.silent (h : Chore s s') (ht : t < s.scheduler.pool.tasks.length) :
    s.scheduler.Silent t s'.scheduler := by
  obtain ⟨l, hj, hl⟩ := h.journal
  refine .of_journal (Scheduler.order?_of_spares (h.spares ht)) hj fun o ho => ?_
  rcases hl o ho with ⟨_, _, _, rfl⟩ | ⟨_, _, rfl⟩ <;> exact ⟨rfl, rfl⟩

/-- Whatever is done besides the batches, no batch is heard of by it. -/
theorem Chores.silent (h : Chores s s') (ht : t < s.scheduler.pool.tasks.length) :
    s.scheduler.Silent t s'.scheduler := by
  have hboth : s.scheduler.Silent t s'.scheduler ∧ t < s'.scheduler.pool.tasks.length := by
    induction h with
    | refl => exact ⟨.refl t s.scheduler, ht⟩
    | tail _ h ih =>
      exact ⟨ih.1.trans (h.silent ih.2), Scheduler.lt_of_spares (h.spares ih.2) ih.2⟩
  exact hboth.1

/-- Nor does a turn of another batch. -/
theorem Turn.silent_other (h : Turn u s s') (hne : t ≠ u) : s.scheduler.Silent t s'.scheduler := by
  obtain ⟨l, hj, hl⟩ := h.journal
  refine .of_journal (Scheduler.order?_of_spares (h.spares hne)) hj fun o ho => ?_
  have hu := hl o ho
  have hut : u ≠ t := hne.symm
  cases o <;> simp only [Occurrence.task?, Option.some.injEq] at hu <;>
    simp [Occurrence.savedOf?, Occurrence.deliveryOf?, hu, hut]

/-- Whatever a process does, a batch that was cut off stays so, and it neither saves a checkpoint nor
delivers a result. -/
theorem Moves.severed (h : Moves s s') (hf : s.scheduler.Flight) (hs : s.scheduler.Severed t) :
    s'.scheduler.Severed t ∧ s.scheduler.Silent t s'.scheduler := by
  induction h with
  | refl => exact ⟨hs, .refl t s.scheduler⟩
  | @tail s₁ s₂ h₀ h ih =>
    obtain ⟨hs₁, hsilent⟩ := ih
    cases h with
    | chore h =>
      exact ⟨h.severed (Moves.flight h₀ hf) hs₁, hsilent.trans (h.silent hs₁.known)⟩
    | turn u h =>
      by_cases htu : t = u
      · subst htu
        obtain ⟨htr, hs₂⟩ := h.traceless hs₁
        exact ⟨hs₂, hsilent.trans htr.silent⟩
      · exact ⟨h.severed_other htu hs₁, hsilent.trans (h.silent_other htu)⟩

end Site

end BatchTraversal
