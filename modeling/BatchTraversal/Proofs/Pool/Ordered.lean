import BatchTraversal.Proofs.Pool.Acts
import BatchTraversal.Proofs.Pool.Workforce

/-!
# The lists of a pool whose tasks are being cancelled

While tasks are being cancelled in small steps, the flags of the tasks lag behind what the pool has queued and
running. Its lists are in order at every moment all the same (`Pool.Ordered`): nothing is queued twice, or queued
and executed, every worker of the pool has its own task, and the pool keeps its number of workers. Whatever happens
to a pool with its threads keeps that (`Supervised.Moves.ordered`).
-/

namespace BatchTraversal

namespace Pool

variable {β : Type} {p q : Pool β} {t : TaskId} {n : Nat}

/-! ## Order in a pool -/

/-- What holds of the lists of a pool at every moment, whoever is about to cancel tasks. -/
structure Ordered (n : Nat) (p : Pool β) : Prop extends Complete n p, Staffed p where
  queue_lt : ∀ t ∈ p.queue, t < p.tasks.length
  queue_nodup : p.queue.Nodup
  apart : ∀ t ∈ p.queue, ¬ p.isExecuting t
  known : ∀ t, p.isExecuting t → t < p.tasks.length

/-- A pool that has just started has all its workers, and its lists are empty. -/
theorem ordered_start {settings : PoolSettings} (h : Pool.start settings = .ok p) :
    Ordered settings.workers p := by
  have hm := manned_start h
  exact ⟨hm.toComplete, hm.staffed, hm.sound.queue_lt, hm.sound.queue_nodup, hm.sound.apart,
    hm.sound.executing_lt⟩

namespace Ordered

/-- A running task is executed. -/
theorem isExecuting_of_mem (h : Ordered n p) {a : Assignment} (ha : a ∈ p.running) : p.isExecuting a.task :=
  isExecuting_iff.2 (List.mem_map_of_mem (h.mem_posts_iff.1 (mem_posts.2 ⟨a, ha, rfl, rfl⟩)).1)

/-- A running task is not queued. -/
theorem notMem_queue (h : Ordered n p) {a : Assignment} (ha : a ∈ p.running) : a.task ∉ p.queue :=
  fun hq => h.apart a.task hq (h.isExecuting_of_mem ha)

/-- A pool in which the same workers are at the same work, and nothing is queued that was not. -/
theorem congr (h : Ordered n p) (hq : q.queue.Sublist p.queue) (hposts : q.posts = p.posts)
    (hx : q.executing = p.executing) (hr : q.roster = p.roster) (hl : q.tasks.length = p.tasks.length) :
    Ordered n q where
  toComplete := h.toComplete.congr hr
  toStaffed := h.toStaffed.congr hposts hx (workers_eq hr) (congrArg (·.2.2) hr)
  queue_lt t ht := hl ▸ h.queue_lt t (hq.subset ht)
  queue_nodup := h.queue_nodup.sublist hq
  apart t ht := (isExecuting_congr hx).not.2 (h.apart t (hq.subset ht))
  known t ht := hl ▸ h.known t ((isExecuting_congr hx).1 ht)

/-- Changes of the flags of tasks leave the lists. -/
theorem touches (h : Ordered n p) (ht : p.Touches q) : Ordered n q := by
  have hlength := ht.length
  rw [ht.rest] at hlength ⊢
  exact h.congr (.refl _) rfl rfl rfl hlength

/-- A new task is queued last, and it is neither queued nor executed yet, as its number is new. -/
theorem submit (h : Ordered n p) (task : Task β) :
    Ordered n { p with tasks := p.tasks ++ [task], queue := p.queue ++ [p.tasks.length] } := by
  have hnew : p.tasks.length ∉ p.queue := fun hmem => Nat.lt_irrefl _ (h.queue_lt _ hmem)
  have hqueue {t : TaskId} (ht : t ∈ p.queue ++ [p.tasks.length]) : t ∈ p.queue ∨ t = p.tasks.length :=
    (List.mem_append.1 ht).imp_right List.mem_singleton.1
  have hlength : p.tasks.length < (p.tasks ++ [task]).length := by simp
  refine ⟨h.toComplete.congr rfl, h.toStaffed.congr rfl rfl rfl rfl, fun t ht => ?_, ?_, fun t ht hx => ?_,
    fun t hx => Nat.lt_trans (h.known t hx) hlength⟩
  · rcases hqueue ht with ht | rfl
    · exact Nat.lt_trans (h.queue_lt t ht) hlength
    · exact hlength
  · show (p.queue ++ [p.tasks.length]).Nodup
    rw [← List.concat_eq_append]
    exact h.queue_nodup.concat hnew
  · rcases hqueue ht with ht | rfl
    · exact h.apart t ht hx
    · exact Nat.lt_irrefl _ (h.known _ hx)

/-- The first of the queue leaves it for the worker that takes it. -/
theorem take? {w : WorkerId} (h : Ordered n p) (ht : p.take? w = some (t, q)) : Ordered n q := by
  have hstaffed := h.toStaffed.take? h.apart ht
  obtain ⟨rest, hq, rfl⟩ := take?_eq_some ht
  have hnodup := h.queue_nodup
  rw [hq, List.nodup_cons] at hnodup
  have hexecuting {u : TaskId} (hx : isExecuting { p with executing := p.executing ++ [(w, t)] } u) :
      p.isExecuting u ∨ u = t := by
    rw [isExecuting_iff, List.map_append, List.mem_append, ← isExecuting_iff] at hx
    exact hx.imp_right List.mem_singleton.1
  refine ⟨h.toComplete.congr rfl, hstaffed, fun u hu => h.queue_lt u ?_, hnodup.2, fun u hu hx => ?_,
    fun u hx => ?_⟩
  · exact hq ▸ List.mem_cons_of_mem t hu
  · rcases hexecuting hx with hx | rfl
    · exact h.apart u (hq ▸ List.mem_cons_of_mem t hu) hx
    · exact hnodup.1 hu
  · rcases hexecuting hx with hx | rfl
    · exact h.known u hx
    · exact h.queue_lt u (hq ▸ List.mem_cons_self)

/-- A task that has ended leaves its worker, and it was on no other. -/
theorem finish (h : Ordered n p) (t : TaskId) : Ordered n (p.finish t) := by
  have hlength : (p.finish t).tasks.length = p.tasks.length := length_markDone p t
  have hexecuting {u : TaskId} (hx : (p.finish t).isExecuting u) : p.isExecuting u :=
    isExecuting_iff.2 ((List.filter_sublist.map _).subset (isExecuting_iff.1 hx))
  exact ⟨h.toComplete.congr rfl, h.toStaffed.finish t, fun u hu => hlength ▸ h.queue_lt u hu, h.queue_nodup,
    fun u hu hx => h.apart u hu (hexecuting hx), fun u hx => hlength ▸ h.known u (hexecuting hx)⟩

/-- A worker that has ended is replaced by one with a new number, if it had no task. -/
theorem replaceWorker {w : WorkerId} (h : Ordered n p) (hfree : p.isFree w) : Ordered n (p.replaceWorker w) := by
  obtain ⟨hw, hidle⟩ := isFree_iff.1 hfree
  refine ⟨h.toComplete.replaceWorker h.worker_lt hw, ?_, h.queue_lt, h.queue_nodup, h.apart, h.known⟩
  refine h.toStaffed.replaceWorker w (List.filter_eq_self.2 fun x hx => ?_).symm rfl rfl rfl
  have hxw : x.1 ≠ w := fun he => hidle (List.mem_map.2 ⟨x, (h.mem_posts_iff.1 hx).1, he⟩)
  simpa using hxw

/-- Notes of cancellations stand at the running tasks and move none of them. -/
theorem foldl_noteCancelled (h : Ordered n p) (ts : List TaskId) : Ordered n (ts.foldl noteCancelled p) := by
  have hposts := posts_foldl_noteCancelled ts p
  rw [Pool.foldl_noteCancelled] at hposts ⊢
  exact h.congr (.refl _) hposts rfl rfl rfl

/-- The workers of the stuck tasks are given up one by one, each with its only task. -/
theorem look (h : Ordered n p) : Ordered n p.look := by
  obtain ⟨hstaffed, hcomplete⟩ := h.toStaffed.look_keeps h.toComplete (fun hq => hq.congr rfl)
    fun hs hq ha => hq.abandon hs ha
  have hqueue : p.look.queue = p.queue := by rw [Pool.look, queue_foldl_abandon, Pool.foldl_noteCancelled]
  have hx : p.look.executing = p.executing := by
    rw [Pool.look, executing_foldl_abandon, Pool.foldl_noteCancelled]
  have hlength : p.look.tasks.length = p.tasks.length := by
    rw [Pool.look, (keeps_foldl_abandon ..).length, Pool.foldl_noteCancelled]
  refine ⟨hcomplete, hstaffed, ?_, ?_, ?_, ?_⟩ <;> simp only [hqueue, isExecuting, hx, hlength]
  exacts [h.queue_lt, h.queue_nodup, h.apart, h.known]

/-- A shutdown leaves the queue empty and the running tasks where they are. -/
theorem drain (h : Ordered n p) (interrupt : Bool) : Ordered n (p.drain interrupt) := by
  have htaken : Ordered n { p with down := true, queue := [] } :=
    h.congr (List.nil_sublist _) rfl rfl rfl rfl
  exact htaken.foldl_noteCancelled _

/-- A cancelled task leaves the queue, or it is noted as cancelled where it runs. -/
theorem record (h : Ordered n p) (t : TaskId) : Ordered n (p.record t) := by
  unfold Pool.record
  split
  · exact (h.touches (touches_markDone p t)).congr List.filter_sublist rfl rfl rfl rfl
  · exact h.foldl_noteCancelled [t]

end Ordered

namespace Supervised

variable {f : Supervised β} {a : Act β}

/-- Whatever happens to a pool with its threads keeps its lists in order. -/
theorem Moves.ordered (h : f.Moves a q) (ho : Ordered n f.pool) : Ordered n q := by
  cases h with
  | idle => exact ho
  | tick | raise => exact ho.congr (.refl _) rfl rfl rfl rfl
  | submit => exact ho.submit _
  | take ht => exact ho.take? ht
  | returns t => exact ho.touches (touches_markDone f.pool t)
  | finish t => exact ho.finish t
  | replace hfree => exact ho.replaceWorker hfree
  | look => exact ho.look
  | drain interrupt => exact ho.drain interrupt
  | record => exact ho.record _
  | touch hi hr => exact ho.touches (Errand.touches_proceed _ f.pool hr)

/-! ## What an act leaves -/

/-- Tasks are not forgotten, and flags that are set stay set. -/
theorem Moves.grows (h : f.Moves a q) : f.pool.Grows q := by
  cases h with
  | idle => exact .refl f.pool
  | tick d => exact Pool.grows_step f.pool (.tick d)
  | submit =>
    refine ⟨by simp, fun t h => ?_, fun t h => ?_, fun t h => ?_⟩
    all_goals exact (any_append rfl f.pool.tasks t).trans h
  | take ht =>
    obtain ⟨rest, -, rfl⟩ := take?_eq_some ht
    exact Keeps.grows (.of_tasks rfl)
  | returns t => exact (keeps_markDone f.pool t).grows
  | finish t =>
    have hleft : (f.pool.markDone t).Keeps (f.pool.finish t) := .of_tasks rfl
    exact ((keeps_markDone f.pool t).trans hleft).grows
  | replace => exact Keeps.grows (.of_tasks rfl)
  | look =>
    have hnoted : f.pool.Keeps (f.pool.expiredTasks.foldl noteCancelled f.pool) := by
      rw [foldl_noteCancelled]
      exact .of_tasks rfl
    exact (hnoted.trans (keeps_foldl_abandon ..)).grows
  | raise => exact (eases_raise f.pool).toKeeps.grows
  | drain interrupt => exact (eases_drain f.pool interrupt).toKeeps.grows
  | record => exact (eases_record f.pool _).toKeeps.grows
  | touch hi hr => exact (Errand.touches_proceed _ f.pool hr).toKeeps.grows

/-- Only a task that is submitted enters the queue. -/
theorem Moves.mem_queue (h : f.Moves a q) (ht : t ∈ q.queue) : t ∈ f.pool.queue ∨ t = f.pool.tasks.length := by
  cases h with
  | idle | tick | returns | finish | replace | raise => exact .inl ht
  | submit => exact (List.mem_append.1 ht).imp_right List.mem_singleton.1
  | take h =>
    obtain ⟨rest, hqueue, rfl⟩ := take?_eq_some h
    exact .inl (hqueue ▸ List.mem_cons_of_mem _ ht)
  | look =>
    rw [Pool.look, queue_foldl_abandon, foldl_noteCancelled] at ht
    exact .inl ht
  | drain interrupt => exact .inl ((eases_drain f.pool interrupt).queue.subset ht)
  | record => exact .inl ((eases_record f.pool _).queue.subset ht)
  | touch hi hr =>
    rw [(Errand.touches_proceed _ f.pool hr).rest] at ht
    exact .inl ht

/-- A pool that is shut down stays so. -/
theorem Moves.down (h : f.Moves a q) (hd : f.pool.down) : q.down := by
  cases h with
  | idle | tick | submit | returns | finish | replace => exact hd
  | take ht =>
    obtain ⟨rest, -, rfl⟩ := take?_eq_some ht
    exact hd
  | look hw => simp [hw.1] at hd
  | raise => exact (eases_raise f.pool).down hd
  | drain interrupt => exact (eases_drain f.pool interrupt).down hd
  | record => exact (eases_record f.pool _).down hd
  | touch hi hr =>
    rw [(Errand.touches_proceed _ f.pool hr).rest]
    exact hd

end Supervised

end Pool

end BatchTraversal
