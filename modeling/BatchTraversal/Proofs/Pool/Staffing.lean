import BatchTraversal.Proofs.Pool.Soundness
import Mathlib.Data.List.Nodup

/-!
# Who works on what

A worker executes one task at a time, a task is executed by one worker, and the running tasks are
exactly those executed by workers that the pool counts on (`Pool.Staffed`): what is executed without
running sits on a worker that was given up. The number of a worker is never used again, so a worker
that was given up never comes back. Every operation of a pool keeps this.
-/

namespace BatchTraversal

namespace Pool

variable {β : Type} {p q : Pool β} {t : TaskId} {w : WorkerId}

/-- The running tasks with their workers. -/
def posts (p : Pool β) : List (WorkerId × TaskId) := p.running.map fun a => (a.worker, a.task)

/-- What holds of the workers of a pool at every moment. -/
structure Staffed (p : Pool β) : Prop where
  posts : p.posts = p.executing.filter (·.1 ∈ p.workers)
  worker_lt : ∀ w ∈ p.workers, w < p.spawned
  executing_lt : ∀ x ∈ p.executing, x.1 < p.spawned
  one_task : (p.executing.map (·.1)).Nodup
  one_worker : (p.executing.map (·.2)).Nodup

/-- A task is on a worker's post if some running task is that task on that worker. -/
theorem mem_posts : (w, t) ∈ p.posts ↔ ∃ a ∈ p.running, a.worker = w ∧ a.task = t := by
  simp [Pool.posts]

/-- Without the workers, the posts are the running tasks. -/
theorem map_posts : p.posts.map (·.2) = p.running.map (·.task) := by
  simp [Pool.posts]

/-- A task runs on a worker if it is executed by it and the pool counts on it. -/
theorem Staffed.mem_posts_iff (h : p.Staffed) {x : WorkerId × TaskId} :
    x ∈ p.posts ↔ x ∈ p.executing ∧ x.1 ∈ p.workers := by
  rw [h.posts, List.mem_filter, decide_eq_true_eq]

/-- A task is executed by one worker. -/
theorem Staffed.worker_eq (h : p.Staffed) {x y : WorkerId × TaskId} (hx : x ∈ p.executing)
    (hy : y ∈ p.executing) (e : x.2 = y.2) : x = y :=
  List.inj_on_of_nodup_map h.one_worker hx hy e

/-- A worker executes one task. -/
theorem Staffed.task_eq (h : p.Staffed) {x y : WorkerId × TaskId} (hx : x ∈ p.executing)
    (hy : y ∈ p.executing) (e : x.1 = y.1) : x = y :=
  List.inj_on_of_nodup_map h.one_task hx hy e

/-- A task does not run twice. -/
theorem Staffed.nodup_running (h : p.Staffed) : (p.running.map (·.task)).Nodup := by
  rw [← map_posts, h.posts]
  exact h.one_worker.sublist (List.filter_sublist.map _)

/-- A pool that has just started has workers and nothing for them to do. -/
theorem staffed_start {settings : PoolSettings} (h : Pool.start settings = .ok p) : p.Staffed := by
  obtain rfl := start_eq_ok h
  constructor <;> simp [Pool.posts]

/-- A pool with the same workers at the same work is as well staffed. -/
theorem Staffed.congr (h : p.Staffed) (hr : q.posts = p.posts) (hx : q.executing = p.executing)
    (hw : q.workers = p.workers) (hs : q.spawned = p.spawned) : q.Staffed := by
  constructor <;> simp only [hr, hx, hw, hs]
  exacts [h.posts, h.worker_lt, h.executing_lt, h.one_task, h.one_worker]

/-! ## Submitting, taking and ending -/

/-- A submission changes the queue, which is nobody's work yet. -/
theorem Staffed.submit (h : p.Staffed) (b : β) : (p.submit b).2.Staffed := by
  unfold Pool.submit
  split
  · exact h
  · exact h.congr rfl rfl rfl rfl

/-- Only a free worker takes a task. -/
theorem isFree_of_take? (h : p.take? w = some (t, q)) : p.isFree w := by
  unfold take? at h
  split at h
  · cases h
  · split at h
    · assumption
    · cases h

/-- A worker is free if the pool counts on it and it executes nothing. -/
theorem isFree_iff : p.isFree w ↔ w ∈ p.workers ∧ w ∉ p.executing.map (·.1) := by
  simp only [isFree, Bool.and_eq_true, List.contains_iff_mem, Bool.not_eq_true',
    List.any_eq_false, beq_iff_eq, List.mem_map, not_exists, not_and]

/-- A free worker takes a task that nobody executes, so both are on one post only. -/
theorem Staffed.take? (h : p.Staffed) (hapart : ∀ t ∈ p.queue, ¬ p.isExecuting t)
    (ht : p.take? w = some (t, q)) : q.Staffed := by
  obtain ⟨hw, hfree⟩ := isFree_iff.1 (isFree_of_take? ht)
  obtain ⟨rest, hq, rfl⟩ := take?_eq_some ht
  have hnew : t ∉ p.executing.map (·.2) := fun hx =>
    hapart t (hq ▸ List.mem_cons_self) (isExecuting_iff.2 hx)
  constructor
  · show (p.running ++ _).map _ = (p.executing ++ [(w, t)]).filter _
    rw [List.map_append, List.filter_append, ← h.posts, Pool.posts]
    simp [hw]
  · exact h.worker_lt
  · intro x hx
    rcases List.mem_append.1 hx with hx | hx
    · exact h.executing_lt x hx
    · rw [List.mem_singleton.1 hx]
      exact h.worker_lt w hw
  · rw [List.map_append]
    exact List.concat_eq_append ▸ h.one_task.concat hfree
  · rw [List.map_append]
    exact List.concat_eq_append ▸ h.one_worker.concat hnew

/-- A task that has ended leaves the post of its worker, also if that worker was given up. -/
theorem Staffed.finish (h : p.Staffed) (t : TaskId) : (p.finish t).Staffed := by
  have hsub : (p.finish t).executing.Sublist p.executing := List.filter_sublist
  constructor
  · show (p.running.filter (·.task ≠ t)).map _ = (p.executing.filter (·.2 ≠ t)).filter _
    have hmap : (p.running.filter (·.task ≠ t)).map (fun a => (a.worker, a.task)) =
        p.posts.filter (·.2 ≠ t) := by
      rw [Pool.posts, List.filter_map]
      rfl
    rw [hmap, h.posts, List.filter_filter, List.filter_filter]
    exact List.filter_congr fun x _ => Bool.and_comm ..
  · exact h.worker_lt
  · exact fun x hx => h.executing_lt x (hsub.subset hx)
  · exact h.one_task.sublist (hsub.map _)
  · exact h.one_worker.sublist (hsub.map _)

/-! ## Cancelling -/

/-- A request changes what is noted of tasks and nobody's work. -/
theorem Staffed.request (h : p.Staffed) (hook : β → Option TaskId) (t : TaskId) :
    (p.request hook t).2.Staffed := by
  rcases request_cases hook p t with ⟨e, -⟩ | ⟨-, -, e | ⟨b, u, -, -, e⟩⟩ <;> rw [e]
  · exact h
  · exact h.congr rfl rfl rfl rfl
  · exact h.congr rfl rfl rfl rfl

/-- Several requests change nobody's work. -/
theorem Staffed.requestAll (h : p.Staffed) (hook : β → Option TaskId) (ts : List TaskId) :
    (p.requestAll hook ts).Staffed :=
  List.foldlRecOn ts _ h fun _ hp t _ => hp.request hook t

/-- A note of when a task was cancelled moves nobody. -/
theorem posts_noteCancelled (p : Pool β) (t : TaskId) : (p.noteCancelled t).posts = p.posts := by
  simp only [Pool.posts, noteCancelled, List.map_map]
  refine List.map_congr_left fun a _ => ?_
  simp only [Function.comp_apply]
  split <;> rfl

/-- Several notes move nobody. -/
theorem posts_foldl_noteCancelled (ts : List TaskId) (p : Pool β) :
    (ts.foldl noteCancelled p).posts = p.posts := by
  induction ts generalizing p with
  | nil => rfl
  | cons t ts ih => exact (ih _).trans (posts_noteCancelled p t)

/-- A pool with a note more is as well staffed. -/
theorem Staffed.noteCancelled (h : p.Staffed) (t : TaskId) : (p.noteCancelled t).Staffed :=
  h.congr (posts_noteCancelled p t) rfl rfl rfl

/-- A pool with several notes more is as well staffed. -/
theorem Staffed.foldl_noteCancelled (h : p.Staffed) (ts : List TaskId) :
    (ts.foldl Pool.noteCancelled p).Staffed :=
  List.foldlRecOn ts _ h fun _ hp t _ => hp.noteCancelled t

/-- A cancel by a handle leaves a running task with its worker. -/
theorem Staffed.cancel (h : p.Staffed) (hook : β → Option TaskId) (t : TaskId) :
    (p.cancel hook t).Staffed := by
  rcases cancel_cases hook p t with ⟨e, -⟩ | ⟨-, -, ⟨-, e⟩ | ⟨-, e⟩⟩ <;> rw [e]
  · exact h
  · exact (h.request hook t).congr rfl rfl rfl rfl
  · exact (h.request hook t).noteCancelled t

/-! ## Giving up workers -/

/-- A new worker in the place of one that executes nothing, or that is given up with its task. -/
theorem Staffed.replaceWorker (h : p.Staffed) (w : WorkerId)
    (hr : q.posts = p.posts.filter (·.1 ≠ w)) (hx : q.executing = p.executing)
    (hw : q.workers = p.workers.filter (· ≠ w) ++ [p.spawned]) (hs : q.spawned = p.spawned + 1) :
    q.Staffed := by
  constructor
  · rw [hr, hx, hw, h.posts, List.filter_filter]
    refine List.filter_congr fun x hmem => ?_
    -- what is executed is not executed by the new worker
    have hold : x.1 ≠ p.spawned := Nat.ne_of_lt (h.executing_lt x hmem)
    simp [hold, and_comm]
  · rw [hw, hs]
    intro v hv
    rcases List.mem_append.1 hv with hv | hv
    · exact Nat.lt_succ_of_lt (h.worker_lt v (List.mem_filter.1 hv).1)
    · rw [List.mem_singleton.1 hv]
      exact Nat.lt_succ_self _
  · rw [hx, hs]
    exact fun x hmem => Nat.lt_succ_of_lt (h.executing_lt x hmem)
  · rw [hx]
    exact h.one_task
  · rw [hx]
    exact h.one_worker

/-- A running task is the only one on its worker. -/
theorem Staffed.posts_without (h : p.Staffed) (ha : (w, t) ∈ p.posts) :
    p.posts.filter (·.2 ≠ t) = p.posts.filter (·.1 ≠ w) := by
  refine List.filter_congr fun x hx => ?_
  have hxe := (h.mem_posts_iff.1 hx).1
  have hae := (h.mem_posts_iff.1 ha).1
  have hiff : x.2 = t ↔ x.1 = w :=
    ⟨fun e => congrArg Prod.fst (h.worker_eq hxe hae e),
      fun e => congrArg Prod.snd (h.task_eq hxe hae e)⟩
  simp [hiff]

/-- A task whose worker is given up is on no post any more. -/
theorem posts_abandon (p : Pool β) (a : Assignment) :
    (p.abandon a).posts = p.posts.filter (·.2 ≠ a.task) := by
  rw [Pool.posts, Pool.posts, List.filter_map]
  rfl

/-- The worker of a running task is given up, and goes on with it beyond the roster. -/
theorem Staffed.abandon (h : p.Staffed) {a : Assignment} (ha : (a.worker, a.task) ∈ p.posts) :
    (p.abandon a).Staffed :=
  h.replaceWorker a.worker ((posts_abandon p a).trans (h.posts_without ha)) rfl rfl rfl

/-- What giving up the worker of one running task keeps is kept by giving up several. -/
theorem Staffed.foldl_abandon {P : Pool β → Prop}
    (hP : ∀ {q : Pool β} {a : Assignment}, q.Staffed → P q → (a.worker, a.task) ∈ q.posts →
      P (q.abandon a)) : ∀ {l : List Assignment} {p : Pool β}, p.Staffed → P p →
    (∀ a ∈ l, (a.worker, a.task) ∈ p.posts) → (l.map (·.task)).Nodup →
    (l.foldl Pool.abandon p).Staffed ∧ P (l.foldl Pool.abandon p)
  | [], _, h, hp, _, _ => ⟨h, hp⟩
  | a :: l, p, h, hp, hl, hnd => by
    obtain ⟨hne, hnd⟩ := List.nodup_cons.1 hnd
    have ha := hl a List.mem_cons_self
    rw [List.foldl_cons]
    refine foldl_abandon hP (h.abandon ha) (hP h hp ha) (fun b hb => ?_) hnd
    rw [posts_abandon]
    refine List.mem_filter.2 ⟨hl b (List.mem_cons_of_mem a hb), ?_⟩
    have hba : b.task ≠ a.task := fun e => hne (List.mem_map.2 ⟨b, hb, e⟩)
    simpa using hba

/-- What a look of the deadline monitor keeps: all that notes keep, and giving up the worker of a running task. -/
theorem Staffed.look_keeps {P : Pool β → Prop} (h : p.Staffed) (hp : P p)
    (hnote : ∀ {q : Pool β} {t : TaskId}, P q → P (q.noteCancelled t))
    (hP : ∀ {q : Pool β} {a : Assignment}, q.Staffed → P q → (a.worker, a.task) ∈ q.posts →
      P (q.abandon a)) :
    p.look.Staffed ∧ P p.look := by
  refine foldl_abandon hP (h.foldl_noteCancelled p.expiredTasks)
    (List.foldlRecOn _ _ hp fun _ hq _ _ => hnote hq) (fun a ha => ?_)
    (h.nodup_running.sublist (List.filter_sublist.map _))
  rw [posts_foldl_noteCancelled]
  exact mem_posts.2 ⟨a, (List.mem_filter.1 ha).1, rfl, rfl⟩

/-- With the requests that follow a look, what requests keep is kept too. -/
theorem Staffed.scan_keeps {P : Pool β → Prop} (h : p.Staffed) (hp : P p)
    (hook : β → Option TaskId) (hnote : ∀ {q : Pool β} {t : TaskId}, P q → P (q.noteCancelled t))
    (hP : ∀ {q : Pool β} {a : Assignment}, q.Staffed → P q → (a.worker, a.task) ∈ q.posts →
      P (q.abandon a))
    (hreq : ∀ {q : Pool β} {t : TaskId}, P q → P (q.request hook t).2) :
    (p.scan hook).Staffed ∧ P (p.scan hook) := by
  cases hd : p.down with
  | true =>
    rw [Pool.scan, if_pos hd]
    exact ⟨h, hp⟩
  | false =>
    obtain ⟨hs, hq⟩ := h.look_keeps hp hnote hP
    rw [scan_eq_look hook hd]
    exact ⟨hs.requestAll hook _, List.foldlRecOn _ _ hq fun _ hq _ _ => hreq hq⟩

/-- A look of the deadline monitor with its requests keeps everybody at one task. -/
theorem Staffed.scan (h : p.Staffed) (hook : β → Option TaskId) : (p.scan hook).Staffed :=
  (h.scan_keeps (P := fun _ => True) trivial hook (fun _ => trivial) (fun _ _ _ => trivial)
    fun _ => trivial).1

/-- A worker that has ended without a task is replaced. -/
theorem Staffed.revive (h : p.Staffed) (w : WorkerId) : (p.revive w).Staffed := by
  unfold Pool.revive
  split
  · exact h
  · next hw =>
    simp only [Bool.or_eq_true, Bool.not_eq_true', not_or, Bool.not_eq_false] at hw
    obtain ⟨-, hfree⟩ := isFree_iff.1 hw.2
    refine h.replaceWorker w (List.filter_eq_self.2 fun x hx => ?_).symm rfl rfl rfl
    have hxw : x.1 ≠ w := fun e => hfree (List.mem_map.2 ⟨x, (h.mem_posts_iff.1 hx).1, e⟩)
    simpa using hxw

/-- A shutdown leaves the running tasks with their workers. -/
theorem Staffed.shutDown (h : p.Staffed) (hook : β → Option TaskId) (interrupt : Bool) :
    (p.shutDown hook interrupt).Staffed := by
  have h₀ : Staffed { p with down := true, queue := [] } := h.congr rfl rfl rfl rfl
  refine Staffed.requestAll (List.foldlRecOn p.queue _ (h₀.foldl_noteCancelled _) ?_) hook _
  exact fun q hq t _ => (hq.request hook t).congr rfl rfl rfl rfl

end Pool

end BatchTraversal
