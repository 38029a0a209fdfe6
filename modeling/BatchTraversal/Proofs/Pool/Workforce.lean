import BatchTraversal.Proofs.Pool.Curbs
import BatchTraversal.Proofs.Pool.Runs
import Mathlib.Data.List.Perm.Subperm

/-!
# The workforce of a pool

A pool counts on as many workers as it was made with, whatever is abandoned, comes back late or is
replaced (`Pool.Manned`). The running tasks sit on different workers of these, and tasks begin in the
order in which they were submitted.

A worker that finds the queue empty sleeps until it is woken, and a submission wakes one worker only.
`Pool.Floor` follows who sleeps. No call is lost: as long as somebody sleeps there are as many free
workers awake as tasks queued (`Floor.Watchful`), so a pool that has come to rest with tasks in its
queue has all its workers busy.
-/

namespace BatchTraversal

namespace Pool

variable {β : Type} {p q : Pool β} {t : TaskId} {w : WorkerId}

/-! ## Who is replaced -/

/-- Only the monitors replace workers, and only while the pool is not shut down. -/
theorem roster_step (p : Pool β) (e : Event β) :
    (p.step e).roster = p.roster ∨
      p.down = false ∧ ((∃ hook, e = .scan hook) ∨ ∃ w, e = .revive w) := by
  cases e with
  | submit b =>
    refine .inl ?_
    show (p.submit b).2.roster = p.roster
    unfold submit
    split <;> rfl
  | take w =>
    rcases step_take p w with ⟨-, ht⟩ | ⟨t, ht⟩
    · exact .inl (by rw [ht])
    · obtain ⟨rest, -, he⟩ := take?_eq_some ht
      exact .inl (by rw [he]; rfl)
  | finish t =>
    rw [step_finish]
    split <;> exact .inl rfl
  | cancel hook t => exact .inl (eases_cancel hook p t).roster
  | scan hook =>
    cases hd : p.down with
    | true => exact .inl (by simp [step, scan, hd])
    | false => exact .inr ⟨rfl, .inl ⟨hook, rfl⟩⟩
  | revive w =>
    cases hd : p.down with
    | true => exact .inl (by simp [step, revive, hd])
    | false => exact .inr ⟨rfl, .inr ⟨w, rfl⟩⟩
  | shutDown hook interrupt => exact .inl (eases_shutDown hook p interrupt).roster
  | tick d => exact .inl rfl

/-! ## The number of workers -/

/-- The pool counts on `n` workers. -/
structure Complete (n : Nat) (p : Pool β) : Prop where
  nodup : p.workers.Nodup
  size : p.workers.length = n

variable {n : Nat}

/-- A pool of the same roster is as complete. -/
theorem Complete.congr (h : Complete n p) (hr : q.roster = p.roster) : Complete n q := by
  constructor
  · rw [workers_eq hr]
    exact h.nodup
  · rw [workers_eq hr]
    exact h.size

/-- The new worker takes the place of one. -/
theorem Complete.workers_replaceWorker (h : Complete n p) (w : WorkerId) :
    (p.replaceWorker w).workers = p.workers.erase w ++ [p.spawned] := by
  rw [h.nodup.erase_eq_filter]
  refine congrArg (· ++ [p.spawned]) (List.filter_congr fun v _ => ?_)
  exact Bool.eq_iff_iff.2 (by simp)

/-- The new worker takes the place of one that the pool counted on. -/
theorem Complete.replaceWorker (h : Complete n p) (hlt : ∀ v ∈ p.workers, v < p.spawned)
    (hw : w ∈ p.workers) : Complete n (p.replaceWorker w) := by
  have hnew : p.spawned ∉ p.workers.erase w := fun hmem =>
    Nat.lt_irrefl _ (hlt _ (List.mem_of_mem_erase hmem))
  have hpos := List.length_pos_of_mem hw
  constructor
  · rw [h.workers_replaceWorker, ← List.concat_eq_append]
    exact (h.nodup.erase w).concat hnew
  · rw [h.workers_replaceWorker, List.length_append, List.length_singleton, List.length_erase_of_mem hw,
      Nat.sub_add_cancel hpos]
    exact h.size

/-- The worker that is given up with its task is replaced at once. -/
theorem Complete.abandon (h : Complete n p) (hs : p.Staffed) {a : Assignment}
    (ha : (a.worker, a.task) ∈ p.posts) : Complete n (p.abandon a) := by
  have hleft : Complete n { p.markDone a.task with running := p.running.filter (·.task ≠ a.task) } :=
    h.congr rfl
  exact hleft.replaceWorker hs.worker_lt (hs.mem_posts_iff.1 ha).2

/-- A pool in order: sound, staffed, and with `n` workers. -/
structure Manned (n : Nat) (p : Pool β) : Prop extends Complete n p where
  sound : p.Sound
  staffed : p.Staffed

/-- A pool starts with all its workers, of different numbers. -/
theorem manned_start {settings : PoolSettings} (h : Pool.start settings = .ok p) :
    Manned settings.workers p := by
  refine ⟨?_, sound_start h, staffed_start h⟩
  obtain rfl := start_eq_ok h
  exact ⟨List.nodup_range, List.length_range⟩

/-- Whatever happens to a pool, it keeps its number of workers. -/
theorem Manned.step (h : Manned n p) (e : Event β) : Manned n (p.step e) := by
  refine ⟨?_, h.sound.step e, h.staffed.step h.sound e⟩
  rcases roster_step p e with hr | ⟨hd, ⟨hook, rfl⟩ | ⟨w, rfl⟩⟩
  · exact h.congr hr
  · exact (h.staffed.scan_keeps h.toComplete hook (fun hq => hq.congr rfl)
      (fun hs hq ha => hq.abandon hs ha) fun hq => hq.congr (roster_request ..)).2
  · show Complete n (p.revive w)
    unfold revive
    split
    · exact h.toComplete
    · next hw =>
      have hfree : p.isFree w := by simpa [hd] using hw
      exact h.replaceWorker h.staffed.worker_lt (isFree_iff.1 hfree).1

/-- A pool has its number of workers at every moment of a run. -/
theorem Manned.run (h : Manned n p) (es : List (Event β)) : Manned n (p.run es) :=
  List.foldlRecOn es _ h fun _ hp e _ => hp.step e

/-! ## Who is busy -/

/-- Without the tasks, the posts are the workers of the running tasks. -/
theorem map_posts_worker : p.posts.map (·.1) = p.running.map (·.worker) := by
  simp [Pool.posts]

/-- No worker runs two tasks. -/
theorem Staffed.nodup_busy (h : p.Staffed) : (p.running.map (·.worker)).Nodup := by
  rw [← map_posts_worker, h.posts]
  exact h.one_task.sublist (List.filter_sublist.map _)

/-- Who runs a task is counted on. -/
theorem Staffed.busy_subset (h : p.Staffed) : p.running.map (·.worker) ⊆ p.workers := by
  rw [← map_posts_worker]
  intro w hw
  obtain ⟨x, hx, rfl⟩ := List.mem_map.1 hw
  exact (h.mem_posts_iff.1 hx).2

/-- No more tasks run than there are workers. -/
theorem Manned.busy_le (h : Manned n p) : p.busy ≤ n := by
  have hle := (h.staffed.nodup_busy.subperm h.staffed.busy_subset).length_le
  rwa [List.length_map, h.size] at hle

/-- A worker that is not free runs a task. -/
theorem Staffed.mem_busy (h : p.Staffed) (hw : w ∈ p.workers) (hfree : ¬ p.isFree w) :
    w ∈ p.running.map (·.worker) := by
  rw [isFree_iff, not_and, not_not] at hfree
  obtain ⟨x, hx, rfl⟩ := List.mem_map.1 (hfree hw)
  rw [← map_posts_worker]
  exact List.mem_map_of_mem (h.mem_posts_iff.2 ⟨hx, hw⟩)

/-- Where nobody is free, as many tasks run as there are workers. -/
theorem Manned.busy_eq (h : Manned n p) (hall : ∀ w ∈ p.workers, ¬ p.isFree w) : p.busy = n := by
  have hsub : p.workers ⊆ p.running.map (·.worker) := fun w hw => h.staffed.mem_busy hw (hall w hw)
  have hle := (h.nodup.subperm hsub).length_le
  rw [List.length_map, h.size] at hle
  exact Nat.le_antisymm h.busy_le hle

/-! ## Who is free -/

/-- Whether a worker is free depends on the roster and on what is executed. -/
theorem isFree_congr (hr : q.roster = p.roster) (hx : q.executing = p.executing) :
    q.isFree w = p.isFree w := by
  rw [isFree, workers_eq hr, hx, isFree]

/-- A free worker stays so when a task ends. -/
theorem isFree_finish (h : p.isFree w) (t : TaskId) : (p.finish t).isFree w := by
  obtain ⟨hw, hidle⟩ := isFree_iff.1 h
  refine isFree_iff.2 ⟨hw, fun hmem => hidle ?_⟩
  exact (List.filter_sublist.map _).subset hmem

/-- Who takes a task is not free any more, and the others are as free as before. -/
theorem isFree_take? {v : WorkerId} (h : p.take? w = some (t, q)) :
    q.isFree v ↔ p.isFree v ∧ v ≠ w := by
  obtain ⟨rest, -, rfl⟩ := take?_eq_some h
  simp only [isFree_iff, List.map_append, List.mem_append, List.map_cons, List.map_nil,
    List.mem_singleton, not_or, and_assoc]

/-- The deadline monitor leaves a free worker alone. -/
theorem Staffed.isFree_scan (h : p.Staffed) (hook : β → Option TaskId) (hw : p.isFree w) :
    (p.scan hook).isFree w := by
  obtain ⟨hmem, hidle⟩ := isFree_iff.1 hw
  have habandon {q : Pool β} {a : Assignment} (hs : q.Staffed)
      (hq : q.executing = p.executing ∧ w ∈ q.workers) (ha : (a.worker, a.task) ∈ q.posts) :
      (q.abandon a).executing = p.executing ∧ w ∈ (q.abandon a).workers := by
    -- who is given up executes a task
    have hbusy : a.worker ∈ p.executing.map (·.1) :=
      hq.1 ▸ List.mem_map_of_mem (hs.mem_posts_iff.1 ha).1
    have hne : w ≠ a.worker := fun he => hidle (he ▸ hbusy)
    exact ⟨hq.1, List.mem_append_left _ (List.mem_filter.2 ⟨hq.2, by simpa using hne⟩)⟩
  obtain ⟨-, hx, hmem'⟩ := h.scan_keeps ⟨rfl, hmem⟩ hook id habandon fun {q t} hq =>
    ⟨(executing_request hook q t).trans hq.1, workers_eq (roster_request hook q t) ▸ hq.2⟩
  exact isFree_iff.2 ⟨hmem', by rwa [hx]⟩

/-- A new worker is free, and so are the others that were. -/
theorem Staffed.isFree_replaceWorker (h : p.Staffed) {v : WorkerId} :
    (p.isFree v ∧ v ≠ w) ∨ v = p.spawned → (p.replaceWorker w).isFree v := by
  rintro (⟨hv, hne⟩ | rfl)
  · obtain ⟨hmem, hidle⟩ := isFree_iff.1 hv
    exact isFree_iff.2 ⟨List.mem_append_left _ (List.mem_filter.2 ⟨hmem, by simpa using hne⟩), hidle⟩
  · refine isFree_iff.2 ⟨List.mem_append_right _ (List.mem_singleton_self _), fun hmem => ?_⟩
    obtain ⟨x, hx, he⟩ := List.mem_map.1 hmem
    exact Nat.lt_irrefl _ (he ▸ h.executing_lt x hx)

/-! ## Who sleeps -/

/-- A pool with those of its workers that found nothing to do and sleep until they are woken. -/
structure Floor (β : Type) where
  pool : Pool β
  asleep : List WorkerId := []

namespace Floor

variable {f : Floor β}

/-- What can happen where the workers wait. -/
inductive Move (β : Type)
  /-- Something happens to the pool. A submission wakes a sleeper, `woken` if it sleeps. -/
  | event (e : Event β) (woken : WorkerId)
  /-- A worker wakes without having been called. -/
  | wake (w : WorkerId)

/-- What a move does to the pool. -/
def Move.event? : Move β → Option (Event β)
  | .event e _ => some e
  | .wake _ => none

/-- Who sleeps after something happened to the pool. A worker that looks for a task is awake, and
falls asleep if there is none, unless the pool is shut down. A worker that is replaced sleeps no more,
and a shutdown wakes everybody. -/
def sleepers (f : Floor β) (woken : WorkerId) : Event β → List WorkerId
  | .take w =>
    if f.pool.isFree w && f.pool.queue.isEmpty && !f.pool.down then w :: f.asleep.erase w
    else f.asleep.erase w
  | .submit _ => if woken ∈ f.asleep then f.asleep.erase woken else f.asleep.tail
  | .revive w => f.asleep.erase w
  | .shutDown _ _ => []
  | _ => f.asleep

/-- A floor after one move: a sleeper wakes by itself, or something happens to the pool. -/
def step (f : Floor β) : Move β → Floor β
  | .wake w => { f with asleep := f.asleep.erase w }
  | .event e woken => { pool := f.pool.step e, asleep := f.sleepers woken e }

/-- A floor after some moves. -/
def run (f : Floor β) (ms : List (Move β)) : Floor β := ms.foldl step f

/-- No worker can do anything by itself: each of them sleeps or executes a task. -/
def Settled (f : Floor β) : Prop := ∀ w ∈ f.pool.workers, w ∈ f.asleep ∨ ¬ f.pool.isFree w

instance : Decidable f.Settled := inferInstanceAs (Decidable (∀ w ∈ _, _ ∨ _))

/-- Sleeping and waking are no concern of the pool. -/
theorem pool_run (f : Floor β) (ms : List (Move β)) :
    (f.run ms).pool = f.pool.run (ms.filterMap Move.event?) := by
  induction ms generalizing f with
  | nil => rfl
  | cons m ms ih =>
    cases m with
    | wake w => exact ih _
    | event e woken => exact ih _

/-- The free workers that do not sleep. -/
def alert (f : Floor β) : List WorkerId := f.pool.freeWorkers.filter (· ∉ f.asleep)

/-- A worker is on the alert if it is free and awake. -/
theorem mem_alert : w ∈ f.alert ↔ f.pool.isFree w ∧ w ∉ f.asleep := by
  simp only [alert, freeWorkers, List.mem_filter, decide_eq_true_eq]
  exact and_congr_left fun _ => and_iff_right_of_imp fun h => (isFree_iff.1 h).1

/-- Nobody is on the alert twice. -/
theorem nodup_alert (h : Manned n f.pool) : f.alert.Nodup := (h.nodup.filter _).filter _

/-- What holds of the sleepers at every moment: they are free, and while there are any, as many free
workers are awake as tasks are queued. -/
structure Watchful (f : Floor β) : Prop where
  free : ∀ w ∈ f.asleep, f.pool.isFree w
  nodup : f.asleep.Nodup
  enough : f.asleep ≠ [] → f.pool.queue.length ≤ f.alert.length

/-- Where nobody sleeps, everybody is on the alert. -/
theorem watchful_awake (p : Pool β) : Watchful { pool := p } :=
  ⟨fun _ hw => (List.not_mem_nil hw).elim, .nil, fun hne => absurd rfl hne⟩

/-- Free workers awake that are different are no more than there are. -/
theorem length_le_alert {l : List WorkerId} (hl : l.Nodup)
    (hsub : ∀ w ∈ l, f.pool.isFree w ∧ w ∉ f.asleep) : l.length ≤ f.alert.length :=
  (hl.subperm fun w hw => mem_alert.2 (hsub w hw)).length_le

/-- The same or fewer workers sleep, who are still free, as the others are, over a queue that has not
grown. -/
theorem Watchful.of_free (h : f.Watchful) (hm : Manned n f.pool) {asleep : List WorkerId}
    (hsub : asleep.Sublist f.asleep) (hfree : ∀ w, f.pool.isFree w → q.isFree w)
    (hq : q.queue.length ≤ f.pool.queue.length) : Watchful { pool := q, asleep } := by
  refine ⟨fun w hw => hfree w (h.free w (hsub.subset hw)), h.nodup.sublist hsub, fun hne => ?_⟩
  have hne' : f.asleep ≠ [] := fun he => hne (List.sublist_nil.1 (he ▸ hsub))
  calc q.queue.length ≤ f.pool.queue.length := hq
    _ ≤ f.alert.length := h.enough hne'
    _ ≤ _ := length_le_alert (nodup_alert hm) fun w hw => by
      obtain ⟨hw, hawake⟩ := mem_alert.1 hw
      exact ⟨hfree w hw, fun hmem => hawake (hsub.subset hmem)⟩

/-- A submission wakes one of the sleepers. -/
theorem exists_woken {l : List WorkerId} (woken : WorkerId) (h : l ≠ []) :
    ∃ v ∈ l, (if woken ∈ l then l.erase woken else l.tail) = l.erase v := by
  split
  · exact ⟨woken, ‹_›, rfl⟩
  · cases l with
    | nil => exact absurd rfl h
    | cons v l => exact ⟨v, List.mem_cons_self, by simp⟩

/-- A submission adds one task to the queue and wakes one worker, if somebody sleeps. -/
theorem Watchful.submit (h : f.Watchful) (hm : Manned n f.pool) (b : β) (woken : WorkerId) :
    (f.step (.event (.submit b) woken)).Watchful := by
  have hfree (w : WorkerId) : (f.pool.step (.submit b)).isFree w = f.pool.isFree w := by
    rcases step_submit f.pool b with hs | hs
    · rw [hs]
    · obtain ⟨-, -, -, -, hx, -⟩ := submit_eq_some hs
      rcases roster_step f.pool (.submit b) with hr | ⟨-, ⟨_, he⟩ | ⟨_, he⟩⟩
      · exact isFree_congr hr hx
      · cases he
      · cases he
  have hq : (f.pool.step (.submit b)).queue.length ≤ f.pool.queue.length + 1 := by
    have hle := (queue_step f.pool (.submit b)).length_le
    have hone : (f.pool.submitted? (.submit b)).toList.length ≤ 1 := by
      cases f.pool.submitted? (.submit b) <;> simp
    simp only [List.length_append] at hle
    omega
  by_cases hne : f.asleep = []
  · have hnil : (f.step (.event (.submit b) woken)).asleep = [] := by simp [step, sleepers, hne]
    exact ⟨fun w hw => by simp [hnil] at hw, by simp [hnil], fun h => absurd hnil h⟩
  obtain ⟨v, hv, he⟩ := exists_woken woken hne
  have hasleep : (f.step (.event (.submit b) woken)).asleep = f.asleep.erase v := he
  refine ⟨fun w hw => ?_, hasleep ▸ h.nodup.erase v, fun _ => ?_⟩
  · exact (hfree w).trans (h.free w (List.mem_of_mem_erase (hasleep ▸ hw)))
  · -- the one that is woken was not awake before
    have hnew : v ∉ f.alert := fun hmem => (mem_alert.1 hmem).2 hv
    have hmore : (v :: f.alert).length ≤ (f.step (.event (.submit b) woken)).alert.length := by
      refine length_le_alert (List.nodup_cons.2 ⟨hnew, nodup_alert hm⟩) fun w hw => ?_
      rw [hasleep]
      rcases List.mem_cons.1 hw with rfl | hw
      · exact ⟨(hfree w).trans (h.free w hv), h.nodup.not_mem_erase⟩
      · obtain ⟨hw, hawake⟩ := mem_alert.1 hw
        exact ⟨(hfree w).trans hw, fun hmem => hawake (List.mem_of_mem_erase hmem)⟩
    have henough := h.enough hne
    rw [List.length_cons] at hmore
    exact Nat.le_trans hq (by omega)

/-- Who takes a task leaves one task less; who finds none falls asleep over an empty queue. -/
theorem Watchful.take (h : f.Watchful) (hm : Manned n f.pool) (w woken : WorkerId) :
    (f.step (.event (.take w) woken)).Watchful := by
  have hsub : (f.asleep.erase w).Sublist f.asleep := List.erase_sublist
  simp only [step, sleepers]
  rcases step_take f.pool w with ⟨-, ht⟩ | ⟨t, ht⟩
  · rw [ht]
    split
    · next hrest =>
      simp only [Bool.and_eq_true, List.isEmpty_iff] at hrest
      refine ⟨fun v hv => ?_, ?_, fun _ => by simp [hrest.1.2]⟩
      · rcases List.mem_cons.1 hv with rfl | hv
        · exact hrest.1.1
        · exact h.free v (hsub.subset hv)
      · exact List.nodup_cons.2 ⟨h.nodup.not_mem_erase, h.nodup.erase w⟩
    · exact h.of_free hm hsub (fun _ hv => hv) (Nat.le_refl _)
  · obtain ⟨rest, hq, he⟩ := take?_eq_some ht
    rw [if_neg (by simp [hq])]
    refine ⟨fun v hv => ?_, h.nodup.erase w, fun hne => ?_⟩
    · obtain ⟨hne, hv⟩ := h.nodup.mem_erase_iff.1 hv
      exact (isFree_take? ht).2 ⟨h.free v hv, hne⟩
    · have hmore : (f.alert.erase w).length ≤
          (alert { pool := f.pool.step (.take w), asleep := f.asleep.erase w }).length := by
        refine length_le_alert ((nodup_alert hm).erase w) fun v hv => ?_
        obtain ⟨hne, hv⟩ := (nodup_alert hm).mem_erase_iff.1 hv
        obtain ⟨hv, hawake⟩ := mem_alert.1 hv
        exact ⟨(isFree_take? ht).2 ⟨hv, hne⟩, fun hmem => hawake (hsub.subset hmem)⟩
      have henough := h.enough fun he => hne (by rw [he]; rfl)
      have hone : f.alert.length - 1 ≤ (f.alert.erase w).length := List.le_length_erase
      have hrest : (f.pool.step (.take w)).queue.length + 1 = f.pool.queue.length := by
        rw [he, hq, List.length_cons]
      show (f.pool.step (.take w)).queue.length ≤ _
      omega

/-- A new worker is awake. -/
theorem Watchful.revive (h : f.Watchful) (hm : Manned n f.pool) (w woken : WorkerId) :
    (f.step (.event (.revive w) woken)).Watchful := by
  have hsub : (f.asleep.erase w).Sublist f.asleep := List.erase_sublist
  show Watchful { pool := f.pool.revive w, asleep := f.asleep.erase w }
  unfold Pool.revive
  split
  · exact h.of_free hm hsub (fun _ hv => hv) (Nat.le_refl _)
  · next hw =>
    simp only [Bool.or_eq_true, Bool.not_eq_true', not_or, Bool.not_eq_false] at hw
    have hstaffed := hm.staffed
    refine ⟨fun v hv => ?_, h.nodup.erase w, fun hne => ?_⟩
    · obtain ⟨hne, hv⟩ := h.nodup.mem_erase_iff.1 hv
      exact hstaffed.isFree_replaceWorker (.inl ⟨h.free v hv, hne⟩)
    · -- the new worker is awake, and was not there before
      have hold {v : WorkerId} (hv : f.pool.isFree v) : v ≠ f.pool.spawned :=
        Nat.ne_of_lt (hstaffed.worker_lt v (isFree_iff.1 hv).1)
      have hnew : f.pool.spawned ∉ f.alert.erase w := fun hmem =>
        hold (mem_alert.1 (List.mem_of_mem_erase hmem)).1 rfl
      have hmore : (f.pool.spawned :: f.alert.erase w).length ≤
          (alert { pool := f.pool.replaceWorker w, asleep := f.asleep.erase w }).length := by
        refine length_le_alert (List.nodup_cons.2 ⟨hnew, (nodup_alert hm).erase w⟩) fun v hv => ?_
        rcases List.mem_cons.1 hv with rfl | hv
        · exact ⟨hstaffed.isFree_replaceWorker (.inr rfl), fun hmem =>
            hold (h.free _ (hsub.subset hmem)) rfl⟩
        · obtain ⟨hne, hv⟩ := (nodup_alert hm).mem_erase_iff.1 hv
          obtain ⟨hv, hawake⟩ := mem_alert.1 hv
          exact ⟨hstaffed.isFree_replaceWorker (.inl ⟨hv, hne⟩),
            fun hmem => hawake (hsub.subset hmem)⟩
      have henough := h.enough fun he => hne (by rw [he]; rfl)
      have hone : f.alert.length - 1 ≤ (f.alert.erase w).length := List.le_length_erase
      rw [List.length_cons] at hmore
      exact Nat.le_trans henough (by omega)

/-- No move has a task wait for a sleeper. -/
theorem Watchful.step (h : f.Watchful) (hm : Manned n f.pool) (m : Move β) :
    (f.step m).Watchful := by
  have hfew {q : Pool β} (hfree : ∀ w, f.pool.isFree w → q.isFree w)
      (hq : q.queue.Sublist f.pool.queue) : Watchful { pool := q, asleep := f.asleep } :=
    h.of_free hm (.refl _) hfree hq.length_le
  cases m with
  | wake w => exact h.of_free hm List.erase_sublist (fun _ hv => hv) (Nat.le_refl _)
  | event e woken =>
    cases e with
    | submit b => exact h.submit hm b woken
    | take w => exact h.take hm w woken
    | revive w => exact h.revive hm w woken
    | shutDown hook interrupt => exact watchful_awake _
    | finish t =>
      show Watchful { pool := f.pool.step (.finish t), asleep := f.asleep }
      rw [step_finish]
      split
      · exact hfew (fun w hw => isFree_finish hw t) (.refl _)
      · exact h
    | cancel hook t =>
      refine hfew (fun w hw => ?_) (eases_cancel hook f.pool t).queue
      exact (isFree_congr (eases_cancel hook f.pool t).roster (curbs_cancel hook f.pool t).executing).trans hw
    | scan hook =>
      refine hfew (fun w hw => hm.staffed.isFree_scan hook hw) ?_
      rw [Pool.step, queue_scan]
    | tick d => exact hfew (fun _ hw => hw) (.refl _)

/-- At no moment does a task wait for a sleeper. -/
theorem Watchful.run (h : f.Watchful) (hm : Manned n f.pool) (ms : List (Move β)) :
    (f.run ms).Watchful := by
  induction ms generalizing f with
  | nil => exact h
  | cons m ms ih =>
    refine ih (h.step hm m) ?_
    cases m with
    | wake w => exact hm
    | event e woken => exact hm.step e

/-- Where all workers sleep or work and tasks are queued, nobody sleeps. -/
theorem Watchful.busy_of_settled (h : f.Watchful) (hm : Manned n f.pool) (hs : f.Settled)
    (hq : f.pool.queue ≠ []) : f.pool.busy = n := by
  have hnil : f.alert = [] := by
    refine List.eq_nil_iff_forall_not_mem.2 fun w hw => ?_
    obtain ⟨hw, hawake⟩ := mem_alert.1 hw
    exact (hs w (isFree_iff.1 hw).1).elim hawake fun hbusy => hbusy hw
  have hnobody : f.asleep = [] := by
    by_contra hne
    have henough := h.enough hne
    rw [hnil] at henough
    exact hq (List.eq_nil_of_length_eq_zero (Nat.le_zero.1 henough))
  refine hm.busy_eq fun w hw => (hs w hw).resolve_left ?_
  simp [hnobody]

end Floor

/-- **The workforce is steady.** Whatever happens to a pool, it counts on as many workers as it was
made with; the running tasks sit on different ones of them; tasks begin in the order in which they
were submitted; and when every worker sleeps or works while tasks are queued, all of them work. -/
theorem steady_workforce {settings : PoolSettings} (hp : Pool.start settings = .ok p)
    (ms : List (Floor.Move β)) :
    let es := ms.filterMap Floor.Move.event?
    let f : Floor β := Floor.run { pool := p } ms
    f.pool = p.run es ∧
      f.pool.workers.Nodup ∧ f.pool.live = settings.workers ∧
      (f.pool.running.map (·.worker)).Nodup ∧ f.pool.running.map (·.worker) ⊆ f.pool.workers ∧
      f.pool.busy ≤ settings.workers ∧
      (p.begun es).Sublist (p.submitted es) ∧
      (f.Settled → f.pool.queue ≠ [] → f.pool.busy = settings.workers) := by
  intro es f
  have hpool : f.pool = p.run es := Floor.pool_run _ ms
  have hstart := manned_start hp
  have hm : Manned settings.workers f.pool := hpool ▸ hstart.run es
  have hwatch : f.Watchful := (Floor.watchful_awake p).run hstart ms
  refine ⟨hpool, hm.nodup, hm.size, hm.staffed.nodup_busy, hm.staffed.busy_subset, hm.busy_le, ?_,
    fun hs hq => hwatch.busy_of_settled hm hs hq⟩
  have hempty : p.queue = [] := by rw [start_eq_ok hp]
  have horder := (List.sublist_append_left _ _).trans (queue_run p es)
  rwa [hempty, List.nil_append] at horder

/-- Two workers fall asleep and are woken by three submissions; the first task is cancelled, overstays
its grace period and comes back late, while a new worker takes the third task. -/
theorem steady_workforce_replaced :
    let settings : PoolSettings := { name := "pool", workers := 2 }
    let p : Pool Unit := { settings, workers := [0, 1], spawned := 2 }
    let ms : List (Floor.Move Unit) := ([.take 0, .take 1, .submit (), .take 0, .submit (), .take 1,
      .submit (), .submit (), .cancel (fun _ => none) 0, .tick (.ofSeconds 6), .scan fun _ => none,
      .take 2, .finish 0] : List (Event Unit)).map (.event · 1)
    let f : Floor Unit := Floor.run { pool := p } ms
    Pool.start settings = .ok p ∧ f.pool.workers = [1, 2] ∧ f.Settled ∧ f.pool.queue ≠ [] ∧
      f.pool.busy = 2 := by
  intro settings p ms f
  have hp : Pool.start settings = .ok p := rfl
  have hs : f.Settled := by decide
  have hq : f.pool.queue ≠ [] := by decide
  exact ⟨hp, by decide, hs, hq, (steady_workforce hp ms).2.2.2.2.2.2.2 hs hq⟩

end Pool

end BatchTraversal
