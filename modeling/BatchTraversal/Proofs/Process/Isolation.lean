import BatchTraversal.Proofs.Process.Reuse

/-!
# Cancelled batches and the others

The hook of a batch trips the token that the traverser of the batch takes for that of the run under way.
Several batches may share a traverser, and the token of one that crashed or failed early stays behind
there. What keeps the others safe is that a traverser serves one coordinator only: the token belongs to a
batch of the coordinator of the batch that is cancelled, and of these at most one is open, the one in
flight (`Scheduler.Isolated`, `Scheduler.Isolated.confined`). The invariant is kept by every chore of a
process and every turn of a batch.
-/

namespace BatchTraversal

namespace Scheduler

/-- Whether a call, the deadline monitor or a shutdown may cancel a batch: it waits in the queue, it is
being executed, or a coordinator has its handle. -/
def Cancellable (p : Scheduler) (t : TaskId) : Prop :=
  t ∈ p.pool.queue ∨ p.pool.isExecuting t ∨
    ∃ (c : CoordinatorId) (k : Coordinator), p.coordinators[c]? = some k ∧ k.handle = some t

/-- What keeps the open batches apart from those that are cancelled. -/
structure Isolated (p : Scheduler) : Prop where
  clear : p.pool.Clear
  /-- A traverser takes none but its own batches to be under way. -/
  current : ∀ (r : TraverserId) (l : Traverser) (t : TaskId), p.traversers[r]? = some l →
    l.current = some t → ∃ c, p.post? t = some (c, r)
  /-- All batches of a traverser are batches of one coordinator. -/
  posts : ∀ (t u : TaskId) (c d : CoordinatorId) (r : TraverserId), p.post? t = some (c, r) →
    p.post? u = some (d, r) → c = d
  /-- A coordinator keeps no traverser that has run batches of another one. -/
  kept : ∀ (c d : CoordinatorId) (k : Coordinator) (r : TraverserId) (t : TaskId),
    p.coordinators[c]? = some k → k.traverser = some r → p.post? t = some (d, r) → d = c
  unshared : ∀ (c d : CoordinatorId) (k l : Coordinator) (r : TraverserId),
    p.coordinators[c]? = some k → p.coordinators[d]? = some l → k.traverser = some r →
    l.traverser = some r → c = d

variable {p q : Scheduler} {t u : TaskId} {c d : CoordinatorId} {k : Coordinator} {r : TraverserId}

theorem isolated_start (h : ∃ settings pool kinds, Scheduler.start settings pool kinds = .ok p) :
    p.Isolated := by
  have hpost (t : TaskId) : p.post? t = none :=
    post?_eq_none.2 (Option.map_eq_none_iff.1 ((journal_start h).2 t))
  have hreserved : p.Reserved fun _ => False := reserved_start h
  obtain ⟨settings, pool, kinds, h⟩ := h
  have hflight := flight_start h
  obtain ⟨-, rfl⟩ := start_eq_ok h
  refine ⟨fun t _ => rfl, fun r l t hr => (by cases hr), fun t u c d r ht => ?_,
    fun c d k r t hk => (by cases hk), hreserved.unshared⟩
  rw [hpost] at ht
  cases ht

/-! ## Whom a hook reaches -/

/-- The batch under way on the traverser of a batch is one of the same coordinator. -/
theorem Isolated.current_coordinator (h : p.Isolated) {b : Batch} (hb : p.batch? t = some b)
    (hu : p.hook b = some u) : ∃ x, p.batch? u = some x ∧ x.coordinator = b.coordinator := by
  obtain ⟨l, hl, hcur⟩ := Option.bind_eq_some_iff.1 hu
  obtain ⟨c, hpost⟩ := h.current b.traverser l u hl hcur
  obtain ⟨x, hx, he⟩ := Option.map_eq_some_iff.1 hpost
  have hsame := h.posts t u _ c b.traverser (post?_of_batch? hb) hpost
  exact ⟨x, hx, (congrArg Prod.fst he).trans hsame.symm⟩

/-- The hook of a batch that may be cancelled names no other open batch. -/
theorem Isolated.confined (h : p.Isolated) (hf : p.Flight) (ht : p.Cancellable t) :
    p.pool.Confined p.hook t := by
  intro hnr u hu hopen
  obtain ⟨b, hb, hhook⟩ := Option.bind_eq_some_iff.1 hu
  obtain ⟨x, hx, hxb⟩ := h.current_coordinator hb hhook
  have hot := order?_of_batch? hb
  have hou := order?_of_batch? hx
  rw [hxb] at hou
  -- the coordinator that both batches belong to has both in flight
  obtain ⟨k, hk, -⟩ := hf.owned u _ _ hou
  have hku : k.handle = some u := hf.single u _ _ k hou hk hopen
  have hkt : k.handle = some t := by
    rcases ht with hq | hx | ⟨c, l, hl, hh⟩
    · exact hf.single t _ _ k hot hk ⟨.inl hq, hnr⟩
    · exact hf.single t _ _ k hot hk ⟨.inr hx, hnr⟩
    · obtain ⟨hc, -⟩ := Prod.mk.inj (Option.some.inj (hot.symm.trans (hf.handled c l t hl hh)))
      rw [hc] at hk
      cases hk.symm.trans hl
      exact hh
  exact Option.some.inj (hku.symm.trans hkt)

theorem Isolated.confined_pool (h : p.Isolated) (hf : p.Flight) (t : TaskId)
    (ht : t ∈ p.pool.queue ∨ p.pool.isRunning t) : p.pool.Confined p.hook t :=
  h.confined hf (ht.imp_right fun hr => .inl (hf.sound.running_executing t hr))

/-! ## What keeps batches isolated -/

/-- What relays keeps batches isolated if it leaves the pool clear and the traversers to their own
batches. -/
theorem Isolated.of_relays (h : p.Isolated) (hr : p.Relays q) (hclear : q.pool.Clear)
    (hcur : ∀ (r : TraverserId) (l' : Traverser) (t : TaskId), q.traversers[r]? = some l' →
      l'.current = some t → (∃ l, p.traversers[r]? = some l ∧ l.current = some t) ∨
        ∃ c, p.post? t = some (c, r)) : q.Isolated := by
  refine ⟨hclear, fun r l' t hl' ht => ?_, fun t u c d r ht hu => ?_, fun c d k' r t hk' htr ht => ?_,
    fun c d k' l' r hk' hl' hkr hlr => ?_⟩
  · rw [hr.post?]
    rcases hcur r l' t hl' ht with ⟨l, hl, hlt⟩ | hpost
    · exact h.current r l t hl hlt
    · exact hpost
  · exact h.posts t u c d r ((hr.post? t).symm.trans ht) ((hr.post? u).symm.trans hu)
  · obtain ⟨k, hk, hkr⟩ := hr.traverser hk' htr
    exact h.kept c d k r t hk hkr ((hr.post? t).symm.trans ht)
  · obtain ⟨k, hk, hkr'⟩ := hr.traverser hk' hkr
    obtain ⟨l, hl, hlr'⟩ := hr.traverser hl' hlr
    exact h.unshared c d k l r hk hl hkr' hlr'

/-- What relays and leaves the traversers alone. -/
theorem Isolated.of_traversers (h : p.Isolated) (hr : p.Relays q) (hclear : q.pool.Clear)
    (ht : q.traversers = p.traversers) : q.Isolated :=
  h.of_relays hr hclear fun _ l' _ hl' hcur => .inl ⟨l', ht ▸ hl', hcur⟩

/-- An interruption cancels the batch in flight deliberately. -/
theorem Isolated.deliberate_interrupt (h : p.Isolated) (hf : p.Flight)
    (hk : p.coordinators[c]? = some k) (f : Coordinator → Coordinator) :
    p.pool.Deliberate (p.interrupt c f).pool := by
  rw [interrupt_eq hk]
  cases hh : k.handle with
  | none => exact h.clear.deliberate
  | some t => exact h.clear.deliberate_cancel (h.confined hf (.inr (.inr ⟨c, k, hk, hh⟩)))

theorem Isolated.clear_interrupt (h : p.Isolated) (hf : p.Flight)
    (hk : p.coordinators[c]? = some k) (f : Coordinator → Coordinator) :
    (p.interrupt c f).pool.Clear :=
  (h.deliberate_interrupt hf hk f).clear (curbs_interrupt hk f)

/-- A new traverser has no batch under way, and one coordinator keeps it. -/
theorem equip_isolated (h : p.Isolated) (hp : p.Sourced) (c : CoordinatorId)
    (hnone : k.traverser = none) : (p.traverserFor c k).2.Isolated := by
  rcases traverserFor_cases p c hnone with ⟨e, he⟩ | ⟨config, adapter, -, -, he⟩ <;> rw [he]
  · exact h
  · refine ⟨h.clear, fun r l t hl ht => ?_, h.posts, fun d e l r t hl hr ht => ?_,
      fun _ _ _ _ _ => hp.unshared_equip h.unshared⟩
    · rcases getElem?_concat_cases hl with hl | ⟨-, rfl⟩
      · exact h.current r l t hl ht
      · cases ht
    · rcases hp.equipped hl hr with ⟨-, hnew⟩ | ⟨-, hl⟩
      · exact absurd hnew (Nat.ne_of_lt (hp.post_lt ht))
      · exact h.kept d e l r t hl hr ht

/-- The batch that a coordinator is assigned runs on a traverser that has run none but its batches. -/
theorem Isolated.of_assigns (h : p.Isolated) (hk : p.coordinators[c]? = some k)
    (htr : k.traverser = some r) {new : TaskId} (ha : p.Assigns q c r new) (hclear : q.pool.Clear)
    (ht : q.traversers = p.traversers) : q.Isolated := by
  -- all batches on the traverser are batches of the coordinator, the new one too
  have hpost {t : TaskId} {d : CoordinatorId} {x : TraverserId} (hx : q.post? t = some (d, x)) :
      p.post? t = some (d, x) ∨ d = c ∧ x = r := by
    rw [ha.post?] at hx
    split at hx
    · cases hx
      exact .inr ⟨rfl, rfl⟩
    · exact .inl hx
  refine ⟨hclear, fun x l t hl hcur => ?_, fun t u d e x ht hu => ?_, fun d e l' x t hl' hlx ht => ?_,
    fun d e l' m' x hl' hm' hlx hmx => ?_⟩
  · obtain ⟨d, hd⟩ := h.current x l t (ht ▸ hl) hcur
    exact ⟨d, by rw [ha.post?, if_neg (Nat.ne_of_lt (ha.earlier t _ hd)), hd]⟩
  · rcases hpost ht with ht | ⟨rfl, rfl⟩ <;> rcases hpost hu with hu | ⟨rfl, hxr⟩
    · exact h.posts t u d e x ht hu
    · exact h.kept e d k r t hk htr (hxr ▸ ht)
    · exact (h.kept d e k x u hk htr hu).symm
    · rfl
  · obtain ⟨l, hl, hsame, -⟩ := ha.coordinators d l' hl'
    rw [hsame] at hlx
    rcases hpost ht with ht | ⟨rfl, rfl⟩
    · exact h.kept d e l x t hl hlx ht
    · exact h.unshared e d k l x hk hl htr hlx
  · obtain ⟨l, hl, hsame, -⟩ := ha.coordinators d l' hl'
    obtain ⟨m, hm, hsame', -⟩ := ha.coordinators e m' hm'
    exact h.unshared d e l m x hl hm (hsame ▸ hlx) (hsame' ▸ hmx)

/-- A coordinator that submits a batch for its traverser keeps batches isolated. -/
theorem submit_isolated (h : p.Isolated) (hk : p.coordinators[c]? = some k)
    (htr : k.traverser = some r) (maxItems : Nat) (metered : Bool) :
    (p.submit c k r maxItems metered).2.Isolated := by
  have hclear : (p.submit c k r maxItems metered).2.pool.Clear := by
    rcases p.submit_cases c k r maxItems metered with he | ⟨t, pool, hsubmit, he⟩ <;> rw [he]
    · exact h.clear
    · exact h.clear.submit hsubmit
  have htraversers : (p.submit c k r maxItems metered).2.traversers = p.traversers := by
    rcases p.submit_cases c k r maxItems metered with he | ⟨t, pool, -, he⟩ <;> rw [he] <;> rfl
  rcases p.submit_assigns c k r maxItems metered with he | ⟨new, ha⟩
  · rw [he]
    exact h.of_traversers (.modify (fun _ => rfl) (fun _ => rfl) rfl
      (fun l _ => .of_same rfl rfl rfl rfl) fun _ => id) h.clear rfl
  · exact h.of_assigns hk htr ha hclear htraversers

end Scheduler

/-! ## Chores and turns -/

namespace Site

open Scheduler

variable {s s' : Site} {t u : TaskId} {c : CoordinatorId} {k : Coordinator}

/-- Upkeep keeps batches isolated. -/
theorem Upkeep.isolated (h : Upkeep s s') (hf : s.scheduler.Flight) (hp : s.scheduler.Sourced)
    (hi : s.scheduler.Isolated) : s'.scheduler.Isolated := by
  cases h with
  | backOff | hint | measure =>
    exact hi.of_traversers (.same rfl (fun _ => rfl) rfl fun _ => id) hi.clear rfl
  | giveUp =>
    refine hi.of_traversers (.modify (fun _ => rfl) (fun _ => rfl) rfl (fun l _ => ?_) fun _ => id)
      hi.clear rfl
    exact ⟨rfl, .inl rfl, .inl rfl⟩
  | equip _ _ hnone => exact equip_isolated hi hp _ hnone
  | submit maxItems metered hk _ _ htr => exact submit_isolated hi hk htr maxItems metered
  | curb hc hcare =>
    refine hi.of_traversers (.same rfl (post?_curbs hc) rfl fun _ => id) ?_ rfl
    exact (hcare hi.clear (hi.confined_pool hf)).clear hc

/-- A chore keeps batches isolated. -/
theorem Chore.isolated (h : Chore s s') (hf : s.scheduler.Flight) (hp : s.scheduler.Sourced)
    (hi : s.scheduler.Isolated) : s'.scheduler.Isolated := by
  cases h with
  | upkeep h => exact h.isolated hf hp hi
  | edit h =>
    cases h with
    | @amend c k a _ hk =>
      refine hi.of_traversers (relays_interrupt hk ⟨(a.apply_name_removed _).1, ?_⟩)
        (hi.clear_interrupt hf hk _) ?_
      · cases a with
        | configure | dropTraverser => exact .inl rfl
        | reschedule => exact .inr ⟨rfl, rfl⟩
      · show (s.scheduler.interrupt c a.apply).traversers = _
        rw [interrupt_eq hk]
        rfl
    | enlist => exact hi.of_traversers (relays_enlist ..) hi.clear rfl
    | @detach c k _ hk hlive =>
      set f : Coordinator → Coordinator := fun k =>
        { k with removed := true, config := none, schedule := none, traverser := none }
      have hr := relays_interrupt hk (f := f) ⟨rfl, .inl rfl⟩
      have hclear := hi.clear_interrupt hf hk f
      show (s.scheduler.detach k.name c).Isolated
      rw [detach_eq hk hlive]
      refine hi.of_traversers ⟨hr.source?, hr.post?, hr.coordinators, hr.names, hr.journal⟩ hclear ?_
      show (s.scheduler.interrupt c f).traversers = _
      rw [interrupt_eq hk]
      rfl
    | look | storeConfiguration | storeSchedule | removeTask => exact hi
    | clearCheckpoint hk =>
      refine hi.of_traversers (.modify (fun _ => rfl) (fun _ => rfl) rfl (fun l hl => ?_) fun _ => id)
        hi.clear rfl
      rw [hk] at hl
      cases hl
      exact .of_same (CheckpointCell.connector_write _ _ _) rfl rfl rfl

/-- A turn of a batch trips no token. -/
theorem Turn.isTripped (h : Turn u s s') (t : TaskId) :
    s'.scheduler.pool.isTripped t = s.scheduler.pool.isTripped t := by
  cases h with
  | take h =>
    obtain ⟨rest, -, rfl⟩ := Pool.take?_eq_some h
    rfl
  | move | answer => exact Pool.any_modifyTask s.scheduler.pool u t (by intro task; rfl)
  | crash | retire | choke | count => exact Pool.isTripped_markDone s.scheduler.pool u t
  | @settle b k code =>
    rcases settleBatch_cases (s.counted u k (BatchResult.ofCode code).count) u b k (.ofCode code) with
      ⟨-, he⟩ | ⟨-, disabled, -, he⟩ <;> rw [he] <;>
      exact Pool.isTripped_markDone s.scheduler.pool u t

/-- A turn leaves a traverser with the batch it had under way, or with the batch whose turn it was. -/
theorem Turn.current (h : Turn u s s') {r : TraverserId} {l' : Traverser}
    (hl' : s'.scheduler.traversers[r]? = some l') (ht : l'.current = some t) :
    (∃ l, s.scheduler.traversers[r]? = some l ∧ l.current = some t) ∨
      ∃ c, s.scheduler.post? t = some (c, r) := by
  have hset {x : TraverserId} {l m : Traverser} (hl : s.scheduler.traversers[x]? = some l)
      (hget : (s.scheduler.traversers.set x m)[r]? = some l') :
      r = x ∧ l' = m ∨ s.scheduler.traversers[r]? = some l' := by
    rw [List.getElem?_set] at hget
    split at hget
    · next hxr =>
      rw [if_pos (hxr ▸ (List.getElem?_eq_some_iff.1 hl).1)] at hget
      exact .inl ⟨hxr.symm, (Option.some.inj hget).symm⟩
    · exact .inr hget
  cases h with
  | take | crash | retire | choke | count => exact .inl ⟨l', hl', ht⟩
  | @move b k l _ hb _ _ hl =>
    rcases hset hl hl' with ⟨rfl, rfl⟩ | hl'
    · rcases RunStage.current_advance u (s.scheduler.pool.isTripped u) ⟨l, k.cell, s.backend⟩
        b.stage with hsame | hown
      · exact .inl ⟨l, hl, hsame.symm.trans ht⟩
      · obtain rfl : u = t := Option.some.inj (hown.symm.trans ht)
        exact .inr ⟨_, post?_of_batch? hb⟩
    · exact .inl ⟨l', hl', ht⟩
  | @answer b l checkpoint a _ _ hl =>
    rcases hset hl hl' with ⟨rfl, rfl⟩ | hl'
    · cases a with
      | crashed => exact .inl ⟨l, hl, ht⟩
      | page | noContent | failed => cases ht
    · exact .inl ⟨l', hl', ht⟩
  | @settle b k code =>
    rcases settleBatch_cases (s.counted u k (BatchResult.ofCode code).count) u b k (.ofCode code) with
      ⟨-, he⟩ | ⟨-, disabled, -, he⟩ <;> rw [he] at hl' <;> exact .inl ⟨l', hl', ht⟩

/-- A turn of a batch keeps batches isolated. -/
theorem Turn.isolated (h : Turn u s s') (hf : s.scheduler.Flight) (hi : s.scheduler.Isolated) :
    s'.scheduler.Isolated :=
  hi.of_relays h.relays (hi.clear.of_open (h.tame hf).isOpen h.isTripped) fun _ _ _ => h.current

/-- Moves keep everything sourced and the batches isolated. -/
theorem Moves.isolated (h : Moves s s') (hf : s.scheduler.Flight) (hp : s.scheduler.Sourced)
    (hi : s.scheduler.Isolated) : s'.scheduler.Sourced ∧ s'.scheduler.Isolated := by
  induction h with
  | refl => exact ⟨hp, hi⟩
  | tail h₀ h ih =>
    have hf' := Moves.flight h₀ hf
    cases h with
    | chore h => exact ⟨(h.sourced ih.1).2, h.isolated hf' ih.1 ih.2⟩
    | turn t h => exact ⟨h.relays.sourced ih.1, h.isolated hf' ih.2⟩

end Site

end BatchTraversal
