import BatchTraversal.Proofs.Process.Trims

/-!
# Traversers that are used again

A traverser runs the batches of one coordinator, one after the other. It is used again only for a batch
whose predecessors on it have reported or never began (`Scheduler.Spent`), apart from those that the
coordinator was made to give up while it kept the traverser (`Scheduler.Forsakes`). The invariant
behind it is `Scheduler.Reserved`: as long as a coordinator keeps a traverser, every batch that was
submitted for it is the one in flight, or is spent. Chores other than edits and the turns of batches
keep it; an edit keeps it but for the batches that it forsakes.
-/

namespace BatchTraversal

namespace Scheduler

/-- Whether a batch returned and its coordinator counted its items. -/
def Reported (p : Scheduler) (t : TaskId) : Prop := p.Returned t ∧ p.folds t ≠ []

/-- Whether a batch is through with its traverser, or has never begun with it. -/
def Spent (p : Scheduler) (t : TaskId) : Prop := p.Reported t ∨ p.Dropped t

/-- Whether a coordinator gave up a batch that had left the queue, and kept its traverser. -/
def Forsakes (p q : Scheduler) (t : TaskId) : Prop :=
  ∃ (c : CoordinatorId) (k k' : Coordinator), p.coordinators[c]? = some k ∧
    q.coordinators[c]? = some k' ∧ k.handle = some t ∧ t ∉ p.pool.queue ∧ k'.handle = none ∧
    k'.traverser = k.traverser

/-- What holds of the traversers of a process and of the batches submitted for them, apart from the
batches in `lost`. -/
structure Reserved (p : Scheduler) (lost : TaskId → Prop) : Prop where
  unshared : ∀ (c d : CoordinatorId) (k l : Coordinator) (r : TraverserId),
    p.coordinators[c]? = some k → p.coordinators[d]? = some l → k.traverser = some r →
    l.traverser = some r → c = d
  kept : ∀ (c d : CoordinatorId) (k : Coordinator) (r : TraverserId) (t : TaskId),
    p.coordinators[c]? = some k → k.traverser = some r → p.post? t = some (d, r) →
    k.handle = some t ∨ p.Spent t ∨ lost t
  ordered : ∀ (t u : TaskId) (c d : CoordinatorId) (r : TraverserId), p.post? t = some (c, r) →
    p.post? u = some (d, r) → t < u → p.Spent t ∨ lost t

variable {p q : Scheduler} {t u : TaskId} {c d : CoordinatorId} {k k' : Coordinator} {r : TraverserId}
  {lost lost' : TaskId → Prop}

theorem folds_ne_nil {name : String} {count : Nat} (h : .folded t name count ∈ p.journal) :
    p.folds t ≠ [] := by
  refine List.ne_nil_of_mem (a := count) (List.mem_filterMap.2 ⟨_, h, ?_⟩)
  simp [Occurrence.foldOf?]

/-- A batch that is spent stays so through what spares it. -/
theorem Spent.of_spares (h : p.Spent t) (hs : p.pool.Spares t q.pool) (hj : p.journal ⊆ q.journal) :
    q.Spent t := by
  have hstage : q.stage? t = p.stage? t := congrArg (Option.map Batch.stage) hs.payload?
  rcases h with ⟨⟨code, hcode, hq, hx⟩, hfold⟩ | ⟨hen, hq, hx⟩
  · refine .inl ⟨⟨code, hstage.trans hcode, fun h => hq (hs.queue h), fun h => hx (hs.executing.1 h)⟩,
      ?_⟩
    obtain ⟨count, hc⟩ := List.exists_mem_of_ne_nil _ hfold
    obtain ⟨o, ho, he⟩ := List.mem_filterMap.1 hc
    exact List.ne_nil_of_mem (List.mem_filterMap.2 ⟨o, hj ho, he⟩)
  · exact .inr ⟨hstage.trans hen, fun h => hq (hs.queue h), fun h => hx (hs.executing.1 h)⟩

theorem Spent.of_curbs (h : p.Spent t) (hc : p.pool.Curbs q.pool) (hj : p.journal ⊆ q.journal) :
    q.Spent t := h.of_spares (hc.spares t) hj

theorem Reserved.mono (h : p.Reserved lost) (hl : ∀ t, lost t → lost' t) : p.Reserved lost' :=
  ⟨h.unshared, fun c d k r t hk hr hp => (h.kept c d k r t hk hr hp).imp_right (.imp_right (hl t)),
    fun t u c d r hp hp' hlt => (h.ordered t u c d r hp hp' hlt).imp_right (hl t)⟩

/-- A process that knows no connector yet has no traversers and no batches. -/
theorem reserved_start (h : ∃ settings pool kinds, Scheduler.start settings pool kinds = .ok p) :
    p.Reserved lost := by
  have hpost (t : TaskId) : p.post? t = none :=
    post?_eq_none.2 (Option.map_eq_none_iff.1 ((journal_start h).2 t))
  have hnone : p.coordinators = [] := by
    obtain ⟨settings, pool, kinds, h⟩ := h
    rw [(start_eq_ok h).2]
  refine ⟨fun c d k l r hk => ?_, fun c d k r t hk => ?_, fun t u c d r ht => ?_⟩
  · rw [hnone] at hk
    cases hk
  · rw [hnone] at hk
    cases hk
  · rw [hpost] at ht
    cases ht

/-! ## Operations that neither make a traverser nor submit a batch -/

/-- Traversers stay reserved through what relays if spent batches stay spent and the batch in flight of
a coordinator that keeps its traverser stays that, is spent or is lost. -/
theorem Reserved.of_relays (h : p.Reserved lost) (hr : p.Relays q) (hl : ∀ t, lost t → lost' t)
    (hspent : ∀ t, p.Spent t → q.Spent t)
    (hhandle : ∀ (c : CoordinatorId) (k k' : Coordinator) (t : TaskId) (r : TraverserId),
      p.coordinators[c]? = some k → q.coordinators[c]? = some k' → k.handle = some t →
      k.traverser = some r → k'.traverser = some r → k'.handle = some t ∨ q.Spent t ∨ lost' t) :
    q.Reserved lost' := by
  refine ⟨fun c d k' l' r hk' hl' hkr hlr => ?_, fun c d k' r t hk' htr hp => ?_,
    fun t u c d r hp hp' hlt => ?_⟩
  · obtain ⟨k, hk, hkr'⟩ := hr.traverser hk' hkr
    obtain ⟨l, hl, hlr'⟩ := hr.traverser hl' hlr
    exact h.unshared c d k l r hk hl hkr' hlr'
  · obtain ⟨k, hk, hkr⟩ := hr.traverser hk' htr
    rcases h.kept c d k r t hk hkr ((hr.post? t).symm.trans hp) with hh | hs | hx
    · exact hhandle c k k' t r hk hk' hh hkr htr
    · exact .inr (.inl (hspent t hs))
    · exact .inr (.inr (hl t hx))
  · exact (h.ordered t u c d r ((hr.post? t).symm.trans hp) ((hr.post? u).symm.trans hp') hlt).imp
      (hspent t) (hl t)

/-- A queued batch whose coordinator is made to give it up never begins. -/
theorem Trims.dropped (ht : p.Trims q) (hp : p.Flight) (hq : q.Flight)
    (hk : p.coordinators[c]? = some k) (hk' : q.coordinators[c]? = some k') (hh : k.handle = some t)
    (hqueue : t ∈ p.pool.queue) (hnone : k'.handle = none) : q.Dropped t := by
  have ho := hp.handled c k t hk hh
  obtain ⟨b, hb, -⟩ := Option.map_eq_some_iff.1 ho
  have hbatch : q.batch? t = p.batch? t := ht.curbs.payload? t
  refine ⟨?_, fun hmem => ?_, fun hx => ?_⟩
  · rw [stage?_of_batch? (hbatch.trans hb), hp.fresh t hqueue b hb]
  · have hopen : q.pool.Open t := ⟨.inl hmem, hq.sound.unrequested t hmem⟩
    have ho' : q.order? t = some (c, k.generation) := (congrArg (Option.map Batch.order) hbatch).trans ho
    rw [hq.single t c _ k' ho' hk' hopen] at hnone
    cases hnone
  · exact hp.sound.notMem_queue (ht.curbs.isExecuting_iff.1 hx) hqueue

/-- An edit keeps the traversers reserved, but for the batches that it forsakes. -/
theorem Reserved.of_trims (h : p.Reserved lost) (ht : p.Trims q) (hp : p.Flight) (hq : q.Flight) :
    q.Reserved fun t => lost t ∨ p.Forsakes q t := by
  refine h.of_relays ht.relays (fun _ => .inl) (fun t hs => hs.of_curbs ht.curbs ht.relays.journal)
    fun c k k' t r hk hk' hh hkr hkr' => ?_
  have hgives : k'.handle = none ∨ k'.handle = k.handle := by
    rcases ht.relays.coordinators c k' hk' with ⟨-, hnone⟩ | ⟨l, hl, hpass⟩
    · exact .inl hnone
    · cases hk.symm.trans hl
      exact hpass.handle.imp_right And.left
  rcases hgives with hnone | hsame
  · by_cases hqueue : t ∈ p.pool.queue
    · exact .inr (.inl (.inr (ht.dropped hp hq hk hk' hh hqueue hnone)))
    · exact .inr (.inr (.inr ⟨c, k, k', hk, hk', hh, hqueue, hnone, hkr'.trans hkr.symm⟩))
  · exact .inl (hsame.trans hh)

/-! ## New traversers and new batches -/

theorem lt_of_source? {x : String × ConnectorConfig} (h : p.source? r = some x) :
    r < p.traversers.length := by
  obtain ⟨l, hl, -⟩ := Option.map_eq_some_iff.1 h
  exact (List.getElem?_eq_some_iff.1 hl).1

/-- A traverser that a coordinator keeps, or that a batch runs on, was made before. -/
theorem Sourced.traverser_lt (h : p.Sourced) (hk : p.coordinators[c]? = some k)
    (hr : k.traverser = some r) : r < p.traversers.length :=
  let ⟨_, _, hs⟩ := (h.fits c k hk).traverser r hr
  lt_of_source? hs

theorem Sourced.post_lt (h : p.Sourced) (ht : p.post? t = some (c, r)) : r < p.traversers.length :=
  let ⟨_, _, _, hs⟩ := h.posted t c r ht
  lt_of_source? hs

/-- A coordinator keeps the traverser that was made last for one of them, or what it kept before. -/
theorem Sourced.equipped (h : p.Sourced)
    (hk : (p.modifyCoordinator c fun l =>
      { l with traverser := some p.traversers.length }).coordinators[d]? = some k)
    (hr : k.traverser = some r) :
    d = c ∧ r = p.traversers.length ∨ r < p.traversers.length ∧ p.coordinators[d]? = some k := by
  rw [getElem?_modifyCoordinator] at hk
  split at hk
  · next hcd =>
    obtain ⟨l, -, rfl⟩ := Option.map_eq_some_iff.1 hk
    exact .inl ⟨hcd.symm, (Option.some.inj hr).symm⟩
  · exact .inr ⟨h.traverser_lt hk hr, hk⟩

/-- Where no two coordinators keep the same traverser, none do after one of them got a new one. -/
theorem Sourced.unshared_equip (h : p.Sourced)
    (hone : ∀ (d e : CoordinatorId) (l m : Coordinator) (r : TraverserId), p.coordinators[d]? = some l →
      p.coordinators[e]? = some m → l.traverser = some r → m.traverser = some r → d = e)
    {d e : CoordinatorId} {l m : Coordinator}
    (hl : (p.modifyCoordinator c fun l =>
      { l with traverser := some p.traversers.length }).coordinators[d]? = some l)
    (hm : (p.modifyCoordinator c fun l =>
      { l with traverser := some p.traversers.length }).coordinators[e]? = some m)
    (hlr : l.traverser = some r) (hmr : m.traverser = some r) : d = e := by
  rcases h.equipped hl hlr with ⟨hd, hnew⟩ | ⟨hold, hl⟩ <;>
    rcases h.equipped hm hmr with ⟨he, hnew'⟩ | ⟨hold', hm⟩
  · exact hd.trans he.symm
  · exact absurd hnew (Nat.ne_of_lt hold')
  · exact absurd hnew' (Nat.ne_of_lt hold)
  · exact hone d e l m r hl hm hlr hmr

/-- A new traverser is kept by one coordinator, and no batch was submitted for it. -/
theorem equip_reserved (h : p.Reserved lost) (hp : p.Sourced) (c : CoordinatorId)
    (hnone : k.traverser = none) : (p.traverserFor c k).2.Reserved lost := by
  rcases traverserFor_cases p c hnone with ⟨e, he⟩ | ⟨config, adapter, -, -, he⟩ <;> rw [he]
  · exact h
  · set q : Scheduler :=
      { p.modifyCoordinator c fun l => { l with traverser := some p.traversers.length } with
        traversers := p.traversers ++ [{ connector := k.name, config, adapter }]
        journal := p.journal ++ [.instantiated p.traversers.length k.name config] }
    have hspent (t : TaskId) (hs : p.Spent t) : q.Spent t :=
      hs.of_curbs (.refl p.pool) (List.subset_append_left ..)
    refine ⟨fun _ _ _ _ _ => hp.unshared_equip h.unshared, fun d e l r t hl hr ht => ?_,
      fun t u d e r ht hu hlt => (h.ordered t u d e r ht hu hlt).imp_left (hspent t)⟩
    rcases hp.equipped hl hr with ⟨-, hnew⟩ | ⟨-, hl⟩
    · exact absurd hnew (Nat.ne_of_lt (hp.post_lt ht))
    · exact (h.kept d e l r t hl hr ht).imp_right (.imp_left (hspent t))

/-- What a submission for a traverser does to the batches of the traversers: the new one is in flight on
it, and everything else is as it was. -/
structure Assigns (p q : Scheduler) (c : CoordinatorId) (r : TraverserId) (new : TaskId) : Prop where
  post? : ∀ t, q.post? t = if t = new then some (c, r) else p.post? t
  earlier : ∀ t x, p.post? t = some x → t < new
  spent : ∀ t, t ≠ new → p.Spent t → q.Spent t
  coordinators : ∀ (d : CoordinatorId) (l' : Coordinator), q.coordinators[d]? = some l' →
    ∃ l, p.coordinators[d]? = some l ∧ l'.traverser = l.traverser ∧
      (d = c ∧ l'.handle = some new ∨ d ≠ c ∧ l' = l)

/-- A submission assigns a batch, unless the pool is shut down: then only the generation moves on. -/
theorem submit_assigns (p : Scheduler) (c : CoordinatorId) (k : Coordinator) (r : TraverserId)
    (maxItems : Nat) (metered : Bool) :
    ((p.submit c k r maxItems metered).2 =
      p.modifyCoordinator c fun l => { l with generation := k.generation + 1 }) ∨
    ∃ new, p.Assigns (p.submit c k r maxItems metered).2 c r new := by
  rcases p.submit_cases c k r maxItems metered with he | ⟨new, pool, hsubmit, he⟩ <;> rw [he]
  · exact .inl rfl
  · refine .inr ⟨new, fun t => ?_, fun t x ht => ?_, fun t hne hs => ?_, fun d l' hl' => ?_⟩
    · rw [Scheduler.post?, batch?, Pool.payload?_submit hsubmit]
      split <;> rfl
    · rw [(Pool.submit_eq_some hsubmit).1]
      exact lt_of_post? ht
    · exact hs.of_spares (Pool.spares_submit hsubmit hne) (List.subset_append_left ..)
    · have hget := getElem?_modifyCoordinator p c d fun l =>
        { l with generation := k.generation + 1, handle := some new }
      split at hget
      · next hcd =>
        obtain ⟨l, hl, rfl⟩ := Option.map_eq_some_iff.1 (hget.symm.trans hl')
        exact ⟨l, hl, rfl, .inl ⟨hcd.symm, rfl⟩⟩
      · next hcd => exact ⟨l', hget.symm.trans hl', rfl, .inr ⟨Ne.symm hcd, rfl⟩⟩

/-- A coordinator that has no batch in flight is assigned one for its traverser: those before it are spent
or lost. -/
theorem Reserved.of_assigns (h : p.Reserved lost) (hk : p.coordinators[c]? = some k)
    (hidle : k.handle = none) (htr : k.traverser = some r) {new : TaskId} (ha : p.Assigns q c r new) :
    q.Reserved lost := by
  have hbefore {t : TaskId} {d : CoordinatorId} (ht : p.post? t = some (d, r)) :
      p.Spent t ∨ lost t := by
    rcases h.kept c d k r t hk htr ht with hh | hs
    · rw [hidle] at hh
      cases hh
    · exact hs
  refine ⟨fun d e l' m' x hl' hm' hlx hmx => ?_, fun d e l' x t hl' hlx ht => ?_,
    fun t u d e x ht hu hlt => ?_⟩
  · obtain ⟨l, hl, hsame, -⟩ := ha.coordinators d l' hl'
    obtain ⟨m, hm, hsame', -⟩ := ha.coordinators e m' hm'
    exact h.unshared d e l m x hl hm (hsame ▸ hlx) (hsame' ▸ hmx)
  · obtain ⟨l, hl, hsame, hwhich⟩ := ha.coordinators d l' hl'
    rw [hsame] at hlx
    rw [ha.post?] at ht
    split at ht
    · next hnewest =>
      cases ht
      rcases hwhich with ⟨-, hh⟩ | ⟨hdc, -⟩
      · exact .inl (hh.trans (congrArg some hnewest.symm))
      · exact absurd (h.unshared d c l k r hl hk hlx htr) hdc
    · next hne =>
      rcases h.kept d e l x t hl hlx ht with hh | hs | hx
      · rcases hwhich with ⟨rfl, -⟩ | ⟨-, rfl⟩
        · cases hk.symm.trans hl
          rw [hidle] at hh
          cases hh
        · exact .inl hh
      · exact .inr (.inl (ha.spent t hne hs))
      · exact .inr (.inr hx)
  · rw [ha.post?] at ht hu
    split at ht
    · next hnewest =>
      split at hu
      · next hnewest' => exact absurd (hnewest.trans hnewest'.symm) (Nat.ne_of_lt hlt)
      · exact absurd (ha.earlier u _ hu) (Nat.not_lt.2 (Nat.le_of_lt (hnewest ▸ hlt)))
    · next hne =>
      refine Or.imp_left (ha.spent t hne) ?_
      split at hu
      · cases hu
        exact hbefore ht
      · exact h.ordered t u d e x ht hu hlt

theorem submit_reserved (h : p.Reserved lost) (hk : p.coordinators[c]? = some k)
    (hidle : k.handle = none) (htr : k.traverser = some r) (maxItems : Nat) (metered : Bool) :
    (p.submit c k r maxItems metered).2.Reserved lost := by
  rcases p.submit_assigns c k r maxItems metered with he | ⟨new, ha⟩
  · rw [he]
    have hsame (l : Coordinator) : l.Passes { l with generation := k.generation + 1 } :=
      .of_same rfl rfl rfl rfl
    refine h.of_relays (.modify (fun _ => rfl) (fun _ => rfl) rfl (fun l _ => hsame l) fun _ => id)
      (fun _ => id) (fun t hs => hs.of_curbs (.refl p.pool) fun _ => id)
      fun d l l' t r hl hl' hh _ _ => .inl ?_
    have hget := getElem?_modifyCoordinator p c d fun l => { l with generation := k.generation + 1 }
    rw [hl] at hget
    split at hget
    · cases hget.symm.trans hl'
      exact hh
    · cases hget.symm.trans hl'
      exact hh
  · exact h.of_assigns hk hidle htr ha

end Scheduler

/-! ## Upkeep and turns -/

namespace Site

open Scheduler

variable {s s' : Site} {t u : TaskId} {c : CoordinatorId} {k k' : Coordinator} {lost : TaskId → Prop}

/-- Upkeep keeps the traversers reserved. -/
theorem Upkeep.reserved (h : Upkeep s s') (hp : s.scheduler.Sourced)
    (hr : s.scheduler.Reserved lost) : s'.scheduler.Reserved lost := by
  have hsame {q : Scheduler} (hc : s.scheduler.pool.Curbs q.pool)
      (ht : q.traversers = s.scheduler.traversers) (hk : q.coordinators = s.scheduler.coordinators)
      (hj : q.journal = s.scheduler.journal) : q.Reserved lost := by
    refine hr.of_relays (.same ht (post?_curbs hc) hk fun _ ho => hj ▸ ho) (fun _ => id)
      (fun t hs => hs.of_curbs hc fun _ ho => hj ▸ ho) fun c k k' t r hck hck' hh _ _ => ?_
    rw [hk] at hck'
    cases hck.symm.trans hck'
    exact .inl hh
  cases h with
  | backOff | hint | measure => exact hsame (.refl _) rfl rfl rfl
  | curb hc => exact hsame hc rfl rfl rfl
  | equip _ _ hnone => exact equip_reserved hr hp _ hnone
  | submit maxItems metered hk _ hidle htr => exact submit_reserved hr hk hidle htr maxItems metered
  | @giveUp c k t hk =>
    have hpass (l : Coordinator) : l.Passes l.givenUp := ⟨rfl, .inl rfl, .inl rfl⟩
    refine hr.of_relays (.modify (fun _ => rfl) (fun _ => rfl) rfl (fun l _ => hpass l) fun _ => id)
      (fun _ => id) (fun t hs => hs.of_curbs (.refl _) fun _ => id)
      fun d l l' t r hl hl' hh _ hr' => .inl ?_
    have hget := getElem?_modifyCoordinator s.scheduler c d .givenUp
    rw [hl] at hget
    split at hget <;> cases hget.symm.trans hl'
    · cases hr'
    · exact hh

theorem Upkeeps.sourced (h : Upkeeps s s') (hp : s.scheduler.Sourced) :
    s.scheduler.Precedes s'.scheduler ∧ s'.scheduler.Sourced := by
  induction h with
  | refl => exact ⟨.refl _, hp⟩
  | tail _ h ih =>
    obtain ⟨hprec, hs⟩ := h.sourced ih.2
    exact ⟨ih.1.trans hprec, hs⟩

theorem Upkeeps.reserved (h : Upkeeps s s') (hp : s.scheduler.Sourced)
    (hr : s.scheduler.Reserved lost) : s'.scheduler.Reserved lost := by
  induction h with
  | refl => exact hr
  | tail h₀ h ih => exact h.reserved (Upkeeps.sourced h₀ hp).2 ih

/-- A batch that is spent has no more turns. -/
theorem Turn.not_spent (h : Turn t s s') : ¬ s.scheduler.Spent t := by
  have hx (hx : s.scheduler.pool.isExecuting t) : ¬ s.scheduler.Spent t
    | .inl ⟨⟨_, hr⟩, _⟩ => hr.2.2 hx
    | .inr hd => hd.2.2 hx
  cases h with
  | take h =>
    obtain ⟨rest, hq, -⟩ := Pool.take?_eq_some h
    have hmem : t ∈ s.scheduler.pool.queue := hq ▸ List.mem_cons_self
    rintro (⟨⟨_, hr⟩, -⟩ | hd)
    · exact hr.2.1 hmem
    · exact hd.2.1 hmem
  | answer a hb hst =>
    have hstage := stage?_of_batch? hb
    rw [hst] at hstage
    rintro (⟨⟨_, hr⟩, -⟩ | hd)
    · cases hstage.symm.trans hr.1
    · cases hstage.symm.trans hd.1
  | move h | crash h | retire h | choke h | count h | settle h => exact hx h

/-- A turn leaves spent batches spent. -/
theorem Turn.spent (h : Turn u s s') (hs : s.scheduler.Spent t) : s'.scheduler.Spent t := by
  have hne : t ≠ u := by
    rintro rfl
    exact h.not_spent hs
  exact hs.of_spares (h.spares hne) h.relays.journal

/-- A coordinator keeps its batch in flight through a turn, or the batch has reported by it. -/
theorem Turn.handle (h : Turn u s s') (hf : s.scheduler.Flight)
    (hk : s.scheduler.coordinators[c]? = some k) (hk' : s'.scheduler.coordinators[c]? = some k')
    (hh : k.handle = some t) : k'.handle = some t ∨ s'.scheduler.Reported t := by
  cases h with
  | take | answer | crash | retire | choke | count =>
    cases hk.symm.trans hk'
    exact .inl hh
  | @move b l r =>
    have hsame : (((s.moved u b ⟨r, l.cell, s.backend⟩).scheduler.coordinators[c]?).map (·.handle)) =
        (s.scheduler.coordinators[c]?).map (·.handle) := map_modify_coordinator (by intro _ _; rfl) c
    rw [hk, hk', Option.map_some, Option.map_some, Option.some.injEq] at hsame
    exact .inl (hsame.trans hh)
  | @settle b l code hx hb hst hl _ _ hcur =>
    have hgone (disabled : Option Schedule) {q : Scheduler}
        (hpool : q.pool = s.scheduler.pool.finish u)
        (hc : q.coordinators = s.scheduler.coordinators.modify b.coordinator (.settled disabled))
        (hj : .folded u l.name (BatchResult.ofCode code).count ∈ q.journal)
        (hq : q.coordinators[c]? = some k') : k'.handle = some t ∨ q.Reported t := by
      by_cases hbc : b.coordinator = c
      · -- the batch that reports is the one in flight
        subst hbc
        cases hk.symm.trans hl
        have htu : t = u := by
          have ho := hf.handled _ k t hk hh
          rw [← hcur] at ho
          exact hf.distinct t u _ _ ho (order?_of_batch? hb)
        subst htu
        exact .inr ⟨⟨code, hf.returnedWith_finish hx hb hst hpool⟩, folds_ne_nil hj⟩
      · have hget := getElem?_modifyCoordinator s.scheduler b.coordinator c (.settled disabled)
        rw [if_neg hbc] at hget
        rw [hc] at hq
        cases hk.symm.trans (hget.symm.trans hq)
        exact .inl hh
    rcases settleBatch_cases (s.counted u l (BatchResult.ofCode code).count) u b l (.ofCode code) with
      ⟨-, he⟩ | ⟨-, disabled, -, he⟩ <;> rw [he] at hk' ⊢
    · exact hgone none rfl rfl (List.mem_append_right _ (List.mem_singleton_self _)) hk'
    · refine hgone disabled rfl rfl (List.mem_append_left _ ?_) hk'
      exact List.mem_append_right _ (List.mem_singleton_self _)

/-- A turn of a batch keeps the traversers reserved. -/
theorem Turn.reserved (h : Turn u s s') (hf : s.scheduler.Flight) (hr : s.scheduler.Reserved lost) :
    s'.scheduler.Reserved lost :=
  hr.of_relays h.relays (fun _ => id) (fun _ => h.spent) fun _ _ _ _ _ hk hk' hh _ _ =>
    (h.handle hf hk hk' hh).imp_right fun hrep => .inl (.inl hrep)

theorem Turns.reserved (h : Turns u s s') (hf : s.scheduler.Flight)
    (hr : s.scheduler.Reserved lost) : s'.scheduler.Reserved lost := by
  induction h with
  | refl => exact hr
  | tail h₀ h ih => exact h.reserved ((Turns.moves h₀).flight hf) ih

theorem Turns.sourced (h : Turns u s s') (hp : s.scheduler.Sourced) : s'.scheduler.Sourced := by
  induction h with
  | refl => exact hp
  | tail _ h ih => exact h.relays.sourced ih

/-- Whatever a process does, everything stays sourced. -/
theorem act_sourced (hr : s.scheduler.Registered) (hp : s.scheduler.Sourced) (a : Action) :
    (s.act a).scheduler.Sourced := by
  rcases act_kinds s a with rfl | ha | h | ⟨u, h⟩
  · exact (detect_trims hr).relays.sourced hp
  · exact (call_trims hr ha).relays.sourced hp
  · exact (Upkeeps.sourced h hp).2
  · exact Turns.sourced h hp

/-- Whatever a process does, its traversers stay reserved, but for the batches that a call or a detection
forsakes. -/
theorem act_reserved (hf : s.scheduler.Flight) (hreg : s.scheduler.Registered) (hp : s.scheduler.Sourced)
    (hr : s.scheduler.Reserved lost) (a : Action) (hf' : (s.act a).scheduler.Flight) :
    (s.act a).scheduler.Reserved fun t =>
      lost t ∨ (a = .detect ∨ a.IsCall) ∧ s.scheduler.Forsakes (s.act a).scheduler t := by
  rcases act_kinds s a with rfl | ha | h | ⟨u, h⟩
  · exact (hr.of_trims (detect_trims hreg) hf hf').mono fun _ => .imp_right fun h => ⟨.inl rfl, h⟩
  · exact (hr.of_trims (call_trims hreg ha) hf hf').mono fun _ => .imp_right fun h => ⟨.inr ha, h⟩
  · exact (Upkeeps.reserved h hp hr).mono fun _ => .inl
  · exact (Turns.reserved h hf hr).mono fun _ => .inl

end Site

end BatchTraversal
