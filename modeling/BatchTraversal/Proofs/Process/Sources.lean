import BatchTraversal.Proofs.Process.Accounts

/-!
# What batches run on

A traverser is made for one connector from one configuration (`Scheduler.source?`), and a batch runs on
the traverser it was submitted for. What a coordinator keeps a traverser or a batch in flight for is
always the configuration it has now (`Scheduler.Sourced`): whatever replaces the configuration takes away
both. An operation that neither makes a traverser nor submits a batch only relays what was there
(`Scheduler.Relays`), and nothing that happens changes what an earlier batch runs on or opens it again
(`Scheduler.Precedes`).
-/

namespace BatchTraversal

/-- Whether a coordinator keeps its name, and its configuration as far as it keeps what runs on it. -/
structure Coordinator.Passes (k k' : Coordinator) : Prop where
  name : k'.name = k.name
  traverser : k'.traverser = none ∨ k'.traverser = k.traverser ∧ k'.config = k.config
  handle : k'.handle = none ∨ k'.handle = k.handle ∧ k'.config = k.config

/-- A coordinator that keeps name, traverser, batch and configuration passes all of it on. -/
theorem Coordinator.Passes.of_same {k k' : Coordinator} (hn : k'.name = k.name)
    (ht : k'.traverser = k.traverser) (hh : k'.handle = k.handle) (hc : k'.config = k.config) :
    k.Passes k' := ⟨hn, .inr ⟨ht, hc⟩, .inr ⟨hh, hc⟩⟩

namespace Scheduler

/-- The connector a traverser was made for, and the configuration it was made from. -/
def source? (p : Scheduler) (r : TraverserId) : Option (String × ConnectorConfig) :=
  (p.traversers[r]?).map fun r => (r.connector, r.config)

/-- The coordinator a batch was submitted for, and the traverser it runs on. -/
def post? (p : Scheduler) (t : TaskId) : Option (CoordinatorId × TraverserId) :=
  (p.batch? t).map fun b => (b.coordinator, b.traverser)

/-- What the traverser of a batch was made for and from. -/
def origin? (p : Scheduler) (t : TaskId) : Option (String × ConnectorConfig) :=
  (p.post? t).bind fun post => p.source? post.2

/-- Whether what a coordinator keeps runs on the configuration it has. -/
structure Fits (p : Scheduler) (k : Coordinator) : Prop where
  traverser : ∀ r, k.traverser = some r →
    ∃ config, k.config = some config ∧ p.source? r = some (k.name, config)
  handle : ∀ t, k.handle = some t →
    ∃ config, k.config = some config ∧ p.origin? t = some (k.name, config)

/-- Whether what the coordinators keep runs on the configurations they have, every batch runs on a
traverser that was made for the connector of its coordinator, and the journal tells what the traversers
were made from. -/
structure Sourced (p : Scheduler) : Prop where
  fits : ∀ (c : CoordinatorId) (k : Coordinator), p.coordinators[c]? = some k → p.Fits k
  posted : ∀ t c r, p.post? t = some (c, r) →
    ∃ k config, p.coordinators[c]? = some k ∧ p.source? r = some (k.name, config)
  recorded : ∀ r name config, p.source? r = some (name, config) →
    .instantiated r name config ∈ p.journal

/-- What an operation does that neither makes a traverser nor submits a batch. -/
structure Relays (p q : Scheduler) : Prop where
  source? : ∀ r, q.source? r = p.source? r
  post? : ∀ t, q.post? t = p.post? t
  coordinators : ∀ (c : CoordinatorId) (k' : Coordinator), q.coordinators[c]? = some k' →
    k'.traverser = none ∧ k'.handle = none ∨ ∃ k, p.coordinators[c]? = some k ∧ k.Passes k'
  names : ∀ (c : CoordinatorId) (k : Coordinator), p.coordinators[c]? = some k →
    ∃ k', q.coordinators[c]? = some k' ∧ k'.name = k.name
  journal : p.journal ⊆ q.journal

/-- Whether the traversers and the batches of `p` are in `q` what they were, and none of these batches is
open in `q` that was not. -/
structure Precedes (p q : Scheduler) : Prop where
  source? : ∀ r x, p.source? r = some x → q.source? r = some x
  post? : ∀ t x, p.post? t = some x → q.post? t = some x
  isOpen : ∀ t x, p.post? t = some x → q.pool.Open t → p.pool.Open t

variable {p q r : Scheduler} {t : TaskId} {c : CoordinatorId} {k : Coordinator}

/-- A batch is posted to its coordinator and its traverser. -/
theorem post?_of_batch? {b : Batch} (h : p.batch? t = some b) :
    p.post? t = some (b.coordinator, b.traverser) := by
  rw [post?, h]
  rfl

theorem post?_eq_none : p.post? t = none ↔ p.batch? t = none := Option.map_eq_none_iff

/-- A batch comes from the connector and the configuration of its traverser. -/
theorem origin?_eq_some {x : String × ConnectorConfig} :
    p.origin? t = some x ↔ ∃ c r, p.post? t = some (c, r) ∧ p.source? r = some x := by
  rw [origin?, Option.bind_eq_some_iff]
  exact ⟨fun ⟨⟨c, r⟩, hp, hs⟩ => ⟨c, r, hp, hs⟩, fun ⟨c, r, hp, hs⟩ => ⟨(c, r), hp, hs⟩⟩

/-- Only a task that was submitted has a post. -/
theorem lt_of_post? {x : CoordinatorId × TraverserId} (h : p.post? t = some x) :
    t < p.pool.tasks.length := by
  obtain ⟨b, hb, -⟩ := Option.map_eq_some_iff.1 h
  exact lt_of_order? (order?_of_batch? hb)

/-- A batch runs on something that was made for the connector of its coordinator. -/
theorem Sourced.origin (h : p.Sourced) {b : Batch} (hb : p.batch? t = some b) :
    ∃ k config, p.coordinators[b.coordinator]? = some k ∧ p.origin? t = some (k.name, config) := by
  obtain ⟨k, config, hk, hs⟩ := h.posted t _ _ (post?_of_batch? hb)
  exact ⟨k, config, hk, origin?_eq_some.2 ⟨_, _, post?_of_batch? hb, hs⟩⟩

/-- A process that has just started has no coordinators and no traversers. -/
theorem sourced_start (h : ∃ settings pool kinds, Scheduler.start settings pool kinds = .ok p) :
    p.Sourced := by
  obtain ⟨-, hstage⟩ := journal_start h
  have hpost (t : TaskId) : p.post? t = none := by
    rw [post?_eq_none]
    exact Option.map_eq_none_iff.1 (hstage t)
  obtain ⟨settings, pool, kinds, h⟩ := h
  obtain ⟨-, rfl⟩ := start_eq_ok h
  exact ⟨fun c k hk => (by cases hk), fun t c r ht => (by rw [hpost t] at ht; cases ht),
    fun r name config hr => (by cases hr)⟩

/-! ## What precedes -/

theorem Precedes.refl (p : Scheduler) : p.Precedes p := ⟨fun _ _ => id, fun _ _ => id, fun _ _ _ => id⟩

/-- An earlier state precedes whatever a later one precedes. -/
theorem Precedes.trans (h : p.Precedes q) (h' : q.Precedes r) : p.Precedes r :=
  ⟨fun t x hx => h'.source? t x (h.source? t x hx), fun t x hx => h'.post? t x (h.post? t x hx),
    fun t x hx ho => h.isOpen t x hx (h'.isOpen t x (h.post? t x hx) ho)⟩

/-- A batch comes from where it came from, at every later moment. -/
theorem Precedes.origin? (h : p.Precedes q) {x : String × ConnectorConfig}
    (hx : p.origin? t = some x) : q.origin? t = some x := by
  obtain ⟨c, r, hp, hs⟩ := origin?_eq_some.1 hx
  exact origin?_eq_some.2 ⟨c, r, h.post? t _ hp, h.source? r x hs⟩

/-- A batch that was there has the origin it had. -/
theorem Precedes.origin?_eq (h : p.Precedes q) (hp : p.Sourced) {stage : RunStage}
    (hs : p.stage? t = some stage) : q.origin? t = p.origin? t := by
  obtain ⟨b, hb, -⟩ := Option.map_eq_some_iff.1 hs
  obtain ⟨k, config, -, ho⟩ := hp.origin hb
  rw [ho, h.origin? ho]

/-- Where nothing is made or submitted, every batch comes from where it came from. -/
theorem Relays.origin? (h : p.Relays q) (t : TaskId) : q.origin? t = p.origin? t := by
  rw [Scheduler.origin?, Scheduler.origin?, h.post? t]
  exact congrArg _ (funext fun post => h.source? post.2)

/-- A coordinator that keeps a traverser after what relays kept it before. -/
theorem Relays.traverser (h : p.Relays q) {k' : Coordinator} {r : TraverserId}
    (hk' : q.coordinators[c]? = some k') (htr : k'.traverser = some r) :
    ∃ k, p.coordinators[c]? = some k ∧ k.traverser = some r := by
  rcases h.coordinators c k' hk' with ⟨hnone, -⟩ | ⟨k, hk, hpass⟩
  · rw [hnone] at htr
    cases htr
  · refine ⟨k, hk, hpass.traverser.elim (fun hnone => ?_) fun hsame => hsame.1.symm.trans htr⟩
    rw [hnone] at htr
    cases htr

/-- What makes and submits nothing precedes, unless it opens a batch again. -/
theorem Relays.precedes (h : p.Relays q) (ho : ∀ t, q.pool.Open t → p.pool.Open t) : p.Precedes q :=
  ⟨fun r _ hx => (h.source? r).trans hx, fun t _ hx => (h.post? t).trans hx, fun t _ _ => ho t⟩

/-! ## What relays -/

/-- What keeps traversers and batches and changes one coordinator in passing relays. -/
theorem Relays.modify (hs : ∀ r, q.source? r = p.source? r) (hp : ∀ t, q.post? t = p.post? t)
    {f : Coordinator → Coordinator} (hc : q.coordinators = p.coordinators.modify c f)
    (hf : ∀ k, p.coordinators[c]? = some k → k.Passes (f k)) (hj : p.journal ⊆ q.journal) :
    p.Relays q := by
  have hget (d : CoordinatorId) : q.coordinators[d]? =
      if c = d then p.coordinators[d]?.map f else p.coordinators[d]? := by
    rw [hc]
    exact getElem?_modifyCoordinator p c d f
  refine ⟨hs, hp, fun d k' hk' => .inr ?_, fun d k hk => ?_, hj⟩
  · rw [hget] at hk'
    split at hk'
    · next hcd =>
      subst hcd
      obtain ⟨k, hk, rfl⟩ := Option.map_eq_some_iff.1 hk'
      exact ⟨k, hk, hf k hk⟩
    · exact ⟨k', hk', .of_same rfl rfl rfl rfl⟩
  · rw [hget, hk]
    split
    · next hcd => exact ⟨f k, rfl, (hf k (hcd ▸ hk)).name⟩
    · exact ⟨k, rfl, rfl⟩

/-- A process with the same coordinators, traversers and batches has relayed them. -/
theorem Relays.same (hs : q.traversers = p.traversers) (hp : ∀ t, q.post? t = p.post? t)
    (hc : q.coordinators = p.coordinators) (hj : p.journal ⊆ q.journal) : p.Relays q :=
  .modify (c := 0) (f := id) (fun r => by rw [Scheduler.source?, Scheduler.source?, hs]) hp
    (by rw [hc, List.modify_id]) (fun _ _ => .of_same rfl rfl rfl rfl) hj

/-- What relays keeps everything sourced. -/
theorem Relays.sourced (h : p.Relays q) (hp : p.Sourced) : q.Sourced := by
  refine ⟨fun c k' hk' => ?_, fun t c r ht => ?_, fun r name config hr => ?_⟩
  · rcases h.coordinators c k' hk' with ⟨hr, ht⟩ | ⟨k, hk, hpass⟩
    · refine ⟨fun r e => ?_, fun t e => ?_⟩
      · rw [hr] at e
        cases e
      · rw [ht] at e
        cases e
    · have hfits := hp.fits c k hk
      refine ⟨fun r e => ?_, fun t e => ?_⟩
      · obtain hnone | ⟨hsame, hconfig⟩ := hpass.traverser
        · rw [hnone] at e
          cases e
        · rw [hconfig, hpass.name, h.source? r]
          exact hfits.traverser r (hsame ▸ e)
      · obtain hnone | ⟨hsame, hconfig⟩ := hpass.handle
        · rw [hnone] at e
          cases e
        · rw [hconfig, hpass.name, h.origin? t]
          exact hfits.handle t (hsame ▸ e)
  · obtain ⟨k, config, hk, hs⟩ := hp.posted t c r ((h.post? t).symm.trans ht)
    obtain ⟨k', hk', hname⟩ := h.names c k hk
    exact ⟨k', config, hk', by rw [h.source?, hs, hname]⟩
  · exact h.journal (hp.recorded r name config ((h.source? r).symm.trans hr))

/-- A curbed pool has every batch at its post. -/
theorem post?_curbs (h : p.pool.Curbs q.pool) (t : TaskId) : q.post? t = p.post? t :=
  congrArg (Option.map fun b : Batch => (b.coordinator, b.traverser)) (h.payload? t)

/-- A batch that has ended keeps its post. -/
theorem post?_finish {u : TaskId} (hq : q.pool = p.pool.finish u) (t : TaskId) :
    q.post? t = p.post? t := by
  rw [post?, post?, batch?, batch?, hq]
  exact congrArg _ (Pool.payload?_markDone p.pool u t)

/-- A batch whose run goes on keeps its post. -/
theorem post?_withStage {u : TaskId} {stage : RunStage} (hq : q.pool = (p.withStage u stage).pool)
    (t : TaskId) : q.post? t = p.post? t := by
  have hbatch : q.batch? t = (p.withStage u stage).batch? t := by rw [batch?, batch?, hq]
  rw [post?, hbatch, batch?_withStage]
  split
  · exact Option.map_map ..
  · rfl

/-- A traverser that is replaced by one that was made for and from the same is the same source. -/
theorem source?_set {i : TraverserId} {l l' : Traverser} (hl : p.traversers[i]? = some l)
    (hq : q.traversers = p.traversers.set i l') (hn : l'.connector = l.connector)
    (hc : l'.config = l.config) (r : TraverserId) : q.source? r = p.source? r := by
  rw [source?, source?, hq, List.getElem?_set]
  split
  · next hir =>
    subst hir
    rw [if_pos (List.getElem?_eq_some_iff.1 hl).1, hl]
    simp [hn, hc]
  · rfl

/-- An interrupted coordinator hands on at most its traverser, and that with its configuration. -/
theorem relays_interrupt (hk : p.coordinators[c]? = some k) {f : Coordinator → Coordinator}
    (hf : (f k).name = k.name ∧
      ((f k).traverser = none ∨ (f k).traverser = k.traverser ∧ (f k).config = k.config)) :
    p.Relays (p.interrupt c f) := by
  have he := interrupt_eq hk f
  refine .modify (c := c) (f := .interrupted f) (fun r => ?_) (post?_curbs (curbs_interrupt hk f)) ?_
    (fun l hl => ?_) ?_
  · rw [he]
    rfl
  · rw [he]
    rfl
  · rw [hk] at hl
    cases hl
    exact ⟨hf.1, hf.2, .inl rfl⟩
  · rw [he]
    exact fun _ => id

/-- A new coordinator has neither a traverser nor a batch in flight. -/
theorem relays_enlist (p : Scheduler) (name : String) (config : ConnectorConfig) :
    p.Relays (p.enlist name config) := by
  refine ⟨fun _ => rfl, fun _ => rfl, fun c k' hk' => ?_,
    fun c k hk => ⟨k, getElem?_enlist hk, rfl⟩, fun _ => id⟩
  rcases enlist_cases hk' with hk | ⟨-, rfl⟩
  · exact .inr ⟨k', hk, .of_same rfl rfl rfl rfl⟩
  · exact .inl ⟨rfl, rfl⟩

/-! ## New traversers and new batches -/

/-- What a coordinator keeps goes on running on its configuration. -/
theorem Fits.mono (h : p.Fits k) (hprec : p.Precedes q) : q.Fits k where
  traverser r hr :=
    let ⟨config, hconfig, hs⟩ := h.traverser r hr
    ⟨config, hconfig, hprec.source? r _ hs⟩
  handle t ht :=
    let ⟨config, hconfig, ho⟩ := h.handle t ht
    ⟨config, hconfig, hprec.origin? ho⟩

/-- Everything stays sourced if one coordinator is changed so that it fits, under the same name, new
batches are batches of that coordinator, and what new traversers are made from is entered into the
journal. -/
theorem Sourced.modify (hp : p.Sourced) (hprec : p.Precedes q) (hk : p.coordinators[c]? = some k)
    {f : Coordinator → Coordinator} (hc : q.coordinators = p.coordinators.modify c f)
    (hname : ∀ l, (f l).name = l.name) (hfits : q.Fits (f k))
    (hpost : ∀ t x, q.post? t = some x → p.post? t = some x ∨
      x.1 = c ∧ ∃ config, q.source? x.2 = some (k.name, config))
    (hsource : ∀ r name config, q.source? r = some (name, config) →
      p.source? r = some (name, config) ∨ .instantiated r name config ∈ q.journal)
    (hj : p.journal ⊆ q.journal) : q.Sourced := by
  have hget (d : CoordinatorId) : q.coordinators[d]? =
      if c = d then p.coordinators[d]?.map f else p.coordinators[d]? := by
    rw [hc]
    exact getElem?_modifyCoordinator p c d f
  have hthere {d : CoordinatorId} {l : Coordinator} (hl : p.coordinators[d]? = some l) :
      ∃ l', q.coordinators[d]? = some l' ∧ l'.name = l.name := by
    rw [hget, hl]
    split
    · exact ⟨f l, rfl, hname l⟩
    · exact ⟨l, rfl, rfl⟩
  refine ⟨fun d l hl => ?_, fun t d r ht => ?_, fun r name config hr => ?_⟩
  · rw [hget] at hl
    split at hl
    · next hcd =>
      rw [← hcd, hk] at hl
      cases hl
      exact hfits
    · exact (hp.fits d l hl).mono hprec
  · rcases hpost t _ ht with ht | ⟨rfl, config, hs⟩
    · obtain ⟨l, config, hl, hs⟩ := hp.posted t d r ht
      obtain ⟨l', hl', hsame⟩ := hthere hl
      exact ⟨l', config, hl', hsame ▸ hprec.source? r _ hs⟩
    · obtain ⟨l', hl', hsame⟩ := hthere hk
      exact ⟨l', config, hl', hsame ▸ hs⟩
  · rcases hsource r name config hr with hr | hr
    · exact hj (hp.recorded r name config hr)
    · exact hr

/-- A coordinator that gets a traverser made from its configuration keeps everything sourced. -/
theorem equip_sourced (hp : p.Sourced) (hk : p.coordinators[c]? = some k) (hnone : k.traverser = none) :
    p.Precedes (p.traverserFor c k).2 ∧ (p.traverserFor c k).2.Sourced := by
  rcases traverserFor_cases p c hnone with ⟨e, he⟩ | ⟨config, adapter, hconfig, -, he⟩ <;> rw [he]
  · exact ⟨.refl p, hp⟩
  · set made : Traverser := { connector := k.name, config, adapter }
    set q : Scheduler :=
      { p.modifyCoordinator c fun l => { l with traverser := some p.traversers.length } with
        traversers := p.traversers ++ [made]
        journal := p.journal ++ [.instantiated p.traversers.length k.name config] }
    have hprec : p.Precedes q := by
      refine ⟨fun r x hx => ?_, fun _ _ => id, fun _ _ _ => id⟩
      obtain ⟨l, hl, rfl⟩ := Option.map_eq_some_iff.1 hx
      have hkept : (p.traversers ++ [made])[r]? = some l := by
        rw [List.getElem?_append_left (List.getElem?_eq_some_iff.1 hl).1, hl]
      exact Option.map_eq_some_iff.2 ⟨l, hkept, rfl⟩
    have hmade : q.source? p.traversers.length = some (k.name, config) :=
      Option.map_eq_some_iff.2 ⟨made, List.getElem?_concat_length, rfl⟩
    have hfits : q.Fits { k with traverser := some p.traversers.length } := by
      refine ⟨fun r hr => ?_, ((hp.fits c k hk).mono hprec).handle⟩
      cases hr
      exact ⟨config, hconfig, hmade⟩
    refine ⟨hprec, hp.modify hprec hk rfl (fun _ => rfl) hfits (fun _ _ => .inl)
      (fun r name x hr => ?_) (List.subset_append_left ..)⟩
    obtain ⟨l, hl, hx⟩ := Option.map_eq_some_iff.1 hr
    rcases getElem?_concat_cases hl with hl | ⟨rfl, rfl⟩
    · exact .inl (Option.map_eq_some_iff.2 ⟨l, hl, hx⟩)
    · cases hx
      exact .inr (List.mem_append_right _ (List.mem_singleton_self _))

/-- A coordinator that submits a batch for its traverser keeps everything sourced. -/
theorem submit_sourced (hp : p.Sourced) (hk : p.coordinators[c]? = some k) {r : TraverserId}
    (htr : k.traverser = some r) (maxItems : Nat) (metered : Bool) :
    p.Precedes (p.submit c k r maxItems metered).2 ∧
      (p.submit c k r maxItems metered).2.Sourced := by
  have hkfits := hp.fits c k hk
  obtain ⟨config, hconfig, hs⟩ := hkfits.traverser r htr
  rcases p.submit_cases c k r maxItems metered with he | ⟨t, pool, hsubmit, he⟩ <;> rw [he]
  · refine ⟨⟨fun _ _ => id, fun _ _ => id, fun _ _ _ => id⟩, Relays.sourced ?_ hp⟩
    refine .modify (fun _ => rfl) (fun _ => rfl) rfl (fun l hl => ?_) fun _ => id
    exact .of_same rfl rfl rfl rfl
  · set q : Scheduler :=
      { p.modifyCoordinator c fun l =>
          { l with generation := k.generation + 1, handle := some t } with
        pool
        journal := p.journal ++ [.submitted t k.name] }
    have hpost (u : TaskId) : q.post? u = if u = t then some (c, r) else p.post? u := by
      have hpay := Pool.payload?_submit hsubmit u
      rw [post?, batch?, show q.pool = pool from rfl, hpay]
      split <;> rfl
    have hold {u : TaskId} {x : CoordinatorId × TraverserId} (hu : p.post? u = some x) : u ≠ t :=
      Nat.ne_of_lt ((Pool.submit_eq_some hsubmit).1 ▸ lt_of_post? hu)
    have hprec : p.Precedes q :=
      ⟨fun _ _ => id, fun u x hx => (hpost u).trans ((if_neg (hold hx)).trans hx),
        fun u x hx => Pool.open_of_submit hsubmit (hold hx)⟩
    have hfits : q.Fits { k with generation := k.generation + 1, handle := some t } := by
      refine ⟨(hkfits.mono hprec).traverser, fun u hu => ?_⟩
      cases hu
      exact ⟨config, hconfig, origin?_eq_some.2 ⟨c, r, (hpost t).trans (if_pos rfl), hs⟩⟩
    refine ⟨hprec, hp.modify hprec hk rfl (fun _ => rfl) hfits (fun u x hx => ?_)
      (fun _ _ _ => .inl) (List.subset_append_left ..)⟩
    rw [hpost] at hx
    split at hx
    · cases hx
      exact .inr ⟨rfl, config, hs⟩
    · exact .inl hx

end Scheduler

/-! ## Chores and turns -/

namespace Site

variable {s s' : Site} {t : TaskId}

/-- What upkeep is made of keeps everything sourced, and what was there precedes it. -/
theorem Upkeep.sourced (h : Upkeep s s') (hp : s.scheduler.Sourced) :
    s.scheduler.Precedes s'.scheduler ∧ s'.scheduler.Sourced := by
  have hsame {q : Scheduler} (hr : s.scheduler.Relays q)
      (ho : ∀ t, q.pool.Open t → s.scheduler.pool.Open t) :
      s.scheduler.Precedes q ∧ q.Sourced := ⟨hr.precedes ho, hr.sourced hp⟩
  cases h with
  | backOff | hint | measure =>
    exact hsame (.same rfl (fun _ => rfl) rfl fun _ => id) fun _ => id
  | giveUp =>
    refine hsame (.modify (fun _ => rfl) (fun _ => rfl) rfl (fun l _ => ?_) fun _ => id) fun _ => id
    exact ⟨rfl, .inl rfl, .inl rfl⟩
  | equip hk _ hnone => exact Scheduler.equip_sourced hp hk hnone
  | submit maxItems metered hk _ _ htr => exact Scheduler.submit_sourced hp hk htr maxItems metered
  | curb hc => exact hsame (.same rfl (Scheduler.post?_curbs hc) rfl fun _ => id) fun _ => hc.isOpen

/-- A chore keeps everything sourced, and what was there precedes it. -/
theorem Chore.sourced (h : Chore s s') (hp : s.scheduler.Sourced) :
    s.scheduler.Precedes s'.scheduler ∧ s'.scheduler.Sourced := by
  have hsame {q : Scheduler} (hr : s.scheduler.Relays q) (hc : s.scheduler.pool.Curbs q.pool) :
      s.scheduler.Precedes q ∧ q.Sourced := ⟨hr.precedes fun _ => hc.isOpen, hr.sourced hp⟩
  cases h with
  | upkeep h => exact h.sourced hp
  | edit h =>
    cases h with
    | amend a _ hk =>
      refine hsame (Scheduler.relays_interrupt hk ⟨(a.apply_name_removed _).1, ?_⟩)
        (Scheduler.curbs_interrupt hk _)
      cases a with
      | configure | dropTraverser => exact .inl rfl
      | reschedule => exact .inr ⟨rfl, rfl⟩
    | enlist => exact hsame (Scheduler.relays_enlist ..) (.refl _)
    | @detach c k _ hk hlive =>
      have hr := Scheduler.relays_interrupt hk (f := fun k =>
        { k with removed := true, config := none, schedule := none, traverser := none }) ⟨rfl, .inl rfl⟩
      show s.scheduler.Precedes (s.scheduler.detach k.name c) ∧ (s.scheduler.detach k.name c).Sourced
      rw [Scheduler.detach_eq hk hlive]
      exact hsame ⟨hr.source?, hr.post?, hr.coordinators, hr.names, hr.journal⟩
        (Scheduler.curbs_interrupt hk _)
    | look | storeConfiguration | storeSchedule | removeTask =>
      exact hsame (.same rfl (fun _ => rfl) rfl fun _ => id) (.refl _)
    | clearCheckpoint hk =>
      refine hsame (.modify (fun _ => rfl) (fun _ => rfl) rfl (fun l hl => ?_) fun _ => id) (.refl _)
      rw [hk] at hl
      cases hl
      exact .of_same (CheckpointCell.connector_write _ _ _) rfl rfl rfl

/-- A turn of a batch relays. -/
theorem Turn.relays (h : Turn t s s') : s.scheduler.Relays s'.scheduler := by
  have hfinish {q : Scheduler} (hq : q.pool = s.scheduler.pool.finish t)
      (hr : q.traversers = s.scheduler.traversers) (hc : q.coordinators = s.scheduler.coordinators)
      (hj : s.scheduler.journal ⊆ q.journal) : s.scheduler.Relays q :=
    .same hr (Scheduler.post?_finish hq) hc hj
  cases h with
  | take h =>
    obtain ⟨rest, -, rfl⟩ := Pool.take?_eq_some h
    exact .same rfl (fun _ => rfl) rfl fun _ => id
  | @move b k r _ _ _ hk hr =>
    obtain ⟨hn, hc, -⟩ := RunStage.source_advance t (s.scheduler.pool.isTripped t)
      { traverser := r, cell := k.cell, backend := s.backend } b.stage
    refine .modify (Scheduler.source?_set hr rfl hn hc) (Scheduler.post?_withStage rfl) rfl
      (fun l hl => ?_) (List.subset_append_left ..)
    rw [hk] at hl
    cases hl
    exact .of_same (RunStage.connector_advance ..) rfl rfl rfl
  | @answer b r checkpoint a _ _ hr =>
    refine .modify (c := 0) (f := id) (Scheduler.source?_set hr rfl ?_ ?_)
      (Scheduler.post?_withStage rfl) (List.modify_id ..).symm (fun _ _ => .of_same rfl rfl rfl rfl)
      (List.subset_append_left ..)
    · cases a <;> rfl
    · cases a <;> rfl
  | crash | retire | choke => exact hfinish rfl rfl rfl fun _ => id
  | count => exact hfinish rfl rfl rfl (List.subset_append_left ..)
  | @settle b k code =>
    have hsettle {q : Scheduler} {disabled : Option Schedule}
        (hq : q.pool = s.scheduler.pool.finish t) (hr : q.traversers = s.scheduler.traversers)
        (hc : q.coordinators = s.scheduler.coordinators.modify b.coordinator (.settled disabled))
        (hj : s.scheduler.journal ⊆ q.journal) : s.scheduler.Relays q :=
      .modify (fun r => by rw [Scheduler.source?, Scheduler.source?, hr]) (Scheduler.post?_finish hq)
        hc (fun _ _ => ⟨rfl, .inr ⟨rfl, rfl⟩, .inl rfl⟩) hj
    rcases settleBatch_cases (s.counted t k (BatchResult.ofCode code).count) t b k (.ofCode code) with
      ⟨-, he⟩ | ⟨-, disabled, -, he⟩ <;> rw [he]
    · exact hsettle rfl rfl rfl (List.subset_append_left ..)
    · exact hsettle rfl rfl rfl
        fun o ho => List.mem_append_left _ (List.mem_append_left _ ho)

/-- A turn of a batch opens no other one. -/
theorem Turn.precedes (h : Turn t s s') (hf : s.scheduler.Flight) :
    s.scheduler.Precedes s'.scheduler := h.relays.precedes (h.tame hf).isOpen

end Site

end BatchTraversal
