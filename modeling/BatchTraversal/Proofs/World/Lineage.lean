import BatchTraversal.Proofs.Process.Sources
import BatchTraversal.Proofs.World.Alone

/-!
# How checkpoints are handed on

A process that is alone with its store goes from one moment to the next in steps, each of which hands the
checkpoints on (`Site.Hands`): what is stored afterwards was stored before, for the same configuration, or
a batch that runs on the stored configuration has saved it; and what a run waits with it waited with
before or found in the store. A call that replaces a configuration does so because it leaves no
checkpoint, a run because its batch is in flight when it saves one, so that it runs on the configuration
its coordinator has. Everything a process does is made of such steps (`Site.act_handsOn`).
-/

namespace BatchTraversal

/-- The batch by which a checkpoint of a connector was saved, and the checkpoint. -/
def Occurrence.savedFor? (name : String) : Occurrence → Option (TaskId × String)
  | saved t connector checkpoint => if connector = name then some (t, checkpoint) else none
  | _ => none

theorem Occurrence.savedFor?_eq_some {name checkpoint : String} {t : TaskId} {o : Occurrence} :
    o.savedFor? name = some (t, checkpoint) ↔ o = .saved t name checkpoint := by
  cases o with
  | saved =>
    simp only [savedFor?, saved.injEq]
    split <;> simp_all
  | _ => simp [savedFor?]

/-- Whether an occurrence is neither a call of an adapter nor a saved checkpoint. -/
def Occurrence.Aside : Occurrence → Prop
  | called .. | saved .. => False
  | _ => True

namespace Scheduler

/-- The checkpoints of a connector that were saved, each with the batch that saved it. -/
def savesFor (p : Scheduler) (name : String) : List (TaskId × String) :=
  p.journal.filterMap (·.savedFor? name)

/-- What is done to a process while no run in it reads a checkpoint, calls an adapter or saves a
checkpoint. -/
structure Rests (p q : Scheduler) : Prop where
  precedes : p.Precedes q
  journal : ∃ l, q.journal = p.journal ++ l ∧ ∀ o ∈ l, o.Aside
  waiting : ∀ t checkpoint, q.stage? t = some (.waiting checkpoint) →
    p.stage? t = some (.waiting checkpoint)

variable {p q r : Scheduler} {t : TaskId}

theorem Rests.refl (p : Scheduler) : p.Rests p :=
  ⟨.refl p, ⟨[], (List.append_nil _).symm, by simp⟩, fun _ _ => id⟩

theorem Rests.trans (h : p.Rests q) (h' : q.Rests r) : p.Rests r := by
  obtain ⟨l, hl, ha⟩ := h.journal
  obtain ⟨l', hl', ha'⟩ := h'.journal
  refine ⟨h.precedes.trans h'.precedes, ⟨l ++ l', by rw [hl', hl, List.append_assoc], fun o ho => ?_⟩,
    fun t checkpoint hs => h.waiting t checkpoint (h'.waiting t checkpoint hs)⟩
  exact (List.mem_append.1 ho).elim (ha o) (ha' o)

end Scheduler

namespace Site

/-- How the checkpoints after a step stem from those before it, with what the step enters into the
journal. -/
structure Hands (s s' : Site) (l : List Occurrence) : Prop where
  precedes : s.scheduler.Precedes s'.scheduler
  journal : s'.scheduler.journal = s.scheduler.journal ++ l
  origin : ∀ t stage, s.scheduler.stage? t = some stage →
    s'.scheduler.origin? t = s.scheduler.origin? t
  waiting : ∀ t checkpoint, s'.scheduler.stage? t = some (.waiting (some checkpoint)) →
    s.scheduler.stage? t = some (.waiting (some checkpoint)) ∨
      ∃ name config, s.scheduler.origin? t = some (name, config) ∧
        s.backend.store.checkpoint? name = some checkpoint
  called : ∀ t name maxItems checkpoint, .called t name maxItems (some checkpoint) ∈ l →
    s.scheduler.stage? t = some (.waiting (some checkpoint)) ∧
      ∃ config, s.scheduler.origin? t = some (name, config)
  saved : ∀ t name checkpoint, .saved t name checkpoint ∈ l →
    s.scheduler.pool.Open t ∧ ∃ config, s.scheduler.origin? t = some (name, config)
  stored : ∀ name checkpoint, s'.backend.store.checkpoint? name = some checkpoint →
    s.backend.store.checkpoint? name = some checkpoint ∧
        s'.backend.store.configuration? name = s.backend.store.configuration? name ∧
        l.filterMap (·.savedFor? name) = [] ∨
      ∃ t config, l.filterMap (·.savedFor? name) = [(t, checkpoint)] ∧
        s'.backend.store.configuration? name = some config ∧
        s.scheduler.origin? t = some (name, config)

variable {s s' : Site} {t : TaskId} {l : List Occurrence}

/-! ## Steps in which no run has a part -/

/-- While no run has a part, what is stored afterwards has to have been stored before. -/
theorem Hands.of_rests (hp : s.scheduler.Sourced) (h : s.scheduler.Rests s'.scheduler)
    (hstored : ∀ name checkpoint, s'.backend.store.checkpoint? name = some checkpoint →
      s.backend.store.checkpoint? name = some checkpoint ∧
        s'.backend.store.configuration? name = s.backend.store.configuration? name) :
    ∃ l, Hands s s' l := by
  obtain ⟨l, hl, haside⟩ := h.journal
  refine ⟨l, h.precedes, hl, fun t stage => h.precedes.origin?_eq hp,
    fun t checkpoint hs => .inl (h.waiting t _ hs),
    fun t name maxItems checkpoint ho => (haside _ ho).elim,
    fun t name checkpoint ho => (haside _ ho).elim, fun name checkpoint hc => .inl ?_⟩
  refine ⟨(hstored name checkpoint hc).1, (hstored name checkpoint hc).2, ?_⟩
  refine List.filterMap_eq_nil_iff.2 fun o ho => ?_
  have ha := haside o ho
  cases o with
  | called | saved => cases ha
  | _ => rfl

theorem Chore.rests (h : Chore s s') (hp : s.scheduler.Sourced) :
    s.scheduler.Rests s'.scheduler := by
  obtain ⟨l, hl, ho⟩ := h.journal
  refine ⟨(h.sourced hp).1, ⟨l, hl, fun o hmem => ?_⟩, fun t checkpoint hs => ?_⟩
  · rcases ho o hmem with ⟨_, _, _, rfl⟩ | ⟨_, _, rfl⟩ <;> trivial
  · rcases h.stage? t with he | he <;> rw [he] at hs
    · exact hs
    · cases hs

theorem Chores.rests (h : Chores s s') (hp : s.scheduler.Sourced) :
    s.scheduler.Rests s'.scheduler ∧ s'.scheduler.Sourced := by
  induction h with
  | refl => exact ⟨.refl _, hp⟩
  | tail _ h ih => exact ⟨ih.1.trans (h.rests ih.2), (h.sourced ih.2).2⟩

/-- A call on a connector leaves what is stored of the others, and no checkpoint of this one that was not
stored for the same configuration. -/
theorem Sets.stored {name : String} {k : Option Coordinator} {st : Store} (hs : s.Sets name k st s')
    (hothers : ∀ other, other ≠ name → st.task other = s.backend.store.task other)
    (hname : st.checkpoint? name = none ∨
      st.checkpoint? name = s.backend.store.checkpoint? name ∧
        st.configuration? name = s.backend.store.configuration? name)
    {other checkpoint : String} (hc : s'.backend.store.checkpoint? other = some checkpoint) :
    s.backend.store.checkpoint? other = some checkpoint ∧
      s'.backend.store.configuration? other = s.backend.store.configuration? other := by
  rw [hs.store] at hc ⊢
  by_cases ho : other = name
  · subst ho
    rcases hname with hnone | ⟨hsame, hconfig⟩
    · rw [hnone] at hc
      cases hc
    · exact ⟨hsame ▸ hc, hconfig⟩
  · have htask := hothers other ho
    rw [Store.checkpoint?, htask] at hc
    exact ⟨hc, by rw [Store.configuration?, htask]; rfl⟩

/-- An administrative call hands the checkpoints on: where it replaces a configuration it leaves no
checkpoint. -/
theorem call_hands (h : s.Coherent) (hp : s.scheduler.Sourced) {a : Action} (ha : a.IsCall) :
    ∃ l, Hands s (s.act a) l := by
  have hr := h.orderly.registered
  have hrests := (Chores.rests (call_edits hr ha).chores hp).1
  refine Hands.of_rests hp hrests fun other checkpoint hc => ?_
  have hsame (hs : s.act a = s) : s.backend.store.checkpoint? other = some checkpoint ∧
      (s.act a).backend.store.configuration? other = s.backend.store.configuration? other := by
    rw [hs] at hc ⊢
    exact ⟨hc, rfl⟩
  cases a with
  | setConfig name config =>
    rcases setConfig_cases hr h.enrolled h.reliable name config with ⟨e, hs⟩ | ⟨-, ⟨hnone, hs⟩ |
      ⟨k, hk, ⟨hconfig, hs⟩ | ⟨-, hs⟩⟩⟩
    · exact hsame (congrArg Prod.snd hs)
    · refine hs.stored (fun _ ho => Store.task_write_of_ne _ _ ho) (.inl ?_) hc
      rw [Store.checkpoint?_storeConfiguration, Store.checkpoint?, h.mirrors.nothing hnone]
      rfl
    · refine hs.stored (fun _ ho => Store.task_write_of_ne _ _ ho)
        (.inr ⟨Store.checkpoint?_storeConfiguration .., ?_⟩) hc
      rw [Store.configuration?_storeConfiguration, if_pos rfl, ← hconfig]
      exact (h.mirrors.facets hk).2.1
    · refine hs.stored (fun _ ho => (Store.task_write_of_ne _ _ ho).trans
        (Store.task_write_of_ne _ _ ho)) (.inl ?_) hc
      exact (Store.checkpoint?_storeCheckpoint ..).trans (if_pos rfl)
  | setSchedule name text =>
    rcases setSchedule_call_cases hr h.reliable name text with ⟨e, hs⟩ | ⟨schedule, k, -, -, -, hs⟩
    · exact hsame (congrArg Prod.snd hs)
    · exact hs.stored (fun _ ho => Store.task_write_of_ne _ _ ho)
        (.inr ⟨Store.checkpoint?_storeSchedule .., Store.configuration?_storeSchedule ..⟩) hc
  | remove name =>
    rcases removeConnector_cases hr h.reliable name with ⟨e, hs⟩ | ⟨-, hs⟩
    · exact hsame (congrArg Prod.snd hs)
    · exact hs.stored (fun _ ho => (Store.task_removeTask ..).trans (if_neg ho))
        (.inl ((Store.checkpoint?_removeTask ..).trans (if_pos rfl))) hc
  | restart name =>
    rcases restartConnector_cases hr h.reliable name with ⟨-, e, hs⟩ | ⟨k, -, -, hs⟩
    · exact hsame (congrArg Prod.snd hs)
    · exact hs.stored (fun _ ho => Store.task_write_of_ne _ _ ho)
        (.inl ((Store.checkpoint?_storeCheckpoint ..).trans (if_pos rfl))) hc
  | _ => cases ha

/-! ## Turns of batches -/

/-- The stage of a batch that moved is that of its run, and the others are where they were. -/
theorem waiting_moved {b : Batch} (hb : s.scheduler.batch? t = some b) (w : Workbench) {u : TaskId}
    {checkpoint : Option String}
    (hs : (s.moved t b w).scheduler.stage? u = some (.waiting checkpoint)) :
    s.scheduler.stage? u = some (.waiting checkpoint) ∨
      u = t ∧ (b.stage.advance t (s.scheduler.pool.isTripped t) w).1 = .waiting checkpoint := by
  by_cases hut : u = t
  · rw [hut, s.stage?_moved hb] at hs
    exact .inr ⟨hut, Option.some.inj hs⟩
  · refine .inl (hs.symm.trans ?_).symm
    exact congrArg (Option.map Batch.stage)
      (Scheduler.spares_withStage s.scheduler _ hut).payload?

/-- A run hands the checkpoints on if it waits with what is stored or what it has waited with, calls its
adapter with what it has waited with, and saves a checkpoint only while its batch is open and it runs on
the stored configuration. -/
theorem Hands.of_run (hp : s.scheduler.Sourced) (hprec : s.scheduler.Precedes s'.scheduler) {b : Batch}
    {name : String} {config : ConnectorConfig} (ho : s.scheduler.origin? t = some (name, config))
    {event : Option RunEvent} (hj : s'.scheduler.journal =
      s.scheduler.journal ++ (event.map (occurrenceOf t b name)).toList)
    (hwaiting : ∀ u checkpoint, s'.scheduler.stage? u = some (.waiting (some checkpoint)) →
      s.scheduler.stage? u = some (.waiting (some checkpoint)) ∨
        u = t ∧ s.backend.store.checkpoint? name = some checkpoint)
    (hcalled : ∀ checkpoint, event = some (.called checkpoint) →
      s.scheduler.stage? t = some (.waiting checkpoint))
    (hstored : (∀ checkpoint, event ≠ some (.saved checkpoint)) ∧
        s'.backend.store = s.backend.store ∨
      ∃ next, event = some (.saved next) ∧ s.scheduler.pool.Open t ∧
        s.backend.store.configuration? name = some config ∧
        s'.backend.store = s.backend.store.storeCheckpoint name (some next)) :
    ∃ l, Hands s s' l := by
  -- a step of a run enters one occurrence at most
  have hentry {o : Occurrence} (hmem : o ∈ (event.map (occurrenceOf t b name)).toList) :
      ∃ e, event = some e ∧ o = occurrenceOf t b name e := by
    obtain ⟨e, he, rfl⟩ := Option.map_eq_some_iff.1 (Option.mem_toList.1 hmem)
    exact ⟨e, he, rfl⟩
  refine ⟨_, hprec, hj, fun u stage => hprec.origin?_eq hp, fun u checkpoint hs => ?_,
    fun u other maxItems checkpoint hmem => ?_, fun u other checkpoint hmem => ?_,
    fun other checkpoint hc => ?_⟩
  · rcases hwaiting u checkpoint hs with hs | ⟨rfl, hread⟩
    · exact .inl hs
    · exact .inr ⟨name, config, ho, hread⟩
  · obtain ⟨e, he, hoccur⟩ := hentry hmem
    cases e with
    | saved => cases hoccur
    | called =>
      cases hoccur
      exact ⟨hcalled _ he, config, ho⟩
  · obtain ⟨e, he, hoccur⟩ := hentry hmem
    cases e with
    | called => cases hoccur
    | saved =>
      cases hoccur
      rcases hstored with ⟨hnot, -⟩ | ⟨_, -, hopen, -⟩
      · exact absurd he (hnot _)
      · exact ⟨hopen, config, ho⟩
  · rcases hstored with ⟨hnot, hsame⟩ | ⟨next, he, -, hconfig, hsave⟩
    · rw [hsame] at hc ⊢
      refine .inl ⟨hc, rfl, List.filterMap_eq_nil_iff.2 fun o hmem => ?_⟩
      obtain ⟨e, he, rfl⟩ := hentry hmem
      cases e with
      | called => rfl
      | saved => exact absurd he (hnot _)
    · rw [hsave, Store.checkpoint?_storeCheckpoint] at hc
      rw [hsave, Store.configuration?_storeCheckpoint, he]
      split at hc
      · next hother =>
        cases hc
        subst hother
        refine .inr ⟨t, config, ?_, hconfig, ho⟩
        simp [occurrenceOf, Occurrence.savedFor?]
      · next hother =>
        refine .inl ⟨hc, rfl, ?_⟩
        simp [occurrenceOf, Occurrence.savedFor?, Ne.symm hother]

/-- What the next action of a run enters into the journal is about the connector of its coordinator. -/
theorem journal_moved (hp : s.scheduler.Sourced) {b : Batch} {k : Coordinator} {r : Traverser}
    (hb : s.scheduler.batch? t = some b) (hk : s.scheduler.coordinators[b.coordinator]? = some k)
    (hr : s.scheduler.traversers[b.traverser]? = some r) {w : Workbench} (hw : w.traverser = r) :
    (s.moved t b w).scheduler.journal = s.scheduler.journal ++
      ((b.stage.advance t (s.scheduler.pool.isTripped t) w).2.2.map
        (occurrenceOf t b k.name)).toList := by
  obtain ⟨k', config, hk', ho⟩ := hp.origin hb
  rw [hk] at hk'
  cases hk'
  have hmade : s.scheduler.origin? t = some (r.connector, r.config) :=
    Scheduler.origin?_eq_some.2
      ⟨_, _, Scheduler.post?_of_batch? hb, Option.map_eq_some_iff.2 ⟨r, hr, rfl⟩⟩
  rw [ho, Option.some.injEq, Prod.mk.injEq] at hmade
  have hname : (b.stage.advance t (s.scheduler.pool.isTripped t) w).2.1.traverser.connector =
      k.name := by
    rw [(RunStage.source_advance ..).1, hw, hmade.1]
  rw [← hname]
  rfl

/-- The next action of a run hands the checkpoints on: it may read the stored one, call the adapter with
the one it has waited with, or save one, but this only while its batch is in flight. -/
theorem moved_hands (h : s.Coherent) (hp : s.scheduler.Sourced) {b : Batch} {k : Coordinator}
    {r : Traverser} (hx : s.scheduler.pool.isExecuting t) (hb : s.scheduler.batch? t = some b)
    (hk : s.scheduler.coordinators[b.coordinator]? = some k)
    (hr : s.scheduler.traversers[b.traverser]? = some r) {w : Workbench} (hw : w.traverser = r)
    (hcell : w.cell = k.cell) (hback : w.backend = s.backend)
    (hprec : s.scheduler.Precedes (s.moved t b w).scheduler) : ∃ l, Hands s (s.moved t b w) l := by
  have hstage := Scheduler.stage?_of_batch? hb
  obtain ⟨config, ho⟩ : ∃ config, s.scheduler.origin? t = some (k.name, config) := by
    obtain ⟨k', config, hk', ho⟩ := hp.origin hb
    rw [hk] at hk'
    cases hk'
    exact ⟨config, ho⟩
  have hj := journal_moved hp hb hk hr hw
  have hadv := RunStage.advance_reliable (hback.symm ▸ h.reliable) t (s.scheduler.pool.isTripped t)
    b.stage
  rw [hcell, hback] at hadv
  obtain ⟨-, ⟨-, hstore, hsaved, hwait, hcalled⟩ | ⟨-, hwait, -, hstore, hnone⟩ |
    ⟨count, next, hst, hwait, -, hstore, hsaved⟩⟩ := hadv
  · refine Hands.of_run hp hprec ho hj (fun u checkpoint hs => .inl ?_) (fun checkpoint he => ?_)
      (.inl ⟨hsaved, hstore⟩)
    · rcases waiting_moved hb w hs with hs | ⟨rfl, ha⟩
      · exact hs
      · rw [hstage, hwait _ ha]
    · rw [hstage, hcalled _ he]
  · refine Hands.of_run hp hprec ho hj (fun u checkpoint hs => ?_) (fun checkpoint he => ?_)
      (.inl ⟨fun checkpoint he => ?_, hstore⟩)
    · refine (waiting_moved hb w hs).imp_right fun ⟨hu, ha⟩ => ⟨hu, ?_⟩
      rw [hwait, RunStage.waiting.injEq] at ha
      exact ha
    · rw [hnone] at he
      cases he
    · rw [hnone] at he
      cases he
  · obtain ⟨hopen, hh, hlive⟩ := h.candid.saver h.orderly.flight hx hb hst hk
    have hconfig : s.backend.store.configuration? k.name = some config := by
      obtain ⟨config', hc, ho'⟩ := (hp.fits _ k hk).handle t hh
      have hknown := Scheduler.known?_of_coordinator? (h.enrolled.registered _ k hk hlive) hk
      rw [ho, Option.some.injEq, Prod.mk.injEq] at ho'
      rw [← (h.mirrors.facets hknown).2.1, hc, ho'.2]
    refine Hands.of_run hp hprec ho hj (fun u checkpoint hs => .inl ?_) (fun checkpoint he => ?_)
      (.inr ⟨next, hsaved, hopen, hconfig, hstore⟩)
    · rcases waiting_moved hb w hs with hs | ⟨-, ha⟩
      · exact hs
      · rw [hwait] at ha
        cases ha
    · rw [hsaved] at he
      cases he

/-- A turn of a batch is the next action of its run, or no run has a part in it and what is stored of
configurations and checkpoints stays. -/
theorem Turn.moves_or_rests (h : Turn t s s') (hf : s.scheduler.Flight) (hb : s.backend.Reliable) :
    (∃ b k r, s.scheduler.pool.isExecuting t ∧ s.scheduler.batch? t = some b ∧
      s.scheduler.coordinators[b.coordinator]? = some k ∧
      s.scheduler.traversers[b.traverser]? = some r ∧
      s' = s.moved t b { traverser := r, cell := k.cell, backend := s.backend }) ∨
    s.scheduler.Rests s'.scheduler ∧
      ∀ name, s'.backend.store.checkpoint? name = s.backend.store.checkpoint? name ∧
        s'.backend.store.configuration? name = s.backend.store.configuration? name := by
  have hprec := h.precedes hf
  cases h with
  | take h =>
    obtain ⟨rest, -, rfl⟩ := Pool.take?_eq_some h
    exact .inr ⟨⟨hprec, ⟨[], (List.append_nil _).symm, by simp⟩, fun _ _ => id⟩, fun _ => ⟨rfl, rfl⟩⟩
  | move hx hb _ hk hr => exact .inl ⟨_, _, _, hx, hb, hk, hr, rfl⟩
  | @answer b r checkpoint a hb =>
    refine .inr ⟨⟨hprec, ⟨_, rfl, by simp [Occurrence.Aside]⟩, fun u waited hst => ?_⟩,
      fun _ => ⟨rfl, rfl⟩⟩
    -- an answered batch does not wait to be driven, and no other batch is touched
    have hst' : (s.scheduler.withStage t (RunStage.answer a r (.calling checkpoint)).1).stage? u =
        some (.waiting waited) := hst
    rw [Scheduler.stage?, Scheduler.batch?_withStage] at hst'
    split at hst'
    · next htu =>
      rw [← htu, hb] at hst'
      cases a <;> cases hst'
    · exact hst'
  | crash | retire | choke =>
    exact .inr ⟨⟨hprec, ⟨[], (List.append_nil _).symm, by simp⟩,
      fun u _ hst => (Scheduler.stage?_finish rfl u).symm.trans hst⟩, fun _ => ⟨rfl, rfl⟩⟩
  | count =>
    exact .inr ⟨⟨hprec, ⟨_, rfl, by simp [Occurrence.Aside]⟩,
      fun u _ hst => (Scheduler.stage?_finish rfl u).symm.trans hst⟩, fun _ => ⟨rfl, rfl⟩⟩
  | @settle b k code =>
    right
    rcases settleBatch_cases (s.counted t k (BatchResult.ofCode code).count) t b k (.ofCode code) with
      ⟨-, he⟩ | ⟨-, disabled, -, he⟩ <;> rw [he] at hprec ⊢
    · exact ⟨⟨hprec, ⟨_, rfl, by simp [Occurrence.Aside]⟩,
        fun u _ hst => (Scheduler.stage?_finish rfl u).symm.trans hst⟩, fun _ => ⟨rfl, rfl⟩⟩
    · refine ⟨⟨hprec, ⟨_, List.append_assoc .., by simp [Occurrence.Aside]⟩,
        fun u _ hst => (Scheduler.stage?_finish rfl u).symm.trans hst⟩, fun name => ?_⟩
      cases disabled with
      | none => exact ⟨rfl, rfl⟩
      | some d =>
        have hback : (s.backend.storeSchedule k.name d).2.store =
            s.backend.store.storeSchedule k.name d := by
          rw [Backend.storeSchedule, hb.call]
        show (s.backend.storeSchedule k.name d).2.store.checkpoint? name = _ ∧
          (s.backend.storeSchedule k.name d).2.store.configuration? name = _
        rw [hback]
        exact ⟨Store.checkpoint?_storeSchedule .., Store.configuration?_storeSchedule ..⟩

/-- A turn of a batch hands the checkpoints on. -/
theorem Turn.hands (h : Turn t s s') (hs : s.Coherent) (hp : s.scheduler.Sourced) :
    ∃ l, Hands s s' l := by
  have hprec := h.precedes hs.orderly.flight
  rcases h.moves_or_rests hs.orderly.flight hs.reliable with
    ⟨b, k, r, hx, hb, hk, hr, rfl⟩ | ⟨hrests, hsame⟩
  · exact moved_hands hs hp hx hb hk hr rfl rfl rfl hprec
  · exact Hands.of_rests hp hrests fun name checkpoint hc => ⟨(hsame name).1 ▸ hc, (hsame name).2⟩

/-! ## Actions -/

/-- Whether checkpoints are handed on in some steps one after the other. -/
abbrev HandsOn : Site → Site → Prop := Relation.ReflTransGen fun s s' => ∃ l, Hands s s' l

theorem Upkeeps.backend (h : Upkeeps s s') : s'.backend = s.backend := by
  induction h with
  | refl => rfl
  | tail _ h ih => exact h.backend.trans ih

theorem Turns.handsOn (h : Turns t s s') (hs : s.Coherent) (hp : s.scheduler.Sourced) :
    s'.scheduler.Sourced ∧ HandsOn s s' := by
  induction h with
  | refl => exact ⟨hp, .refl⟩
  | tail h₀ h ih =>
    exact ⟨h.relays.sourced ih.1, ih.2.tail (h.hands (Turns.coherent h₀ hs) ih.1)⟩

/-- Whatever a process does that is alone with its store, it hands the checkpoints on. -/
theorem act_handsOn (hs : s.Coherent) (hp : s.scheduler.Sourced) (a : Action) :
    (s.act a).scheduler.Sourced ∧ HandsOn s (s.act a) := by
  have hr := hs.orderly.registered
  rcases s.act_kinds a with rfl | ha | hu | ⟨t, ht⟩
  · obtain ⟨-, -, hstore, hsame⟩ := detect_mirrored hr hs.reliable hs.mirrors
    have hrelays : s.scheduler.Relays (s.act .detect).scheduler := by
      rw [act, hsame]
      exact .same rfl (fun _ => rfl) rfl fun _ => id
    refine ⟨hrelays.sourced hp, .single (Hands.of_rests hp ?_ fun _ _ hc => ?_)⟩
    · refine ⟨hrelays.precedes ?_, ⟨[], ?_, by simp⟩, ?_⟩ <;> rw [act, hsame]
      · exact fun _ => id
      · exact (List.append_nil _).symm
      · exact fun _ _ => id
    · rw [act, hstore] at hc ⊢
      exact ⟨hc, rfl⟩
  · exact ⟨(Chores.rests (call_edits hr ha).chores hp).2, .single (call_hands hs hp ha)⟩
  · obtain ⟨hrests, hp'⟩ := Chores.rests hu.chores hp
    refine ⟨hp', .single (Hands.of_rests hp hrests fun _ _ hc => ?_)⟩
    rw [Upkeeps.backend hu] at hc ⊢
    exact ⟨hc, rfl⟩
  · exact Turns.handsOn ht hs hp

end Site

end BatchTraversal
