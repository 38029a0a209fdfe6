import BatchTraversal.Proofs.Connector.Synthetic
import BatchTraversal.Proofs.Process.Reuse
import BatchTraversal.Proofs.Process.Saving

/-!
# Checkpoints and the pages that lead to them

Among processes that share a store a checkpoint goes from the store to a run and from a run to the store, and
a new one comes from nowhere but a page that an adapter answers (`Site.act_knows`), whether the store fails or
not. A run that waits for an answer has entered its call into the journal (`Scheduler.Asked`), so that the
journal tells which positions the pages of a connector have covered (`Scheduler.Fetched`).
-/

namespace BatchTraversal

namespace RunStage

variable {token : TokenId} {tripped : Bool} {w : Workbench} {stage : RunStage} {name checkpoint : String}

/-- The checkpoint that a run has with it: the one it goes on from, and then the one it has reached. -/
def carried : RunStage → Option String
  | waiting checkpoint | calling checkpoint => checkpoint
  | answered (.page page) => page.checkpoint
  | saving _ next => some next
  | _ => none

/-- A run does not come by a checkpoint by itself, it finds it in the store. -/
theorem carried_of_advance (h : (stage.advance token tripped w).1.carried = some checkpoint) :
    stage.carried = some checkpoint ∨ w.backend.store.checkpoint? w.cell.connector = some checkpoint := by
  have hread := (w.cell.read_cases w.backend).2
  have hadvances := stage.advances token tripped w
  generalize stage.advance token tripped w = a at h hadvances
  cases hadvances with
  | @read found _ _ he => exact .inr (hread found (by rw [he]) ▸ h)
  | call | stay => exact .inl h
  | keep _ hn =>
    cases h
    exact .inl hn
  | _ => cases h

/-- A run stores no checkpoint but the one that it has with it. -/
theorem stored_of_advance
    (h : (stage.advance token tripped w).2.1.backend.store.checkpoint? name = some checkpoint) :
    w.backend.store.checkpoint? name = some checkpoint ∨
      name = w.cell.connector ∧ stage.carried = some checkpoint := by
  have hread := (w.cell.read_cases w.backend).1
  have hwrite {next : String}
      (h : (w.cell.write (some next) w.backend).2.2.store.checkpoint? name = some checkpoint) :
      w.backend.store.checkpoint? name = some checkpoint ∨
        name = w.cell.connector ∧ some next = some checkpoint := by
    rcases w.cell.store_write (some next) w.backend with he | he <;> rw [he] at h
    · exact .inl h
    · rw [Store.checkpoint?_storeCheckpoint] at h
      split at h
      · next hname => exact .inr ⟨hname, h⟩
      · exact .inl h
  have hadvances := stage.advances token tripped w
  generalize stage.advance token tripped w = a at h hadvances
  cases hadvances with
  | misread he | read he =>
    rw [he] at hread
    exact .inl (hread ▸ h)
  | missave he | save he => exact hwrite (he ▸ h)
  | _ => exact .inl h

end RunStage

/-- The answer that an action brings a batch. -/
def Action.answer? : Action → Option (TaskId × Answer)
  | answer t a | conclude t a => some (t, a)
  | _ => none

/-! ## Where checkpoints come from -/

/-- Whether a run of a connector has a checkpoint with it. -/
def Scheduler.Carries (p : Scheduler) (name checkpoint : String) : Prop :=
  ∃ t config, p.origin? t = some (name, config) ∧ (p.stage? t).bind (·.carried) = some checkpoint

namespace Site

/-- Whether a checkpoint of a connector is stored, or a run has it with it. -/
def Knows (s : Site) (name checkpoint : String) : Prop :=
  s.backend.store.checkpoint? name = some checkpoint ∨ s.scheduler.Carries name checkpoint

/-- Whether no checkpoint is known afterwards that was not known before. -/
def Quiet (s s' : Site) : Prop :=
  s.scheduler.Sourced → s'.scheduler.Sourced ∧
    ∀ name checkpoint, s'.Knows name checkpoint → s.Knows name checkpoint

variable {s s' s'' : Site} {t : TaskId} {name checkpoint : String}

theorem Quiet.refl (s : Site) : Quiet s s := fun hp => ⟨hp, fun _ _ => id⟩

/-- Where nothing is learnt in two steps, nothing is learnt in both. -/
theorem Quiet.trans (h : Quiet s s') (h' : Quiet s' s'') : Quiet s s'' := fun hp =>
  have ⟨hp', hk⟩ := h hp
  have ⟨hp'', hk'⟩ := h' hp'
  ⟨hp'', fun name checkpoint hknows => hk name checkpoint (hk' name checkpoint hknows)⟩

/-- A chore brings no checkpoint that was not known: it stores none, and gives none to a batch. -/
theorem Chore.quiet (h : Chore s s') : Quiet s s' := fun hp => by
  obtain ⟨hprec, hp'⟩ := h.sourced hp
  refine ⟨hp', fun name checkpoint hk => hk.imp h.checkpoint? ?_⟩
  rintro ⟨t, config, ho, hs⟩
  rcases h.stage? t with he | he <;> rw [he] at hs
  · obtain ⟨stage, hstage, -⟩ := Option.bind_eq_some_iff.1 hs
    exact ⟨t, config, (hprec.origin?_eq hp hstage).symm.trans ho, hs⟩
  · cases hs

/-- Several chores bring no checkpoint. -/
theorem Chores.quiet (h : Chores s s') : Quiet s s' := by
  induction h with
  | refl => exact .refl s
  | tail _ h ih => exact ih.trans h.quiet

/-- A checkpoint that is known after a turn of a batch was known before, unless the batch has just been
answered with it. -/
theorem Turn.knows (h : Turn t s s') (hp : s.scheduler.Sourced) (hk : s'.Knows name checkpoint) :
    s.Knows name checkpoint ∨ ∃ page config, s.scheduler.origin? t = some (name, config) ∧
      s'.scheduler.stage? t = some (.answered (.page page)) ∧ page.checkpoint = some checkpoint := by
  -- it is enough to look at the store and at the batch itself
  have hof (hstored : s'.backend.store.checkpoint? name = some checkpoint → s.Knows name checkpoint)
      (hown : ∀ config stage, s.scheduler.origin? t = some (name, config) →
        s'.scheduler.stage? t = some stage → stage.carried = some checkpoint → s.Knows name checkpoint ∨
          ∃ page, stage = .answered (.page page) ∧ page.checkpoint = some checkpoint) :
      s.Knows name checkpoint ∨ ∃ page config, s.scheduler.origin? t = some (name, config) ∧
        s'.scheduler.stage? t = some (.answered (.page page)) ∧ page.checkpoint = some checkpoint := by
    rcases hk with hc | ⟨u, config, ho, hs⟩
    · exact .inl (hstored hc)
    · rw [h.relays.origin?] at ho
      by_cases hut : u = t
      · subst hut
        obtain ⟨stage, hstage, hcarried⟩ := Option.bind_eq_some_iff.1 hs
        refine (hown config stage ho hstage hcarried).imp_right ?_
        rintro ⟨page, rfl, hpage⟩
        exact ⟨page, config, ho, hstage, hpage⟩
      · rw [h.stage?_other hut] at hs
        exact .inl (.inr ⟨u, config, ho, hs⟩)
  have hsame (hstored : ∀ checkpoint, s'.backend.store.checkpoint? name = some checkpoint →
      s.backend.store.checkpoint? name = some checkpoint)
      (hstage : s'.scheduler.stage? t = s.scheduler.stage? t) :=
    hof (fun hc => .inl (hstored checkpoint hc)) fun config stage ho hs hcarried =>
      .inl (.inr ⟨t, config, ho, by rw [← hstage, hs]; exact hcarried⟩)
  cases h with
  | take h =>
    obtain ⟨rest, -, rfl⟩ := Pool.take?_eq_some h
    exact hsame (fun _ => id) rfl
  | @move b k r hx hb hst hcoordinator hr =>
    have hstage := Scheduler.stage?_of_batch? hb
    obtain ⟨l, config, hl, ho⟩ := hp.origin hb
    cases hcoordinator.symm.trans hl
    refine hof (fun hc => ?_) fun config' stage ho' hs hcarried => .inl ?_
    · refine (RunStage.stored_of_advance hc).imp_right ?_
      rintro ⟨rfl, hcarried⟩
      exact ⟨t, config, ho, by rw [hstage]; exact hcarried⟩
    · rw [s.stage?_moved hb] at hs
      cases hs
      cases ho.symm.trans ho'
      refine (RunStage.carried_of_advance hcarried).symm.imp_right fun hcarried => ?_
      exact ⟨t, config, ho, by rw [hstage]; exact hcarried⟩
  | @answer b r from? a hb hst hr =>
    refine hof .inl fun config stage ho hs hcarried => .inr ?_
    have hstage : (s.scheduler.withStage t (RunStage.answer a r (.calling from?)).1).stage? t =
        some stage := hs
    rw [Scheduler.stage?, Scheduler.batch?_withStage, if_pos rfl, hb] at hstage
    cases a with
    | page page =>
      cases hstage
      exact ⟨page, rfl, hcarried⟩
    | noContent | failed | crashed =>
      cases hstage
      cases hcarried
  | crash | retire | choke | count => exact hsame (fun _ => id) (Scheduler.stage?_finish rfl t)
  | @settle b k code =>
    rcases settleBatch_cases (s.counted t k (BatchResult.ofCode code).count) t b k (.ofCode code) with
      ⟨-, he⟩ | ⟨-, disabled, -, he⟩ <;> rw [he] at hsame ⊢
    · exact hsame (fun _ => id) (Scheduler.stage?_finish rfl t)
    · refine hsame (fun checkpoint hc => ?_) (Scheduler.stage?_finish rfl t)
      cases disabled with
      | none => exact hc
      | some d =>
        have hc : (s.backend.storeSchedule k.name d).2.store.checkpoint? name = some checkpoint := hc
        rcases s.backend.store_call .storeSchedule (fun _ => ()) (·.storeSchedule k.name d) with he | he
        · exact he ▸ hc
        · rw [Backend.storeSchedule, he, Store.checkpoint?_storeSchedule] at hc
          exact hc

/-- A run that goes on without an answer has only what it read from the store. -/
theorem advance_quiet (s : Site) (t : TaskId) : Quiet s (s.advance t) := fun hp => by
  rcases s.advance_cases t with he | h
  · rw [he]
    exact ⟨hp, fun _ _ => id⟩
  · refine ⟨h.relays.sourced hp, fun name checkpoint hk => ?_⟩
    rcases h.knows hp hk with hk' | ⟨page, config, -, hs, -⟩
    · exact hk'
    · rcases s.stage?_advance t with ⟨he, -⟩ | ⟨-, hpage, -⟩
      · rwa [he] at hk
      · exact absurd hs (hpage page)

/-- A run that goes on as far as it can has only what it read from the store. -/
theorem drive_quiet (s : Site) (t : TaskId) : Quiet s (s.drive t) :=
  (((s.advance_quiet t).trans (advance_quiet _ t)).trans (advance_quiet _ t)).trans (advance_quiet _ t)

/-- A batch that begins knows no checkpoint yet. -/
theorem take_quiet (s : Site) (w : WorkerId) : Quiet s (s.take w) := by
  rw [take]
  cases h : s.scheduler.pool.take? w with
  | none => exact .refl s
  | some taken =>
    obtain ⟨t, pool⟩ := taken
    intro hp
    have hturn := Turn.take h
    refine ⟨hturn.relays.sourced hp, fun name checkpoint hk => ?_⟩
    obtain ⟨rest, -, rfl⟩ := Pool.take?_eq_some h
    exact hk

/-- A worker that begins a batch and drives it learns no checkpoint but the stored one. -/
theorem begin_quiet (s : Site) (w : WorkerId) : Quiet s (s.begin w) := by
  unfold begin
  split
  · exact .refl s
  · exact (s.take_quiet w).trans (drive_quiet _ _)

/-- An answer is given to a batch that waits for it, and entered into the journal. -/
theorem answer_cases (s : Site) (t : TaskId) (a : Answer) : s.answer t a = s ∨
    ∃ b r from?, s.scheduler.batch? t = some b ∧ s.scheduler.traversers[b.traverser]? = some r ∧
      b.stage = .calling from? ∧ Turn t s (s.answer t a) ∧
      (s.answer t a).scheduler.stage? t = some (RunStage.answer a r (.calling from?)).1 ∧
      (s.answer t a).scheduler.journal = s.scheduler.journal ++ [.answered t r.connector a] := by
  unfold answer
  split
  · exact .inl rfl
  · next b hb =>
    split
    · next r from? hr hst =>
      refine .inr ⟨b, r, from?, hb, hr, hst, .answer a hb hst hr, ?_, ?_⟩
      · refine (congrArg (Option.map Batch.stage) (Scheduler.batch?_withStage ..)).trans ?_
        rw [if_pos rfl]
        exact congrArg (Option.map Batch.stage ∘ Option.map _) hb
      · cases a <;> rfl
    · exact .inl rfl

/-- A checkpoint that is known once a batch was answered was known before, or it is that of the page. -/
theorem answer_knows (hp : s.scheduler.Sourced) {a : Answer}
    (hk : (s.answer t a).Knows name checkpoint) : s.Knows name checkpoint ∨
      ∃ b r from? page, s.scheduler.batch? t = some b ∧ s.scheduler.traversers[b.traverser]? = some r ∧
        r.connector = name ∧ b.stage = .calling from? ∧ a = .page page ∧
        page.checkpoint = some checkpoint ∧
        (s.answer t a).scheduler.journal = s.scheduler.journal ++ [.answered t name (.page page)] := by
  rcases s.answer_cases t a with he | ⟨b, r, from?, hb, hr, hst, hturn, hstage, hj⟩
  · exact .inl (he ▸ hk)
  · refine (hturn.knows hp hk).imp_right ?_
    rintro ⟨page, config, ho, hs, hpage⟩
    have hname : r.connector = name := by
      have hmade : s.scheduler.origin? t = some (r.connector, r.config) :=
        Scheduler.origin?_eq_some.2
          ⟨_, _, Scheduler.post?_of_batch? hb, Option.map_eq_some_iff.2 ⟨r, hr, rfl⟩⟩
      cases ho.symm.trans hmade
      rfl
    obtain rfl : a = .page page := by
      rw [hstage, Option.some.injEq] at hs
      cases a <;> cases hs
      rfl
    exact ⟨b, r, from?, page, hb, hr, hname, hst, rfl, hpage, hname ▸ hj⟩

/-- A checkpoint that is known after an action was known before, or once the action brought a batch its
answer. -/
theorem act_knows (hr : s.scheduler.Registered) (hp : s.scheduler.Sourced) {a : Action}
    (hk : (s.act a).Knows name checkpoint) : s.Knows name checkpoint ∨ ∃ t x, a.answer? = some (t, x) ∧
      (s.answer t x).Knows name checkpoint ∧ Moves (s.answer t x) (s.act a) := by
  have hquiet (h : Quiet s (s.act a)) : s.Knows name checkpoint := (h hp).2 name checkpoint hk
  have hcall (h : a.IsCall) := hquiet (Chores.quiet (call_edits hr h).chores)
  have hupkeep (h : a.IsUpkeep) := hquiet (Chores.quiet (s.upkeep_act h).chores)
  cases a with
  | setConfig | setSchedule | remove | restart => exact .inl (hcall trivial)
  | pass | askPhase | start | tick | scan | revive | shutDown => exact .inl (hupkeep trivial)
  | detect =>
    obtain ⟨s', inventory, h, e⟩ := detect_edits hr
    rw [show s.act .detect = _ from e] at hk
    exact .inl ((Chores.quiet h.chores hp).2 name checkpoint hk)
  | fetch w => exact .inl (hquiet (s.take_quiet w))
  | take w => exact .inl (hquiet (s.begin_quiet w))
  | advance t => exact .inl (hquiet (s.advance_quiet t))
  | proceed t => exact .inl (hquiet (s.drive_quiet t))
  | answer t x => exact .inr ⟨t, x, rfl, hk, .refl⟩
  | conclude t x =>
    have hp' := Turns.sourced (s.answer_turns t x) hp
    exact .inr ⟨t, x, rfl, (drive_quiet _ t hp').2 name checkpoint hk, (drive_turns _ t).moves⟩

end Site

/-! ## What the journal tells -/

/-- What a batch called its adapter with. -/
def Occurrence.callOf? (t : TaskId) : Occurrence → Option (Option String)
  | called u _ _ checkpoint => if u = t then some checkpoint else none
  | _ => none

/-- What a batch called its adapter with the last time that a journal tells of it. -/
def lastCall? (journal : List Occurrence) (t : TaskId) : Option (Option String) :=
  (journal.filterMap (·.callOf? t)).getLast?

/-- What is no call of a batch does not change which was its last one. -/
theorem lastCall?_append {t : TaskId} (journal : List Occurrence) {l : List Occurrence}
    (h : ∀ o ∈ l, o.callOf? t = none) : lastCall? (journal ++ l) t = lastCall? journal t := by
  rw [lastCall?, lastCall?, List.filterMap_append, List.filterMap_eq_nil_iff.2 h, List.append_nil]

/-- What happened to another batch is no call of this one. -/
theorem Occurrence.callOf?_of_task? {t : TaskId} {o : Occurrence} (h : o.task? ≠ some t) :
    o.callOf? t = none := by
  cases o with
  | called u =>
    rw [callOf?, if_neg]
    rintro rfl
    exact h rfl
  | _ => rfl

namespace Scheduler

/-- Whether the journal tells with what every batch that waits for an answer has called its adapter. -/
def Asked (p : Scheduler) : Prop :=
  ∀ t from?, p.stage? t = some (.calling from?) → lastCall? p.journal t = some from?

/-- Whether a page that an adapter answered for a connector covers a position: it goes from where the batch
that was answered had started or resumed the traversal as far as it counts. -/
def Fetched (p : Scheduler) (name : String) (position : Nat) : Prop :=
  ∃ past future t page from? start, p.journal = past ++ .answered t name (.page page) :: future ∧
    lastCall? past t = some from? ∧ SyntheticParams.position? from? = some start ∧
    start ≤ position ∧ position < start + page.count

/-- Whether every traverser has the adapter that its kind makes. -/
def Fitted (p : Scheduler) : Prop :=
  ∀ r ∈ p.traversers, p.kinds.instantiate r.connector r.config = .ok r.adapter

variable {p q : Scheduler} {name : String} {position : Nat}

/-- A position that was fetched stays so as the journal goes on. -/
theorem Fetched.mono (h : p.Fetched name position) (hj : p.journal <+: q.journal) :
    q.Fetched name position := by
  obtain ⟨past, future, t, page, from?, start, hp, h⟩ := h
  obtain ⟨l, hl⟩ := hj
  exact ⟨past, future ++ l, t, page, from?, start, by rw [← hl, hp]; simp, h⟩

/-- A traverser has the adapter that its kind makes if it is one there was, or is made now. -/
theorem Fitted.of_traversers (h : p.Fitted) (hk : q.kinds = p.kinds)
    (ht : ∀ r ∈ q.traversers, (∃ l ∈ p.traversers, r.connector = l.connector ∧ r.config = l.config ∧
      r.adapter = l.adapter) ∨ p.kinds.instantiate r.connector r.config = .ok r.adapter) : q.Fitted := by
  intro r hr
  rw [hk]
  rcases ht r hr with ⟨l, hl, hn, hc, ha⟩ | hmade
  · rw [hn, hc, ha]
    exact h l hl
  · exact hmade

/-- A traverser that only remembers something else has its adapter. -/
theorem Fitted.set (h : p.Fitted) (hk : q.kinds = p.kinds) {i : TraverserId} {l l' : Traverser}
    (hl : p.traversers[i]? = some l) (ht : q.traversers = p.traversers.set i l')
    (hn : l'.connector = l.connector) (hc : l'.config = l.config) (ha : l'.adapter = l.adapter) :
    q.Fitted := by
  refine h.of_traversers hk fun r hr => .inl ?_
  rcases List.mem_or_eq_of_mem_set (ht ▸ hr) with hr | rfl
  · exact ⟨r, hr, rfl, rfl, rfl⟩
  · exact ⟨l, List.mem_of_getElem? hl, hn, hc, ha⟩

end Scheduler

namespace Site

variable {s s' : Site} {t u : TaskId}

/-- A chore lets no batch call its adapter, and forgets no call. -/
theorem Chore.asked (h : Chore s s') (ha : s.scheduler.Asked) : s'.scheduler.Asked := by
  intro t from? hs
  obtain ⟨l, hj, hl⟩ := h.journal
  rw [hj, lastCall?_append]
  · rcases h.stage? t with he | he <;> rw [he] at hs
    · exact ha t from? hs
    · cases hs
  · intro o ho
    rcases hl o ho with ⟨_, _, _, rfl⟩ | ⟨_, _, rfl⟩ <;> rfl

/-- A turn of a batch enters the calls of adapters into the journal. -/
theorem Turn.asked (h : Turn u s s') (ha : s.scheduler.Asked) : s'.scheduler.Asked := by
  intro t from? hs
  by_cases htu : t = u
  · subst htu
    have hquiet {l : List Occurrence} (hj : s'.scheduler.journal = s.scheduler.journal ++ l)
        (hl : ∀ o ∈ l, o.callOf? t = none) (hstage : s'.scheduler.stage? t = s.scheduler.stage? t) :
        lastCall? s'.scheduler.journal t = some from? := by
      rw [hj, lastCall?_append _ hl]
      exact ha t from? (hstage ▸ hs)
    have hfinish {q : Scheduler} (hq : q.pool = s.scheduler.pool.finish t) :
        q.stage? t = s.scheduler.stage? t := Scheduler.stage?_finish hq t
    cases h with
    | take h =>
      obtain ⟨rest, -, rfl⟩ := Pool.take?_eq_some h
      exact ha t from? hs
    | @move b k r hx hb hst hk hr =>
      have hstage := Scheduler.stage?_of_batch? hb
      have hadvance := hs
      rw [s.stage?_moved hb, Option.some.injEq] at hadvance
      rcases RunStage.calling_of_advance hadvance with ⟨-, hcalled⟩ | ⟨hcalling, hnone⟩
      · simp only [moved, hcalled, lastCall?, List.filterMap_append]
        simp [occurrenceOf, Occurrence.callOf?]
      · simp only [moved, hnone, Option.map_none, Option.toList_none, List.append_nil]
        exact ha t from? (by rw [hstage, hcalling])
    | @answer b r waited a hb hst hr =>
      have hstage : (s.scheduler.withStage t (RunStage.answer a r (.calling waited)).1).stage? t =
          some (.calling from?) := hs
      rw [Scheduler.stage?, Scheduler.batch?_withStage, if_pos rfl, hb] at hstage
      cases a <;> cases hstage
    | crash | retire | choke => exact ha t from? ((Scheduler.stage?_finish rfl t).symm.trans hs)
    | count => exact hquiet rfl (by simp [Occurrence.callOf?]) (hfinish rfl)
    | @settle b k code =>
      rcases settleBatch_cases (s.counted t k (BatchResult.ofCode code).count) t b k (.ofCode code) with
        ⟨-, he⟩ | ⟨-, disabled, -, he⟩ <;> rw [he] at hquiet ⊢
      · exact hquiet rfl (by simp [Occurrence.callOf?]) (hfinish rfl)
      · exact hquiet (List.append_assoc ..) (by simp [Occurrence.callOf?]) (hfinish rfl)
  · obtain ⟨l, hj, hl⟩ := h.journal
    rw [hj, lastCall?_append]
    · exact ha t from? ((h.stage?_other htu).symm.trans hs)
    · intro o ho
      refine Occurrence.callOf?_of_task? fun he => htu ?_
      exact Option.some.inj (he.symm.trans (hl o ho))

/-- A traverser that a chore makes has the adapter of its kind. -/
theorem Chore.fitted (h : Chore s s') (hf : s.scheduler.Fitted) :
    s'.scheduler.kinds = s.scheduler.kinds ∧ s'.scheduler.Fitted := by
  cases h with
  | upkeep h =>
    cases h with
    | giveUp | backOff | hint | measure | curb => exact ⟨rfl, hf⟩
    | @equip c k _ _ hnone =>
      rcases Scheduler.traverserFor_cases s.scheduler c hnone with
        ⟨e, he⟩ | ⟨config, adapter, -, hmade, he⟩ <;> rw [he]
      · exact ⟨rfl, hf⟩
      · refine ⟨rfl, hf.of_traversers rfl fun r hr => ?_⟩
        rcases List.mem_append.1 hr with hr | hr
        · exact .inl ⟨r, hr, rfl, rfl, rfl⟩
        · rw [List.mem_singleton.1 hr]
          exact .inr hmade
    | @submit c k _ maxItems metered =>
      rcases s.scheduler.submit_cases c k _ maxItems metered with he | ⟨t, pool, -, he⟩ <;> rw [he] <;>
        exact ⟨rfl, hf⟩
  | edit h =>
    cases h with
    | @amend c k a _ hk =>
      rw [Scheduler.interrupt_eq hk]
      exact ⟨rfl, hf⟩
    | @detach c k _ hk hlive =>
      rw [Scheduler.detach_eq hk hlive, Scheduler.interrupt_eq hk]
      exact ⟨rfl, hf⟩
    | enlist | look | storeConfiguration | storeSchedule | removeTask | clearCheckpoint => exact ⟨rfl, hf⟩

/-- A turn of a batch leaves its traverser with its adapter. -/
theorem Turn.fitted (h : Turn t s s') (hf : s.scheduler.Fitted) :
    s'.scheduler.kinds = s.scheduler.kinds ∧ s'.scheduler.Fitted := by
  cases h with
  | take | crash | retire | choke | count => exact ⟨rfl, hf⟩
  | @move b k r _ _ _ _ hr =>
    obtain ⟨hn, hc, ha⟩ := RunStage.source_advance t (s.scheduler.pool.isTripped t)
      { traverser := r, cell := k.cell, backend := s.backend } b.stage
    exact ⟨rfl, hf.set rfl hr rfl hn hc ha⟩
  | @answer b r _ a _ _ hr =>
    refine ⟨rfl, hf.set rfl hr rfl ?_ ?_ ?_⟩ <;> cases a <;> rfl
  | @settle b k code =>
    rcases settleBatch_cases (s.counted t k (BatchResult.ofCode code).count) t b k (.ofCode code) with
      ⟨-, he⟩ | ⟨-, disabled, -, he⟩ <;> rw [he] <;> exact ⟨rfl, hf⟩

/-- Whatever a process does, its traversers stay fitted, by the kinds that it knows. -/
theorem act_fitted (hr : s.scheduler.Registered) (hf : s.scheduler.Fitted) (a : Action) :
    (s.act a).scheduler.kinds = s.scheduler.kinds ∧ (s.act a).scheduler.Fitted := by
  obtain ⟨s', inventory, h, e⟩ := act_moves hr a
  rw [e]
  show s'.scheduler.kinds = s.scheduler.kinds ∧ s'.scheduler.Fitted
  clear e
  induction h with
  | refl => exact ⟨rfl, hf⟩
  | tail _ h ih =>
    cases h with
    | chore h => exact ⟨(h.fitted ih.2).1.trans ih.1, (h.fitted ih.2).2⟩
    | turn t h => exact ⟨(h.fitted ih.2).1.trans ih.1, (h.fitted ih.2).2⟩

/-- Nothing that happens in a process takes anything from the journal. -/
theorem Moves.journal (h : Moves s s') : s.scheduler.journal <+: s'.scheduler.journal := by
  induction h with
  | refl => exact List.prefix_rfl
  | tail _ h ih =>
    cases h with
    | chore h =>
      obtain ⟨l, hj, -⟩ := h.journal
      exact ih.trans ⟨l, hj.symm⟩
    | turn t h =>
      obtain ⟨l, hj, -⟩ := h.journal
      exact ih.trans ⟨l, hj.symm⟩

/-- Whatever a process does, it only adds to its journal. -/
theorem act_journal (hr : s.scheduler.Registered) (a : Action) :
    s.scheduler.journal <+: (s.act a).scheduler.journal := by
  obtain ⟨s', inventory, h, e⟩ := act_moves hr a
  have hj := Moves.journal h
  rw [e]
  exact hj

/-- At every moment the journal tells the calls that wait for an answer. -/
theorem act_asked (hr : s.scheduler.Registered) (ha : s.scheduler.Asked) (a : Action) :
    (s.act a).scheduler.Asked := by
  obtain ⟨s', inventory, h, e⟩ := act_moves hr a
  have hasked : s'.scheduler.Asked := by
    clear e
    induction h with
    | refl => exact ha
    | tail _ h ih =>
      cases h with
      | chore h => exact h.asked ih
      | turn t h => exact h.asked ih
  rw [e]
  exact hasked

end Site

end BatchTraversal
