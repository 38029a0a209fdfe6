import BatchTraversal.Proofs.World.Lineage

/-!
# Where checkpoints come from

A process that shares a store which does not fail goes from one moment to the next in steps of which each
says where the checkpoints after it come from (`Site.Imparts`): one that is stored was stored before or
has just been saved by a batch, and one that a batch waits with or has called its adapter with is one that
it waited with before, or that was stored or saved for its connector. Unlike `Site.Hands` this does
not take the process to be alone with its store, and it can be said of a whole action
(`Site.act_imparts`).
-/

namespace BatchTraversal

/-- As long as the store does not fail, a checkpoint that is stored after the next action of a run was
stored before or has been saved by the run; the one that the run waits with it waited with before or
found in the store; and the one it calls its adapter with it has waited with. -/
theorem RunStage.advance_imparts {w : Workbench} (hb : w.backend.Reliable) (token : TokenId)
    (tripped : Bool) (stage : RunStage) :
    let a := stage.advance token tripped w
    (∀ name checkpoint, a.2.1.backend.store.checkpoint? name = some checkpoint →
      w.backend.store.checkpoint? name = some checkpoint ∨
        name = w.cell.connector ∧ a.2.2 = some (.saved checkpoint)) ∧
    (∀ checkpoint, a.1 = .waiting checkpoint → stage = .waiting checkpoint ∨
      checkpoint = w.backend.store.checkpoint? w.cell.connector) ∧
    ∀ checkpoint, a.2.2 = some (.called checkpoint) → stage = .waiting checkpoint := by
  obtain ⟨-, ⟨-, hstore, -, hwait, hcalled⟩ | ⟨-, hwait, -, hstore, hnone⟩ |
    ⟨count, next, -, hcoded, -, hstore, hsaved⟩⟩ := RunStage.advance_reliable hb token tripped stage
  · exact ⟨fun name checkpoint hc => .inl (hstore ▸ hc), fun checkpoint h => .inl (hwait _ h), hcalled⟩
  · refine ⟨fun name checkpoint hc => .inl (hstore ▸ hc), fun checkpoint h => ?_, fun checkpoint h => ?_⟩
    · rw [hwait, RunStage.waiting.injEq] at h
      exact .inr h.symm
    · rw [hnone] at h
      cases h
  · refine ⟨fun name checkpoint hc => ?_, fun checkpoint h => ?_, fun checkpoint h => ?_⟩
    · rw [hstore, Store.checkpoint?_storeCheckpoint] at hc
      split at hc
      · next hname =>
        cases hc
        exact .inr ⟨hname, hsaved⟩
      · exact .inl hc
    · rw [hcoded] at h
      cases h
    · rw [hsaved] at h
      cases h

namespace Site

/-- Whether a checkpoint of a connector is stored or was saved by a batch. -/
def Supplies (s : Site) (l : List Occurrence) (name checkpoint : String) : Prop :=
  s.backend.store.checkpoint? name = some checkpoint ∨ ∃ t, .saved t name checkpoint ∈ l

/-- Where the checkpoints after a step come from, with what the step enters into the journal. -/
structure Imparts (s s' : Site) (l : List Occurrence) : Prop where
  precedes : s.scheduler.Precedes s'.scheduler
  journal : s'.scheduler.journal = s.scheduler.journal ++ l
  saved : ∀ t name checkpoint, .saved t name checkpoint ∈ l →
    ∃ config, s'.scheduler.origin? t = some (name, config)
  stored : ∀ name checkpoint, s'.backend.store.checkpoint? name = some checkpoint →
    s.Supplies l name checkpoint
  waiting : ∀ t checkpoint, s'.scheduler.stage? t = some (.waiting (some checkpoint)) →
    s.scheduler.stage? t = some (.waiting (some checkpoint)) ∨
      ∃ name config, s'.scheduler.origin? t = some (name, config) ∧ s.Supplies l name checkpoint
  called : ∀ t name maxItems checkpoint, .called t name maxItems (some checkpoint) ∈ l →
    (s.scheduler.stage? t = some (.waiting (some checkpoint)) ∨ s.Supplies l name checkpoint) ∧
      ∃ config, s'.scheduler.origin? t = some (name, config)

variable {s s' s'' : Site} {t u : TaskId} {l l' : List Occurrence} {name checkpoint : String}

/-- What is saved stays saved, whatever is entered into the journal later. -/
theorem Supplies.append (h : s.Supplies l name checkpoint) (l' : List Occurrence) :
    s.Supplies (l ++ l') name checkpoint :=
  h.imp_right fun ⟨t, ht⟩ => ⟨t, List.mem_append_left l' ht⟩

/-- What supplies a checkpoint after a step was supplied before it, or by it. -/
theorem Imparts.supplies (h : Imparts s s' l) (hs : s'.Supplies l' name checkpoint) :
    s.Supplies (l ++ l') name checkpoint := by
  rcases hs with hc | ⟨t, ht⟩
  · exact (h.stored name checkpoint hc).append l'
  · exact .inr ⟨t, List.mem_append_right l ht⟩

/-- While no run has a part, what is stored afterwards has to have been stored before. -/
theorem Imparts.of_rests (h : s.scheduler.Rests s'.scheduler)
    (hstored : ∀ name checkpoint, s'.backend.store.checkpoint? name = some checkpoint →
      s.backend.store.checkpoint? name = some checkpoint) : ∃ l, Imparts s s' l := by
  obtain ⟨l, hl, haside⟩ := h.journal
  exact ⟨l, h.precedes, hl, fun _ _ _ ho => (haside _ ho).elim,
    fun name checkpoint hc => .inl (hstored name checkpoint hc),
    fun t checkpoint hs => .inl (h.waiting t _ hs), fun _ _ _ _ ho => (haside _ ho).elim⟩

/-- Where nothing is done, everything comes from before. -/
theorem Imparts.refl (s : Site) : Imparts s s [] where
  precedes := .refl _
  journal := (List.append_nil _).symm
  saved _ _ _ ho := nomatch ho
  stored _ _ := .inl
  waiting _ _ := .inl
  called _ _ _ _ ho := nomatch ho

/-- Where the checkpoints come from can be followed back step by step. -/
theorem Imparts.trans (h : Imparts s s' l) (h' : Imparts s' s'' l') : Imparts s s'' (l ++ l') where
  precedes := h.precedes.trans h'.precedes
  journal := by rw [h'.journal, h.journal, List.append_assoc]
  saved t name checkpoint ho := by
    rcases List.mem_append.1 ho with ho | ho
    · obtain ⟨config, hfrom⟩ := h.saved t name checkpoint ho
      exact ⟨config, h'.precedes.origin? hfrom⟩
    · exact h'.saved t name checkpoint ho
  stored name checkpoint hc := h.supplies (h'.stored name checkpoint hc)
  waiting t checkpoint hs := by
    rcases h'.waiting t checkpoint hs with hs | ⟨name, config, hfrom, hsup⟩
    · refine (h.waiting t checkpoint hs).imp_right fun ⟨name, config, hfrom, hsup⟩ => ?_
      exact ⟨name, config, h'.precedes.origin? hfrom, hsup.append l'⟩
    · exact .inr ⟨name, config, hfrom, h.supplies hsup⟩
  called t name maxItems checkpoint ho := by
    rcases List.mem_append.1 ho with ho | ho
    · obtain ⟨hwith, config, hfrom⟩ := h.called t name maxItems checkpoint ho
      exact ⟨hwith.imp_right (·.append l'), config, h'.precedes.origin? hfrom⟩
    · obtain ⟨hs | hsup, config, hfrom⟩ := h'.called t name maxItems checkpoint ho
      · refine ⟨(h.waiting t checkpoint hs).imp_right fun ⟨other, config', hfrom', hsup⟩ => ?_,
          config, hfrom⟩
        have hsame := hfrom.symm.trans (h'.precedes.origin? hfrom')
        cases hsame
        exact hsup.append l'
      · exact ⟨.inr (h.supplies hsup), config, hfrom⟩

/-! ## Chores and turns -/

/-- A chore stores no checkpoint and gives none to a batch. -/
theorem Chore.imparts (h : Chore s s') (hp : s.scheduler.Sourced) : ∃ l, Imparts s s' l :=
  Imparts.of_rests (h.rests hp) fun _ _ hc => h.checkpoint? hc

/-- A run imparts what it waits with to its call of the adapter, and what it saves to the store, if it
waits with what is stored or what it has waited with and stores only what it saves. -/
theorem Imparts.of_run (hprec : s.scheduler.Precedes s'.scheduler) {b : Batch} {config : ConnectorConfig}
    (hfrom : s.scheduler.origin? t = some (name, config)) {event : Option RunEvent}
    (hj : s'.scheduler.journal = s.scheduler.journal ++ (event.map (occurrenceOf t b name)).toList)
    (hstored : ∀ other checkpoint, s'.backend.store.checkpoint? other = some checkpoint →
      s.backend.store.checkpoint? other = some checkpoint ∨
        other = name ∧ event = some (.saved checkpoint))
    (hwaiting : ∀ u checkpoint, s'.scheduler.stage? u = some (.waiting (some checkpoint)) →
      s.scheduler.stage? u = some (.waiting (some checkpoint)) ∨
        u = t ∧ s.backend.store.checkpoint? name = some checkpoint)
    (hcalled : ∀ checkpoint, event = some (.called checkpoint) →
      s.scheduler.stage? t = some (.waiting checkpoint)) : ∃ l, Imparts s s' l := by
  have hfrom' := hprec.origin? hfrom
  have hentry {o : Occurrence} (ho : o ∈ (event.map (occurrenceOf t b name)).toList) :
      ∃ e, event = some e ∧ o = occurrenceOf t b name e := by
    obtain ⟨e, he, rfl⟩ := Option.map_eq_some_iff.1 (Option.mem_toList.1 ho)
    exact ⟨e, he, rfl⟩
  refine ⟨_, hprec, hj, fun u other checkpoint ho => ?_, fun other checkpoint hc => ?_,
    fun u checkpoint hs => ?_, fun u other maxItems checkpoint ho => ?_⟩
  · obtain ⟨e, -, he⟩ := hentry ho
    cases e with
    | called => cases he
    | saved =>
      cases he
      exact ⟨config, hfrom'⟩
  · refine (hstored other checkpoint hc).imp_right fun ⟨hother, he⟩ => ⟨t, ?_⟩
    rw [he, hother]
    exact List.mem_singleton_self _
  · refine (hwaiting u checkpoint hs).imp_right fun ⟨hu, hread⟩ => ?_
    exact ⟨name, config, hu ▸ hfrom', .inl hread⟩
  · obtain ⟨e, he, ho⟩ := hentry ho
    cases e with
    | saved => cases ho
    | called =>
      cases ho
      exact ⟨.inl (hcalled _ he), config, hfrom'⟩

theorem moved_imparts (hb : s.backend.Reliable) (hp : s.scheduler.Sourced) {b : Batch} {k : Coordinator}
    {r : Traverser} (hbatch : s.scheduler.batch? t = some b)
    (hk : s.scheduler.coordinators[b.coordinator]? = some k)
    (hr : s.scheduler.traversers[b.traverser]? = some r) {w : Workbench} (hw : w.traverser = r)
    (hcell : w.cell = k.cell) (hback : w.backend = s.backend)
    (hprec : s.scheduler.Precedes (s.moved t b w).scheduler) : ∃ l, Imparts s (s.moved t b w) l := by
  have hstage := Scheduler.stage?_of_batch? hbatch
  obtain ⟨l, config, hl, hfrom⟩ := hp.origin hbatch
  cases hk.symm.trans hl
  have hj := journal_moved hp hbatch hk hr hw
  obtain ⟨hstored, hwait, hcalled⟩ := RunStage.advance_imparts (w := w) (hback ▸ hb) t
    (s.scheduler.pool.isTripped t) b.stage
  rw [hback, hcell] at hstored hwait
  refine Imparts.of_run hprec hfrom hj hstored (fun u checkpoint hs => ?_) fun checkpoint he => ?_
  · rcases waiting_moved hbatch w hs with hs | ⟨rfl, ha⟩
    · exact .inl hs
    · rcases hwait _ ha with hst | hread
      · exact .inl (hstage.trans (congrArg some hst))
      · exact .inr ⟨rfl, hread.symm⟩
  · exact hstage.trans (congrArg some (hcalled _ he))

/-- A turn reads the checkpoint that is stored, hands it to the adapter, or saves the next one. -/
theorem Turn.imparts (h : Turn t s s') (hb : s.backend.Reliable) (hf : s.scheduler.Flight)
    (hp : s.scheduler.Sourced) : ∃ l, Imparts s s' l := by
  have hprec := h.precedes hf
  rcases h.moves_or_rests hf hb with ⟨b, k, r, -, hbatch, hk, hr, rfl⟩ | ⟨hrests, hsame⟩
  · exact moved_imparts hb hp hbatch hk hr rfl rfl rfl hprec
  · exact Imparts.of_rests hrests fun name checkpoint hc => (hsame name).1 ▸ hc

/-- Whatever happens in a process, its checkpoints come from the store or from its own batches. -/
theorem Moves.imparts (h : Moves s s') (hb : s.backend.Reliable) (hf : s.scheduler.Flight)
    (hp : s.scheduler.Sourced) : s'.scheduler.Sourced ∧ ∃ l, Imparts s s' l := by
  induction h with
  | refl => exact ⟨hp, [], .refl s⟩
  | tail h₀ h ih =>
    obtain ⟨hp₁, l, hl⟩ := ih
    have hb₁ := Moves.reliable h₀ hb
    have hf₁ := Moves.flight h₀ hf
    cases h with
    | chore h =>
      obtain ⟨l', hl'⟩ := h.imparts hp₁
      exact ⟨(h.sourced hp₁).2, l ++ l', hl.trans hl'⟩
    | turn t h =>
      obtain ⟨l', hl'⟩ := h.imparts hb₁ hf₁ hp₁
      exact ⟨h.relays.sourced hp₁, l ++ l', hl.trans hl'⟩

/-- Whatever a process does imparts checkpoints. -/
theorem act_imparts (ho : s.scheduler.Orderly) (hb : s.backend.Reliable) (hp : s.scheduler.Sourced)
    (a : Action) : ∃ l, Imparts s (s.act a) l := by
  obtain ⟨s', inventory, h, e⟩ := act_moves ho.registered a
  obtain ⟨-, l, hl⟩ := Moves.imparts h hb ho.flight hp
  rw [e]
  exact ⟨l, ⟨hl.precedes.source?, hl.precedes.post?, hl.precedes.isOpen⟩, hl.journal, hl.saved, hl.stored,
    hl.waiting, hl.called⟩

end Site

end BatchTraversal
