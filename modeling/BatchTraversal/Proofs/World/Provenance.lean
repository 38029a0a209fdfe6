import BatchTraversal.Proofs.World.Lineage

/-!
# Where a stored checkpoint comes from

Along every run of a process that is alone with its store, a stored checkpoint is the one that was saved
last, by a batch whose traverser was made from the stored configuration (`Site.Traced`). So once a
connector was restarted, or configured differently, nobody resumes its traversal until a batch that was
submitted afterwards has saved a checkpoint (`Site.Afresh`), because the batches from before are closed.
-/

namespace BatchTraversal

namespace Scheduler

variable {p q : Scheduler} {name : String}

/-- Whether a batch that `p` did not have yet has saved a checkpoint of a connector. -/
def SavedSince (p : Scheduler) (name : String) (entries : List Occurrence) : Prop :=
  ∃ t checkpoint, .saved t name checkpoint ∈ entries ∧ p.batch? t = none

/-- Whether no batch that runs on a traverser of a connector is open. -/
def Closed (p : Scheduler) (name : String) : Prop :=
  ∀ t config, p.origin? t = some (name, config) → ¬ p.pool.Open t

theorem SavedSince.mono {entries entries' : List Occurrence} (h : p.SavedSince name entries)
    (hsub : entries ⊆ entries') : p.SavedSince name entries' :=
  let ⟨t, checkpoint, hmem, hnew⟩ := h
  ⟨t, checkpoint, hsub hmem, hnew⟩

theorem savesFor_append {l : List Occurrence} (hj : q.journal = p.journal ++ l) :
    q.savesFor name = p.savesFor name ++ l.filterMap (·.savedFor? name) := by
  rw [savesFor, hj, List.filterMap_append]
  rfl

/-- A connector whose coordinator has no batch in flight has none that is open. -/
theorem Orderly.closed (ho : p.Orderly) (he : p.Enrolled) (hp : p.Sourced)
    (hidle : ∀ k, p.known? name = some k → k.handle = none) : p.Closed name := by
  intro t config horigin hopen
  obtain ⟨c, r, hpost, hs⟩ := origin?_eq_some.1 horigin
  obtain ⟨b, hb, -⟩ := Option.map_eq_some_iff.1 hpost
  obtain ⟨k, config', hk, hk'⟩ := hp.origin hb
  rw [horigin, Option.some.injEq, Prod.mk.injEq] at hk'
  have hh := ho.flight.single t _ _ k (order?_of_batch? hb) hk hopen
  have hlive : k.removed = false := eq_false_of_ne_true fun hr => by
    rw [ho.flight.removed _ k hk hr] at hh
    cases hh
  have hknown := known?_of_coordinator? (he.registered _ k hk hlive) hk
  rw [← hk'.1] at hknown
  rw [hidle k hknown] at hh
  cases hh

end Scheduler

namespace Site

variable {s s' : Site} {name : String} {l : List Occurrence}

/-- Whether every stored checkpoint is the one that was saved last, on a traverser made from the
configuration that is stored. -/
def Traced (s : Site) : Prop :=
  ∀ name checkpoint, s.backend.store.checkpoint? name = some checkpoint →
    ∃ config t, s.backend.store.configuration? name = some config ∧
      (s.scheduler.savesFor name).getLast? = some (t, checkpoint) ∧
      s.scheduler.origin? t = some (name, config)

theorem Hands.traced (h : Hands s s' l) (ht : s.Traced) : s'.Traced := by
  intro name checkpoint hc
  rw [Scheduler.savesFor_append h.journal]
  rcases h.stored name checkpoint hc with ⟨hbefore, hconfig, hnone⟩ | ⟨t, config, hsaved, hconfig, ho⟩
  · obtain ⟨config, t, hc', hlast, ho⟩ := ht name checkpoint hbefore
    rw [hnone, List.append_nil]
    exact ⟨config, t, hconfig.trans hc', hlast, h.precedes.origin? ho⟩
  · rw [hsaved]
    exact ⟨config, t, hconfig, List.getLast?_concat .., h.precedes.origin? ho⟩

/-- What holds of a connector from a moment on at which nothing was stored and no batch was open for it:
only what later batches have saved since is stored, and only with that a later batch waits or has called
its adapter. -/
structure Afresh (p : Scheduler) (name : String) (entries : List Occurrence) (s : Site) : Prop where
  precedes : p.Precedes s.scheduler
  journal : s.scheduler.journal = p.journal ++ entries
  stored : ∀ checkpoint, s.backend.store.checkpoint? name = some checkpoint → p.SavedSince name entries
  waiting : ∀ t checkpoint config, s.scheduler.stage? t = some (.waiting (some checkpoint)) →
    s.scheduler.origin? t = some (name, config) → p.batch? t = none → p.SavedSince name entries
  called : ∀ past future t maxItems checkpoint,
    entries = past ++ .called t name maxItems (some checkpoint) :: future → p.batch? t = none →
    p.SavedSince name past

/-- A process in which nothing is stored for a connector is afresh. -/
theorem afresh_self (hnone : s.backend.store.checkpoint? name = none) :
    Afresh s.scheduler name [] s where
  precedes := .refl _
  journal := (List.append_nil _).symm
  stored checkpoint hc := by
    rw [hnone] at hc
    cases hc
  waiting t checkpoint config hs _ hnew := by
    obtain ⟨b, hb, -⟩ := Option.map_eq_some_iff.1 hs
    rw [hb] at hnew
    cases hnew
  called past future t maxItems checkpoint he _ := by simp at he

/-- What is handed on stays afresh: a batch from before, being closed, saves nothing. -/
theorem Hands.afresh {p : Scheduler} {entries : List Occurrence} (h : Hands s s' l) (hp : p.Sourced)
    (hclosed : p.Closed name) (ha : Afresh p name entries s) : Afresh p name (entries ++ l) s' := by
  have hold (hs : p.SavedSince name entries) : p.SavedSince name (entries ++ l) :=
    hs.mono (List.subset_append_left ..)
  refine ⟨ha.precedes.trans h.precedes, ?_, fun checkpoint hc => ?_,
    fun t checkpoint config hs ho hnew => hold ?_,
    fun past future t maxItems checkpoint he hnew => ?_⟩
  · rw [h.journal, ha.journal, List.append_assoc]
  · rcases h.stored name checkpoint hc with ⟨hbefore, -⟩ | ⟨t, config, hsaved, -⟩
    · exact hold (ha.stored checkpoint hbefore)
    · obtain ⟨o, hmem, hfor⟩ := List.mem_filterMap.1 (hsaved ▸ List.mem_singleton_self (t, checkpoint))
      rw [Occurrence.savedFor?_eq_some] at hfor
      subst hfor
      obtain ⟨hopen, config, ho⟩ := h.saved t name checkpoint hmem
      refine ⟨t, checkpoint, List.mem_append_right _ hmem, ?_⟩
      by_contra hthere
      obtain ⟨b, hb⟩ := Option.ne_none_iff_exists'.1 hthere
      obtain ⟨k, config', -, ho'⟩ := hp.origin hb
      have hsame := ha.precedes.origin? ho'
      rw [ho, Option.some.injEq, Prod.mk.injEq] at hsame
      exact hclosed t config' (hsame.1 ▸ ho')
        (ha.precedes.isOpen t _ (Scheduler.post?_of_batch? hb) hopen)
  · rcases h.waiting t checkpoint hs with hwaited | ⟨other, config', ho', hc⟩
    · exact ha.waiting t checkpoint config hwaited ((h.origin t _ hwaited).symm.trans ho) hnew
    · have hsame := h.precedes.origin? ho'
      rw [ho, Option.some.injEq, Prod.mk.injEq] at hsame
      exact ha.stored checkpoint (hsame.1 ▸ hc)
  · have hin (past' : List Occurrence) (hpast : past = entries ++ past')
        (hl : l = past' ++ .called t name maxItems (some checkpoint) :: future) :
        p.SavedSince name past := by
      obtain ⟨hwaited, config, ho⟩ := h.called t name maxItems checkpoint (by rw [hl]; simp)
      rw [hpast]
      exact (ha.waiting t checkpoint config hwaited ho hnew).mono (List.subset_append_left ..)
    rcases List.append_eq_append_iff.1 he with ⟨past', hpast, hl⟩ | ⟨rest, hentries, hl⟩
    · exact hin past' hpast hl
    · cases rest with
      | nil => exact hin [] (by rw [hentries, List.append_nil, List.append_nil]) hl.symm
      | cons o rest =>
        obtain ⟨rfl, hrest⟩ := List.cons.inj hl
        exact ha.called past rest t maxItems checkpoint hentries hnew

/-- Whether an action restarts the traversal of a connector: a restart, or a configuration that replaces a
different one, that succeeds. -/
def Restarts (s : Site) (name : String) : Action → Prop
  | .restart other => other = name ∧ (s.restartConnector name).1 = .ok ()
  | .setConfig other config => other = name ∧ (s.setConfig name config).1 = .ok () ∧
      ∃ old, s.backend.store.configuration? name = some old ∧ old ≠ config
  | _ => False

/-- A restart leaves no checkpoint and no batch in flight. -/
theorem Restarts.sets (hs : s.Coherent) {a : Action} (h : s.Restarts name a) :
    (s.act a).backend.store.checkpoint? name = none ∧
      ∀ k, (s.act a).scheduler.known? name = some k → k.handle = none := by
  have hr := hs.orderly.registered
  have hsets {k : Coordinator} {st : Store}
      (hset : s.Sets name (some k.restarted) (st.storeCheckpoint name none) (s.act a)) :
      (s.act a).backend.store.checkpoint? name = none ∧
        ∀ k, (s.act a).scheduler.known? name = some k → k.handle = none := by
    rw [hset.store, Store.checkpoint?_storeCheckpoint, if_pos rfl]
    refine ⟨rfl, fun l hl => ?_⟩
    rw [hset.known, if_pos rfl] at hl
    cases hl
    rfl
  cases a with
  | restart other =>
    obtain ⟨rfl, hok⟩ := h
    rcases restartConnector_cases hr hs.reliable other with ⟨-, e, he⟩ | ⟨k, -, -, hset⟩
    · rw [he] at hok
      cases hok
    · exact hsets hset
  | setConfig other config =>
    obtain ⟨rfl, hok, old, hold, hne⟩ := h
    rcases setConfig_cases hr hs.enrolled hs.reliable other config with ⟨e, he⟩ | ⟨-, ⟨hnone, -⟩ |
      ⟨k, hk, ⟨hsame, -⟩ | ⟨-, hset⟩⟩⟩
    · rw [he] at hok
      cases hok
    · rw [Store.configuration?, hs.mirrors.nothing hnone] at hold
      cases hold
    · rw [(hs.mirrors.facets hk).2.1, hold] at hsame
      exact absurd (Option.some.inj hsame) hne
    · exact hsets hset
  | _ => cases h

end Site

namespace World

variable {w : World}

/-- What is kept whenever checkpoints are handed on holds of a process by itself along every run. -/
theorem run_handsOn {P : Site → Prop} (hP : ∀ s s' l, Site.Hands s s' l → P s → P s')
    (hone : w.schedulers.length = 1)
    (hw : ∀ i s, w.site? i = some s → s.Alone ∧ s.scheduler.Sourced ∧ P s) {events : List Event}
    (he : ∀ e ∈ events, e.Undivided) :
    ∀ i s, (w.run events).site? i = some s → s.Alone ∧ s.scheduler.Sourced ∧ P s := by
  have hhands {s s' : Site} (h : Site.HandsOn s s') (hs : P s) : P s' := by
    induction h with
    | refl => exact hs
    | tail _ h ih => exact let ⟨l, hl⟩ := h; hP _ _ l hl ih
  refine run_single (P := fun s => s.Alone ∧ s.scheduler.Sourced ∧ P s) (fun s a ha h => ?_)
    (fun s clock h => ?_) hone hw he
  · obtain ⟨hp, hon⟩ := Site.act_handsOn h.1.coherent h.2.1 a
    exact ⟨h.1.act ha, hp, hhands hon h.2.2⟩
  · obtain ⟨l, hl⟩ : ∃ l, Site.Hands s { s with clock } l :=
      Site.Hands.of_rests h.2.1 (.refl _) fun _ _ hc => ⟨hc, rfl⟩
    exact ⟨⟨h.1.orderly, h.1.enrolled, h.1.paused, h.1.reliable, h.1.mirrors⟩, h.2.1,
      hP _ _ l hl h.2.2⟩

/-- A stored checkpoint of a process by itself is traced along every run. -/
theorem run_traced (hw : w.Lone) {events : List Event} (he : ∀ e ∈ events, e.Undivided) {i : Nat}
    {s : Site} (hs : (w.run events).site? i = some s) :
    s.Alone ∧ s.scheduler.Sourced ∧ s.Traced := by
  refine run_handsOn (fun s s' l h => h.traced) hw.single (fun j s hs => ?_) he i s hs
  obtain ⟨hp, hb, -⟩ := site?_eq_some.1 hs
  have hstart := hw.initial _ (List.mem_of_getElem? hp)
  have hnothing : ∀ e ∈ ([] : List Event), e.Undivided := by simp
  refine ⟨run_alone hw hnothing hs, Scheduler.sourced_start hstart, fun name checkpoint hc => ?_⟩
  rw [hb, hw.empty] at hc
  cases hc

/-- At every moment of every run of a process by itself, over a store that starts out empty, does not fail
and is written by nobody else, a stored checkpoint is there together with the configuration it belongs to:
it is the one that was saved last for the connector, by a batch whose traverser was made from exactly that
configuration. So after a restart, and after a configuration that replaced a different one, every call of
an adapter for a batch that was submitted afterwards starts the traversal, until one of those batches has
saved a checkpoint. -/
theorem checkpoint_belongs (hw : w.Lone) {events : List Event} (he : ∀ e ∈ events, e.Undivided)
    {i : Nat} {s : Site} (hs : (w.run events).site? i = some s) :
    (∀ name checkpoint, s.backend.store.checkpoint? name = some checkpoint →
      ∃ config t b r, s.backend.store.configuration? name = some config ∧
        (s.scheduler.savesFor name).getLast? = some (t, checkpoint) ∧
        s.scheduler.batch? t = some b ∧ s.scheduler.traversers[b.traverser]? = some r ∧
        r.connector = name ∧ r.config = config ∧
        .instantiated b.traverser name config ∈ s.scheduler.journal) ∧
    ∀ name a, s.Restarts name a → ∀ later, (∀ e ∈ later, e.Undivided) →
      ∀ s', (w.run (events ++ .act i a :: later)).site? i = some s' →
        ∃ entries, s'.scheduler.journal = (s.act a).scheduler.journal ++ entries ∧
          ∀ past future t maxItems checkpoint,
            entries = past ++ .called t name maxItems (some checkpoint) :: future →
            (s.act a).scheduler.batch? t = none → (s.act a).scheduler.SavedSince name past := by
  obtain ⟨halone, hp, htraced⟩ := run_traced hw he hs
  refine ⟨fun name checkpoint hc => ?_, fun name a ha later hlater s' hs' => ?_⟩
  · obtain ⟨config, t, hconfig, hlast, ho⟩ := htraced name checkpoint hc
    obtain ⟨c, r, hpost, hsource⟩ := Scheduler.origin?_eq_some.1 ho
    obtain ⟨b, hb, hbr⟩ := Option.map_eq_some_iff.1 hpost
    cases hbr
    obtain ⟨made, hmade, hfor⟩ := Option.map_eq_some_iff.1 hsource
    cases hfor
    exact ⟨_, t, b, made, hconfig, hlast, hb, hmade, rfl, rfl, hp.recorded _ _ _ hsource⟩
  · have hone : (w.run events).schedulers.length = 1 := (w.length_run events).trans hw.single
    have hcoherent := halone.coherent
    have hwhole : a.Whole := by
      cases a with
      | restart | setConfig => trivial
      | _ => cases ha
    have hacted := halone.act hwhole
    have hp' := (Site.act_handsOn hcoherent hp a).1
    obtain ⟨hnone, hidle⟩ := ha.sets hcoherent
    have hclosed := hacted.orderly.closed hacted.enrolled hp' hidle
    rw [run_append] at hs'
    obtain ⟨-, -, entries, hafresh⟩ := run_handsOn (w := (w.run events).step (.act i a))
      (P := fun s' => ∃ entries, Site.Afresh (s.act a).scheduler name entries s')
      (fun _ _ _ h ⟨_, hfresh⟩ => ⟨_, h.afresh hp' hclosed hfresh⟩) ((length_step ..).trans hone)
      (fun j s₁ hs₁ => by
        rw [eq_of_single_act hone hs hs₁]
        exact ⟨hacted, hp', [], Site.afresh_self hnone⟩) hlater i s' hs'
    exact ⟨entries, hafresh.journal, hafresh.called⟩

/-- After a restart the next batch starts the traversal and returns with a page, and the one after that
resumes it. -/
def secondPage : List Event :=
  [.act 0 (.pass [0]), .act 0 (.take 0), .act 0 (.conclude 1 (.page ⟨1, some "d"⟩)),
    .act 0 (.pass [0]), .act 0 (.take 0)]

theorem undivided_secondPage : ∀ e ∈ secondPage, e.Undivided := by
  intro e he
  simp only [secondPage, List.mem_cons, List.not_mem_nil, or_false] at he
  rcases he with rfl | rfl | rfl | rfl | rfl <;> trivial

theorem restarts_firstPage {s : Site} (hs : (solo.run firstPage).site? 0 = some s) :
    s.Restarts "a" (.restart "a") := by
  have hok : ((solo.run firstPage).site? 0).map (fun s => (s.restartConnector "a").1.isOk) =
      some true := by decide +kernel
  rw [hs, Option.map_some, Option.some.injEq] at hok
  exact ⟨rfl, eq_ok_of_isOk hok⟩

/-- The third batch resumes from the checkpoint of the second one, which was submitted after the restart,
not from that of the first one. -/
theorem checkpoint_belongs_secondPage : ∃ s s' past, (solo.run firstPage).site? 0 = some s ∧
    (∃ config t b r, s.backend.store.configuration? "a" = some config ∧
      (s.scheduler.savesFor "a").getLast? = some (t, "c") ∧
      s.scheduler.batch? t = some b ∧ s.scheduler.traversers[b.traverser]? = some r ∧
      r.connector = "a" ∧ r.config = config ∧
      .instantiated b.traverser "a" config ∈ s.scheduler.journal) ∧
    (solo.run (firstPage ++ .act 0 (.restart "a") :: secondPage)).site? 0 = some s' ∧
    s'.scheduler.journal = (s.act (.restart "a")).scheduler.journal ++
      (past ++ [.called 2 "a" 56 (some "d")]) ∧
    (s.act (.restart "a")).scheduler.SavedSince "a" past := by
  obtain ⟨s, hs⟩ : ∃ s, (solo.run firstPage).site? 0 = some s := ⟨_, rfl⟩
  obtain ⟨s', hs'⟩ : ∃ s', (solo.run (firstPage ++ .act 0 (.restart "a") :: secondPage)).site? 0 =
    some s' := ⟨_, rfl⟩
  obtain ⟨hbelongs, hfresh⟩ := checkpoint_belongs lone_solo undivided_firstPage hs
  obtain ⟨entries, hj, hcalled⟩ := hfresh "a" (.restart "a") (restarts_firstPage hs) secondPage
    undivided_secondPage s' hs'
  have hstart : ((solo.run firstPage).site? 0).map (fun s => (s.backend.store.checkpoint? "a",
      (s.act (.restart "a")).scheduler.journal.length,
      ((s.act (.restart "a")).scheduler.batch? 2).isSome)) = some (some "c", 7, false) := by
    decide +kernel
  have hend : ((solo.run (firstPage ++ .act 0 (.restart "a") :: secondPage)).site? 0).map (fun s =>
      s.scheduler.journal.drop 7) = some ([.instantiated 1 "a" { kind := "any" }, .submitted 1 "a",
        .called 1 "a" 57 none, .answered 1 "a" (.page ⟨1, some "d"⟩), .saved 1 "a" "d", .folded 1 "a" 1,
        .delivered 1 "a" (.ofCode (countCode 1)), .submitted 2 "a"] ++
          [.called 2 "a" 56 (some "d")]) := by
    decide +kernel
  rw [hs, Option.map_some, Option.some.injEq, Prod.mk.injEq, Prod.mk.injEq] at hstart
  rw [hs', Option.map_some, Option.some.injEq, hj, ← hstart.2.1, List.drop_left] at hend
  have hnew : (s.act (.restart "a")).scheduler.batch? 2 = none :=
    Option.isSome_eq_false_iff.1 hstart.2.2 |> Option.isNone_iff_eq_none.1
  exact ⟨s, s', _, hs, hbelongs "a" "c" hstart.1, hs', hend ▸ hj, hcalled _ [] 2 56 "d" hend hnew⟩

end World

end BatchTraversal
