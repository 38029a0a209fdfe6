import BatchTraversal.Proofs.Process.Barred
import BatchTraversal.Proofs.Process.Reuse
import BatchTraversal.Proofs.World.Imparting
import BatchTraversal.Proofs.World.Provenance
import BatchTraversal.Proofs.World.Reconfiguration

/-!
# Restarts and removals among several processes

A restart or a removal clears the stored checkpoint and cancels the batches of its own process. The
batches of other processes go on, and one that is open there may save a checkpoint that it reached before
(`World.reset_outlived`). Otherwise, a batch that was submitted before never saves one afterwards, unless
it was just about to; and if this is so of all batches of the connector, then whatever is stored for it
later, and whatever its traversal is resumed from, was saved by a batch that was submitted after the call
(`World.reset_fences`).
-/

namespace BatchTraversal

theorem Scheduler.saves_ne_of_saved {p q : Scheduler} {t : TaskId} {name checkpoint : String}
    {l : List Occurrence} (hj : q.journal = p.journal ++ l) (ho : .saved t name checkpoint ∈ l) :
    q.saves t ≠ p.saves t := by
  intro hsame
  rw [saves, hj, List.filterMap_append] at hsame
  have hnil := List.append_right_eq_self.1 hsame
  have hnone := List.filterMap_eq_nil_iff.1 hnil _ ho
  simp [Occurrence.savedOf?] at hnone

namespace Site

variable {s : Site} {name : String} {a : Action}

/-- Whether an action is a call that restarts or removes a connector and succeeds. -/
def Resets (s : Site) (name : String) : Action → Prop
  | .restart other => other = name ∧ (s.restartConnector name).1 = .ok ()
  | .remove other => other = name ∧ (s.removeConnector name).1 = .ok ()
  | _ => False

/-- Such a call leaves no checkpoint and no open batch in its process. -/
theorem Resets.closes (h : s.Resets name a) (ho : s.scheduler.Orderly) (he : s.scheduler.Enrolled)
    (hb : s.backend.Reliable) (hp : (s.act a).scheduler.Sourced) :
    (s.act a).backend.store.checkpoint? name = none ∧ (s.act a).scheduler.Closed name := by
  have hclosed (hidle : ∀ k, (s.act a).scheduler.known? name = some k → k.handle = none) :
      (s.act a).scheduler.Closed name :=
    (orderly_act ho a).closed (enrolled_act ho.registered he a) hp hidle
  cases a with
  | restart other =>
    obtain ⟨rfl, hok⟩ := h
    rcases restartConnector_cases ho.registered hb other with ⟨-, e, hs⟩ | ⟨k, -, -, hs⟩
    · rw [hs] at hok
      cases hok
    · refine ⟨?_, hclosed fun l hl => ?_⟩
      · show (s.restartConnector other).2.backend.store.checkpoint? other = none
        rw [hs.store, Store.checkpoint?_storeCheckpoint, if_pos rfl]
      · rw [act, hs.known, if_pos rfl] at hl
        cases hl
        rfl
  | remove other =>
    obtain ⟨rfl, hok⟩ := h
    rcases removeConnector_cases ho.registered hb other with ⟨e, hs⟩ | ⟨-, hs⟩
    · rw [hs] at hok
      cases hok
    · refine ⟨?_, hclosed fun l hl => ?_⟩
      · show (s.removeConnector other).2.backend.store.checkpoint? other = none
        rw [hs.store, Store.checkpoint?_removeTask, if_pos rfl]
      · rw [act, hs.known, if_pos rfl] at hl
        cases hl
  | _ => cases h

end Site

namespace Scheduler

/-- What holds of a process, given the checkpoints that were saved for a connector since `p`, if all its
batches for it in `p` are barred: only with one of these a later batch waits or has called its adapter
since. -/
structure Anew (p q : Scheduler) (name : String) (since : String → Prop) : Prop where
  precedes : p.Precedes q
  barred : ∀ t config, p.origin? t = some (name, config) → q.Barred t
  waiting : ∀ t config checkpoint, p.batch? t = none → q.origin? t = some (name, config) →
    q.stage? t = some (.waiting (some checkpoint)) → since checkpoint
  called : ∃ entries, q.journal = p.journal ++ entries ∧ ∀ t maxItems checkpoint,
    p.batch? t = none → .called t name maxItems (some checkpoint) ∈ entries → since checkpoint

variable {p q : Scheduler} {name : String} {since since' : String → Prop}

theorem anew_self (h : ∀ t config, p.origin? t = some (name, config) → p.Barred t) :
    p.Anew p name since := by
  refine ⟨.refl p, h, fun t config checkpoint hnew _ hs => ?_, [], (List.append_nil _).symm, ?_⟩
  · obtain ⟨b, hb, -⟩ := Option.map_eq_some_iff.1 hs
    rw [hb] at hnew
    cases hnew
  · exact fun _ _ _ _ ho => nomatch ho

theorem Anew.mono (h : p.Anew q name since) (hsub : ∀ checkpoint, since checkpoint → since' checkpoint) :
    p.Anew q name since' := by
  obtain ⟨entries, hj, hcalled⟩ := h.called
  exact ⟨h.precedes, h.barred, fun t config checkpoint hnew hfrom hs =>
    hsub _ (h.waiting t config checkpoint hnew hfrom hs), entries, hj,
    fun t maxItems checkpoint hnew ho => hsub _ (hcalled t maxItems checkpoint hnew ho)⟩

end Scheduler

namespace Site

variable {s s' : Site} {l : List Occurrence} {p : Scheduler} {name checkpoint : String}
  {since : String → Prop}

/-- A process in which `p` is barred stays so if what is supplied was saved since. -/
theorem Imparts.anew (h : Imparts s s' l) (hp : s.scheduler.Sourced) (ha : p.Anew s.scheduler name since)
    (hbarred : ∀ t config, p.origin? t = some (name, config) → s'.scheduler.Barred t)
    (hsup : ∀ checkpoint, s.Supplies l name checkpoint → since checkpoint) :
    p.Anew s'.scheduler name since := by
  obtain ⟨entries, hj, hcalled⟩ := ha.called
  have hwith {t : TaskId} {config : ConnectorConfig} {checkpoint : String} (hnew : p.batch? t = none)
      (hfrom : s'.scheduler.origin? t = some (name, config))
      (hs : s.scheduler.stage? t = some (.waiting (some checkpoint))) : since checkpoint :=
    ha.waiting t config checkpoint hnew ((h.precedes.origin?_eq hp hs).symm.trans hfrom) hs
  refine ⟨ha.precedes.trans h.precedes, hbarred, fun t config checkpoint hnew hfrom hs => ?_,
    entries ++ l, by rw [h.journal, hj, List.append_assoc], fun t maxItems checkpoint hnew ho => ?_⟩
  · rcases h.waiting t checkpoint hs with hs | ⟨other, config', hfrom', hc⟩
    · exact hwith hnew hfrom hs
    · cases hfrom.symm.trans hfrom'
      exact hsup checkpoint hc
  · rcases List.mem_append.1 ho with ho | ho
    · exact hcalled t maxItems checkpoint hnew ho
    · obtain ⟨hs | hc, config, hfrom⟩ := h.called t name maxItems checkpoint ho
      · exact hwith hnew hfrom hs
      · exact hsup checkpoint hc

/-- A checkpoint that is saved while all batches in `p` are barred is saved by a later one. -/
theorem Imparts.later (h : Imparts s s' l) (hp : p.Sourced) (ha : p.Anew s.scheduler name since)
    (hsame : ∀ t config, p.origin? t = some (name, config) →
      s'.scheduler.saves t = s.scheduler.saves t) {t : TaskId} (ht : .saved t name checkpoint ∈ l) :
    p.batch? t = none := by
  by_contra hthere
  obtain ⟨b, hb⟩ := Option.ne_none_iff_exists'.1 hthere
  obtain ⟨k, config, -, hfrom⟩ := hp.origin hb
  obtain ⟨config', hfrom'⟩ := h.saved t name checkpoint ht
  cases hfrom'.symm.trans ((ha.precedes.trans h.precedes).origin? hfrom)
  exact Scheduler.saves_ne_of_saved h.journal ht (hsame t config hfrom)

end Site

namespace World

variable {w w₀ : World} {name : String} {i : Nat}

/-- Whether a checkpoint of a connector was saved by a batch that was not submitted yet in `w₀`. -/
def SavedSince (w₀ w : World) (name checkpoint : String) : Prop :=
  ∃ (j : Nat) (p q : Scheduler) (t : TaskId), w₀.schedulers[j]? = some p ∧
    w.schedulers[j]? = some q ∧ p.batch? t = none ∧ .saved t name checkpoint ∈ q.journal

/-- What holds of a connector from `w₀` on if nothing is stored for it there and all its batches are
barred: only what later batches have saved is stored, and with nothing else a later batch waits or has
called its adapter. -/
structure Renewed (w₀ w : World) (name : String) : Prop where
  length : w.schedulers.length = w₀.schedulers.length
  stored : ∀ checkpoint, w.backend.store.checkpoint? name = some checkpoint →
    w₀.SavedSince w name checkpoint
  anew : ∀ (j : Nat) (p q : Scheduler), w₀.schedulers[j]? = some p → w.schedulers[j]? = some q →
    p.Anew q name (w₀.SavedSince w name)

theorem SavedSince.withSite {checkpoint : String} (h : w₀.SavedSince w name checkpoint) {s s' : Site}
    (hs : w.site? i = some s) {l : List Occurrence}
    (hj : s'.scheduler.journal = s.scheduler.journal ++ l) :
    w₀.SavedSince (w.withSite i s') name checkpoint := by
  obtain ⟨j, p, q, t, hp, hq, hnew, ho⟩ := h
  by_cases hij : i = j
  · subst hij
    cases hq.symm.trans (site?_eq_some.1 hs).1
    exact ⟨i, p, s'.scheduler, t, hp, withSite_self hs s', hnew, hj ▸ List.mem_append_left l ho⟩
  · exact ⟨j, p, q, t, hp, (List.getElem?_set_ne hij).trans hq, hnew, ho⟩

/-- A connector stays renewed through an action of a process. -/
theorem Renewed.act (h : w₀.Renewed w name) (hw₀ : ∀ p ∈ w₀.schedulers, p.Sourced) {s : Site}
    (hs : w.site? i = some s) (ho : s.scheduler.Orderly) (hb : s.backend.Reliable)
    (hp : s.scheduler.Sourced) (a : Action) : w₀.Renewed (w.withSite i (s.act a)) name := by
  obtain ⟨hi, hback, -⟩ := site?_eq_some.1 hs
  obtain ⟨l, hl⟩ := Site.act_imparts ho hb hp a
  obtain ⟨p₀, hp₀⟩ : ∃ p₀, w₀.schedulers[i]? = some p₀ :=
    ⟨_, List.getElem?_eq_getElem (h.length ▸ (List.getElem?_eq_some_iff.1 hi).1)⟩
  have ha := h.anew i p₀ _ hp₀ hi
  have hact (t : TaskId) (config : ConnectorConfig) (hfrom : p₀.origin? t = some (name, config)) :=
    Site.act_barred ho.registered (ha.barred t config hfrom) a
  have hkept (checkpoint : String) (hsaved : w₀.SavedSince w name checkpoint) :
      w₀.SavedSince (w.withSite i (s.act a)) name checkpoint := hsaved.withSite hs hl.journal
  have hsup (checkpoint : String) (hc : s.Supplies l name checkpoint) :
      w₀.SavedSince (w.withSite i (s.act a)) name checkpoint := by
    rcases hc with hc | ⟨t, ht⟩
    · exact hkept checkpoint (h.stored checkpoint (hback ▸ hc))
    · refine ⟨i, p₀, _, t, hp₀, withSite_self hs _, ?_, hl.journal ▸ List.mem_append_right _ ht⟩
      have hsourced := hw₀ p₀ (List.mem_of_getElem? hp₀)
      exact hl.later hsourced ha (fun t config hfrom => (hact t config hfrom).2) ht
  refine ⟨(List.length_set ..).trans h.length, fun checkpoint hc => hsup _ (hl.stored name checkpoint hc),
    fun j p q hp' hq => ?_⟩
  rcases withSite_schedulers hq with ⟨rfl, rfl⟩ | ⟨-, hq⟩
  · cases hp₀.symm.trans hp'
    exact hl.anew hp (ha.mono hkept) (fun t config hfrom => (hact t config hfrom).1) hsup
  · exact (h.anew j p q hp' hq).mono hkept

/-- A connector stays renewed along every run on which the store does not fail and nobody else writes. -/
theorem Renewed.run {before after : List Event} (hw : w.Initial) (hb : w.backend.Reliable)
    (hbefore : ∀ e ∈ before, e.Inner) (h : (w.run before).Renewed (w.run before) name)
    (hafter : ∀ e ∈ after, e.Inner) :
    (w.run before).Renewed ((w.run before).run after) name := by
  induction after using List.reverseRecOn with
  | nil => exact h
  | append_singleton after e ih =>
    have hrest : ∀ e' ∈ after, e'.Inner := fun e' he' => hafter e' (List.mem_append_left _ he')
    have hr := ih hrest
    have hlast := hafter e (List.mem_append_right _ List.mem_cons_self)
    rw [run_concat]
    cases e with
    | fate | write => cases hlast
    | setClock | advanceClock => exact ⟨hr.length, hr.stored, hr.anew⟩
    | act i a =>
      rw [step]
      cases hs : ((w.run before).run after).site? i with
      | none => exact hr
      | some s =>
        obtain ⟨hi, hback, -⟩ := site?_eq_some.1 hs
        have hin : ∀ e' ∈ before ++ after, e'.Inner := fun e' he' =>
          (List.mem_append.1 he').elim (hbefore e') (hrest e')
        rw [← run_append] at hi hback
        have hmem := List.mem_of_getElem? hi
        exact hr.act (run_sourced hw before) hs (run_orderly hw _ _ hmem)
          (hback ▸ run_reliable hw hb hin) (run_sourced hw _ _ hmem) a

/-- A batch that was barred stays so along a run and saves no checkpoint. -/
theorem run_barred (hw : ∀ p ∈ w.schedulers, p.Orderly) {p p' : Scheduler} {t : TaskId}
    (hp : w.schedulers[i]? = some p) (hb : p.Barred t) (events : List Event)
    (hp' : (w.run events).schedulers[i]? = some p') : p'.Barred t ∧ p'.saves t = p.saves t := by
  refine run_process (P := fun q => q.Barred t ∧ q.saves t = p.saves t) hw (fun s a ho h => ?_) hp
    ⟨hb, rfl⟩ events hp'
  obtain ⟨hbarred, hsame⟩ := Site.act_barred ho.registered h.1 a
  exact ⟨hbarred, hsame.trans h.2⟩

/-- Whether a batch of the process at `j` is out of the way once the process at `i` has restarted or
removed its connector: it is not just about to save a checkpoint, and unless it is of the same process,
it is not open. -/
def OutOfTheWay (i j : Nat) (p : Scheduler) (t : TaskId) : Prop :=
  ¬ p.Saving t ∧ (j = i ∨ ¬ p.pool.Open t)

/-- In every world whose processes share a store that does not fail, once a connector was restarted or
removed by one of them: a batch of the connector in any process that is out of the way then never saves a
checkpoint afterwards. If all of its batches are, then at every later moment a checkpoint that is stored
for the connector, or with which an adapter was called for a batch that was submitted afterwards, was
saved by a batch that was submitted afterwards. -/
theorem reset_fences (hw : w.Initial) (hb : w.backend.Reliable) {before after : List Event}
    (hbefore : ∀ e ∈ before, e.Inner) (hafter : ∀ e ∈ after, e.Inner) {s : Site}
    (hs : (w.run before).site? i = some s) {a : Action} (ha : s.Resets name a) :
    let w₁ := w.run (before ++ [.act i a])
    let w₂ := w₁.run after
    (∀ (j : Nat) (p q : Scheduler) (t : TaskId) (config : ConnectorConfig),
      w₁.schedulers[j]? = some p → w₂.schedulers[j]? = some q → p.origin? t = some (name, config) →
      OutOfTheWay i j p t → q.saves t = p.saves t) ∧
    ((∀ (j : Nat) (p : Scheduler) (t : TaskId) (config : ConnectorConfig),
      w₁.schedulers[j]? = some p → p.origin? t = some (name, config) → OutOfTheWay i j p t) →
      (∀ checkpoint, w₂.backend.store.checkpoint? name = some checkpoint →
        w₁.SavedSince w₂ name checkpoint) ∧
      ∀ (j : Nat) (p q : Scheduler), w₁.schedulers[j]? = some p → w₂.schedulers[j]? = some q →
        ∃ entries, q.journal = p.journal ++ entries ∧ ∀ t maxItems checkpoint, p.batch? t = none →
          .called t name maxItems (some checkpoint) ∈ entries → w₁.SavedSince w₂ name checkpoint) := by
  intro w₁ w₂
  obtain ⟨hi, hback, -⟩ := site?_eq_some.1 hs
  have hmem := List.mem_of_getElem? hi
  have hw₁ : w₁ = (w.run before).withSite i (s.act a) := run_act hs a
  have hacted : w₁.schedulers[i]? = some (s.act a).scheduler := hw₁ ▸ withSite_self hs _
  have hsourced := run_sourced hw (before ++ [.act i a])
  have horderly := run_orderly hw (before ++ [.act i a])
  obtain ⟨hnone, hclosed⟩ := ha.closes (run_orderly hw before _ hmem) (run_enrolled hw before _ hmem)
    (hback ▸ run_reliable hw hb hbefore) (hsourced _ (List.mem_of_getElem? hacted))
  have hbarred (j : Nat) (p : Scheduler) (t : TaskId) (config : ConnectorConfig)
      (hp : w₁.schedulers[j]? = some p) (hfrom : p.origin? t = some (name, config))
      (hout : OutOfTheWay i j p t) : p.Barred t := by
    obtain ⟨hsaving, hopen⟩ := hout
    obtain ⟨c, r, hpost, -⟩ := Scheduler.origin?_eq_some.1 hfrom
    refine (horderly p (List.mem_of_getElem? hp)).flight.barred (Scheduler.lt_of_post? hpost)
      (hopen.elim (fun hj => ?_) id) hsaving
    subst hj
    cases hacted.symm.trans hp
    exact hclosed t config hfrom
  refine ⟨fun j p q t config hp hq hfrom hout => ?_, fun hall => ?_⟩
  · exact (run_barred horderly hp (hbarred j p t config hp hfrom hout) after hq).2
  · have hrenewed : w₁.Renewed w₁ name := by
      refine ⟨rfl, fun checkpoint hc => ?_, fun j p q hp hq => ?_⟩
      · rw [hw₁] at hc
        cases hnone.symm.trans hc
      · cases hp.symm.trans hq
        exact Scheduler.anew_self fun t config hfrom =>
          hbarred j p t config hp hfrom (hall j p t config hp hfrom)
    have hlater := Renewed.run hw hb (Event.inner_concat hbefore i a) hrenewed hafter
    exact ⟨hlater.stored, fun j p q hp hq => (hlater.anew j p q hp hq).called⟩

theorem inner_secondPage : ∀ e ∈ secondPage, e.Inner := by
  intro e he
  simp only [secondPage, List.mem_cons, List.not_mem_nil, or_false] at he
  rcases he with rfl | rfl | rfl | rfl | rfl <;> trivial

/-- Once the first batch has returned, its connector is restarted. -/
def restarted : List Event := firstPage ++ [.act 0 (.restart "a")]

/-- The first batch is out of the way then, and there is no other one. -/
theorem outOfTheWay_restarted (j : Nat) (p : Scheduler) (t : TaskId) (config : ConnectorConfig)
    (hp : (duo.run restarted).schedulers[j]? = some p) (hfrom : p.origin? t = some ("a", config)) :
    OutOfTheWay 0 j p t := by
  have hshown : (duo.run restarted).schedulers.map (fun p => (p.pool.tasks.length, p.stage? 0)) =
      [(1, some (.coded 3)), (0, none)] := by decide +kernel
  have hj : ((duo.run restarted).schedulers.map fun p => (p.pool.tasks.length, p.stage? 0))[j]? =
      some (p.pool.tasks.length, p.stage? 0) := by rw [List.getElem?_map, hp, Option.map_some]
  obtain ⟨c, r, hpost, -⟩ := Scheduler.origin?_eq_some.1 hfrom
  have hlt := Scheduler.lt_of_post? hpost
  rw [hshown] at hj
  clear hp
  match j with
  | 0 =>
    obtain ⟨hlength, hstage⟩ := Prod.mk.inj (Option.some.inj hj)
    rw [← hlength, Nat.lt_one_iff] at hlt
    refine ⟨fun ⟨count, next, hs⟩ => ?_, .inl rfl⟩
    rw [hlt, ← hstage] at hs
    cases hs
  | 1 =>
    obtain ⟨hlength, -⟩ := Prod.mk.inj (Option.some.inj hj)
    rw [← hlength] at hlt
    exact absurd hlt (Nat.not_lt_zero t)

/-- The first batch saves nothing after the restart, and the third one resumes from the checkpoint of the
second one. -/
theorem reset_fences_secondPage : ∃ s p q entries,
    (duo.run firstPage).site? 0 = some s ∧ s.Resets "a" (.restart "a") ∧
    (duo.run restarted).schedulers[0]? = some p ∧
    ((duo.run restarted).run secondPage).schedulers[0]? = some q ∧ q.saves 0 = p.saves 0 ∧
    q.journal = p.journal ++ entries ∧ .called 2 "a" 56 (some "d") ∈ entries ∧
    (duo.run restarted).SavedSince ((duo.run restarted).run secondPage) "a" "d" := by
  obtain ⟨s, hs⟩ : ∃ s, (duo.run firstPage).site? 0 = some s := ⟨_, rfl⟩
  obtain ⟨p, hp⟩ : ∃ p, (duo.run restarted).schedulers[0]? = some p := ⟨_, rfl⟩
  obtain ⟨q, hq⟩ : ∃ q, ((duo.run restarted).run secondPage).schedulers[0]? = some q := ⟨_, rfl⟩
  have hok : ((duo.run firstPage).site? 0).map (fun s => (s.restartConnector "a").1.isOk) =
      some true := by decide +kernel
  rw [hs, Option.map_some, Option.some.injEq] at hok
  have ha : s.Resets "a" (.restart "a") := ⟨rfl, eq_ok_of_isOk hok⟩
  obtain ⟨hkept, hfenced⟩ := reset_fences initial_duo reliable_duo inner_firstPage inner_secondPage hs ha
  obtain ⟨hstored, hcalled⟩ := hfenced outOfTheWay_restarted
  obtain ⟨entries, hj, hcalled⟩ := hcalled 0 p q hp hq
  have hstart : ((duo.run restarted).schedulers[0]?).map (fun p =>
      (p.origin? 0, (p.batch? 2).isSome, p.journal.length)) =
      some (some ("a", { kind := "any" }), false, 7) := by decide +kernel
  have hend : (((duo.run restarted).run secondPage).schedulers[0]?).map (fun q =>
      decide (.called 2 "a" 56 (some "d") ∈ q.journal.drop 7)) = some true := by decide +kernel
  rw [hp, Option.map_some, Option.some.injEq, Prod.mk.injEq, Prod.mk.injEq] at hstart
  obtain ⟨hfrom, hnew, hlength⟩ := hstart
  rw [hq, Option.map_some, Option.some.injEq, hj, ← hlength, List.drop_left, decide_eq_true_iff] at hend
  have hnone : p.batch? 2 = none := Option.isNone_iff_eq_none.1 (Option.isSome_eq_false_iff.1 hnew)
  exact ⟨s, p, q, entries, hs, ha, hp, hq,
    hkept 0 p q 0 _ hp hq hfrom (outOfTheWay_restarted 0 p 0 _ hp hfrom), hj, hend,
    hcalled 2 56 "d" hnone hend⟩

/-- A connector that one process has configured is found by another, whose first batch for it waits for its
adapter. -/
def firstBatchElsewhere : List Event :=
  [.act 0 (.setConfig "a" { kind := "any" }), .act 0 (.setSchedule "a" "a:60:0:0-24"),
    .act 1 .detect, .act 1 (.pass [0]), .act 1 (.take 0)]

/-- A restart in the first process does not reach the batch of the second one, which saves its checkpoint
when it returns. -/
theorem reset_outlived : ¬ ∀ (w : World) (before after : List Event) (i j : Nat) (s : Site)
    (name : String) (a : Action) (p q : Scheduler) (t : TaskId) (config : ConnectorConfig), w.Initial →
    w.backend.Reliable → (∀ e ∈ before, e.Inner) → (∀ e ∈ after, e.Inner) →
    (w.run before).site? i = some s → s.Resets name a →
    (w.run (before ++ [.act i a])).schedulers[j]? = some p →
    ((w.run (before ++ [.act i a])).run after).schedulers[j]? = some q →
    p.origin? t = some (name, config) → q.saves t = p.saves t := by
  intro h
  have hbefore : ∀ e ∈ firstBatchElsewhere, e.Inner := by
    intro e he
    simp only [firstBatchElsewhere, List.mem_cons, List.not_mem_nil, or_false] at he
    rcases he with rfl | rfl | rfl | rfl | rfl <;> trivial
  have hafter : ∀ e ∈ [Event.act 1 (.conclude 0 (.page ⟨3, some "c"⟩))], e.Inner :=
    Event.inner_concat (List.forall_mem_nil _) 1 _
  obtain ⟨s, hs⟩ : ∃ s, (duo.run firstBatchElsewhere).site? 0 = some s := ⟨_, rfl⟩
  obtain ⟨p, hp⟩ : ∃ p, (duo.run (firstBatchElsewhere ++ [.act 0 (.restart "a")])).schedulers[1]? =
    some p := ⟨_, rfl⟩
  obtain ⟨q, hq⟩ : ∃ q, ((duo.run (firstBatchElsewhere ++ [.act 0 (.restart "a")])).run
    [.act 1 (.conclude 0 (.page ⟨3, some "c"⟩))]).schedulers[1]? = some q := ⟨_, rfl⟩
  have hok : ((duo.run firstBatchElsewhere).site? 0).map (fun s => (s.restartConnector "a").1.isOk) =
      some true := by decide +kernel
  have hstart : ((duo.run (firstBatchElsewhere ++ [.act 0 (.restart "a")])).schedulers[1]?).map
      (fun p => (p.origin? 0, p.saves 0)) = some (some ("a", { kind := "any" }), []) := by decide +kernel
  have hend : (((duo.run (firstBatchElsewhere ++ [.act 0 (.restart "a")])).run
      [.act 1 (.conclude 0 (.page ⟨3, some "c"⟩))]).schedulers[1]?).map (fun q => q.saves 0) =
      some ["c"] := by decide +kernel
  rw [hs, Option.map_some, Option.some.injEq] at hok
  rw [hp, Option.map_some, Option.some.injEq, Prod.mk.injEq] at hstart
  rw [hq, Option.map_some, Option.some.injEq] at hend
  have hsame := h duo firstBatchElsewhere _ 0 1 s "a" (.restart "a") p q 0 _ initial_duo reliable_duo
    hbefore hafter hs ⟨rfl, eq_ok_of_isOk hok⟩ hp hq hstart.1
  rw [hend, hstart.2] at hsame
  cases hsame

end World

end BatchTraversal
