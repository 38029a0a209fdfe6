import BatchTraversal.Proofs.Process.Coverage
import BatchTraversal.Proofs.World.Runs
import Mathlib.Data.List.Induction

/-!
# No item is skipped

Where all connectors are synthetic, the positions below a stored checkpoint have all been covered by pages
that adapters answered, in whatever process, and whatever was cancelled, edited, restarted or failed in the
meantime (`World.checkpoint_covered`). It is so of every checkpoint that is known anywhere
(`World.Complete.step`): a page goes on from a checkpoint that was known when the adapter was called, and
ends where its own checkpoint says.
-/

namespace BatchTraversal

/-- Whether the answer that an action brings a batch is one that the adapter of its traverser can give. -/
def Site.Genuine (s : Site) (a : Action) : Prop :=
  ∀ t x b r from?, a.answer? = some (t, x) → s.scheduler.batch? t = some b →
    s.scheduler.traversers[b.traverser]? = some r → b.stage = .calling from? →
    ∃ cancelled, r.adapter.permits from? b.maxItems cancelled x

/-- Whether an event stores no checkpoint from outside of the processes. It may clear some. -/
def Event.SparesCheckpoints : Event → Prop
  | .write edit => ∀ (store : Store) (name checkpoint : String),
    (edit store).checkpoint? name = some checkpoint → store.checkpoint? name = some checkpoint
  | _ => True

namespace World

open Scheduler

/-- Whether along some events the adapters answer only what they can. -/
def Genuine (w : World) : List Event → Prop
  | [] => True
  | e :: rest => (∀ i a s, e = .act i a → w.site? i = some s → s.Genuine a) ∧ (w.step e).Genuine rest

/-- Whether all connectors are synthetic along some events. -/
structure Synthetic (w : World) (events : List Event) : Prop where
  kinds : ∀ p ∈ w.schedulers, p.kinds.kinds.find? "synthetic" = some .synthetic
  made : ∀ p ∈ (w.run events).schedulers, ∀ r name config, .instantiated r name config ∈ p.journal →
    config.kind = "synthetic"
  genuine : w.Genuine events

/-- Whether a page that some adapter answered for a connector covers a position. -/
def Fetched (w : World) (name : String) (position : Nat) : Prop :=
  ∃ p ∈ w.schedulers, p.Fetched name position

/-- Whether a checkpoint of a connector is stored, or a run of some process has it with it. -/
def Knows (w : World) (name checkpoint : String) : Prop :=
  w.backend.store.checkpoint? name = some checkpoint ∨ ∃ p ∈ w.schedulers, p.Carries name checkpoint

/-- Whether a checkpoint is a number of 64 bits and the pages of a connector cover every position below it. -/
def Complete (w : World) (name checkpoint : String) : Prop :=
  ∃ n, Numeral.natural? Numeral.max64 checkpoint.toList = some n ∧ ∀ position < n, w.Fetched name position

variable {w : World} {e : Event} {name checkpoint : String} {position : Nat}

theorem Genuine.act {before after : List Event} {i : Nat} {a : Action} {s : Site}
    (h : w.Genuine (before ++ .act i a :: after)) (hs : (w.run before).site? i = some s) : s.Genuine a := by
  induction before generalizing w with
  | nil => exact h.1 i a s rfl hs
  | cons e rest ih => exact ih h.2 hs

/-- What holds of every process along a run. -/
structure Attested (p : Scheduler) : Prop where
  orderly : p.Orderly
  sourced : p.Sourced
  asked : p.Asked
  fitted : p.Fitted
  kinds : p.kinds.kinds.find? "synthetic" = some .synthetic

theorem Attested.act {s : Site} (h : Attested s.scheduler) (a : Action) : Attested (s.act a).scheduler := by
  have hr := h.orderly.registered
  obtain ⟨hkinds, hfitted⟩ := Site.act_fitted hr h.fitted a
  exact ⟨Site.orderly_act h.orderly a, Site.act_sourced h.orderly.registered h.sourced a, Site.act_asked hr h.asked a, hfitted,
    hkinds ▸ h.kinds⟩

theorem run_attested (hw : w.Initial)
    (hkinds : ∀ p ∈ w.schedulers, p.kinds.kinds.find? "synthetic" = some .synthetic)
    (events : List Event) : ∀ p ∈ (w.run events).schedulers, Attested p := by
  refine run_invariant (fun _ a h => h.act a) (fun p hp => ?_) events
  have hstage := (journal_start (hw p hp)).2
  refine ⟨run_orderly hw [] p hp, sourced_start (hw p hp), fun t from? hs => ?_, fun r hr => ?_,
    hkinds p hp⟩
  · rw [hstage t] at hs
    cases hs
  · obtain ⟨settings, pool, kinds, h⟩ := hw p hp
    rw [(start_eq_ok h).2] at hr
    cases hr

/-- A process after an event has added to its journal. -/
theorem step_journal (hw : ∀ p ∈ w.schedulers, p.Orderly) (e : Event) {p : Scheduler}
    (hp : p ∈ w.schedulers) : ∃ q ∈ (w.step e).schedulers, p.journal <+: q.journal := by
  obtain ⟨i, hi⟩ := List.getElem?_of_mem hp
  obtain ⟨q, hq⟩ : ∃ q, (w.step e).schedulers[i]? = some q :=
    ⟨_, List.getElem?_eq_getElem (w.length_step e ▸ (List.getElem?_eq_some_iff.1 hi).1)⟩
  refine ⟨q, List.mem_of_getElem? hq, ?_⟩
  rcases step_schedulers w e i hq with ⟨a, s, -, hs, -, rfl⟩ | hsame
  · cases hi.symm.trans (site?_eq_some.1 hs).1
    exact Site.act_journal (hw _ hp).registered a
  · cases hi.symm.trans hsame
    exact List.prefix_rfl

theorem Fetched.step (h : w.Fetched name position) (hw : ∀ p ∈ w.schedulers, p.Orderly) (e : Event) :
    (w.step e).Fetched name position := by
  obtain ⟨p, hp, hc⟩ := h
  obtain ⟨q, hq, hj⟩ := step_journal hw e hp
  exact ⟨q, hq, hc.mono hj⟩

theorem knows_of_site {i : Nat} {s : Site} (hs : w.site? i = some s) (h : s.Knows name checkpoint) :
    w.Knows name checkpoint := by
  obtain ⟨hp, hb, -⟩ := site?_eq_some.1 hs
  rcases h with hc | hc
  · exact .inl (hb ▸ hc)
  · exact .inr ⟨_, List.mem_of_getElem? hp, hc⟩

/-- A checkpoint that is known after an event was known before, or the event brought a batch a page with
it. -/
theorem step_knows (hw : ∀ p ∈ w.schedulers, Attested p) (he : e.SparesCheckpoints)
    (h : (w.step e).Knows name checkpoint) : w.Knows name checkpoint ∨
      ∃ i a s t b r from? page, e = .act i a ∧ w.site? i = some s ∧ a.answer? = some (t, .page page) ∧
        s.scheduler.batch? t = some b ∧ s.scheduler.traversers[b.traverser]? = some r ∧
        r.connector = name ∧ b.stage = .calling from? ∧ page.checkpoint = some checkpoint ∧
        s.scheduler.journal ++ [.answered t name (.page page)] <+: (s.act a).scheduler.journal := by
  cases e with
  | setClock | advanceClock | fate => exact .inl h
  | write edit => exact .inl (h.imp_left (he _ name checkpoint))
  | act i a =>
    cases hs : w.site? i with
    | none =>
      rw [step, hs] at h
      exact .inl h
    | some s =>
      rw [step_act hs] at h
      have hp := (site?_eq_some.1 hs).1
      have hattested := hw _ (List.mem_of_getElem? hp)
      have hacted : (s.act a).Knows name checkpoint ∨ w.Knows name checkpoint := by
        rcases h with hc | ⟨q, hq, hc⟩
        · exact .inl (.inl hc)
        · obtain ⟨j, hj⟩ := List.getElem?_of_mem hq
          rcases withSite_schedulers hj with ⟨-, rfl⟩ | ⟨-, hj⟩
          · exact .inl (.inr hc)
          · exact .inr (.inr ⟨q, List.mem_of_getElem? hj, hc⟩)
      rcases hacted with hacted | hc
      · rcases Site.act_knows hattested.orderly.registered hattested.sourced hacted with
          hc | ⟨t, x, ha, hanswered, hmoves⟩
        · exact .inl (knows_of_site hs hc)
        · rcases Site.answer_knows hattested.sourced hanswered with
            hc | ⟨b, r, from?, page, hb, hr, hname, hst, rfl, hpage, hj⟩
          · exact .inl (knows_of_site hs hc)
          · exact .inr ⟨i, a, s, t, b, r, from?, page, rfl, hs, ha, hb, hr, hname, hst, hpage,
              hj ▸ Site.Moves.journal hmoves⟩
      · exact .inl hc

/-- Whatever happens, the checkpoints that are known are complete. -/
theorem Complete.step (hw : ∀ p ∈ w.schedulers, Attested p)
    (hmade : ∀ p ∈ w.schedulers, ∀ r ∈ p.traversers, r.config.kind = "synthetic")
    (he : e.SparesCheckpoints)
    (hgenuine : ∀ i a s, e = .act i a → w.site? i = some s → s.Genuine a)
    (h : ∀ name checkpoint, w.Knows name checkpoint → w.Complete name checkpoint)
    (hk : (w.step e).Knows name checkpoint) : (w.step e).Complete name checkpoint := by
  have horderly : ∀ p ∈ w.schedulers, p.Orderly := fun p hp => (hw p hp).orderly
  have hafter {n : Nat} (hcovers : ∀ position < n, w.Fetched name position) (position : Nat)
      (hlt : position < n) : (w.step e).Fetched name position :=
    (hcovers position hlt).step horderly e
  rcases step_knows hw he hk with
    hc | ⟨i, a, s, t, b, r, from?, page, rfl, hs, ha, hb, hr, rfl, hst, hpage, hj⟩
  · obtain ⟨n, hn, hcovers⟩ := h name checkpoint hc
    exact ⟨n, hn, hafter hcovers⟩
  · have hp := (site?_eq_some.1 hs).1
    have hattested := hw _ (List.mem_of_getElem? hp)
    have hmem := List.mem_of_getElem? hr
    -- the adapter is synthetic, so that the page goes from where it was started or resumed to its end
    obtain ⟨params, hadapter, htotal⟩ := KindRegistry.instantiate_synthetic hattested.kinds
      (hmade _ (List.mem_of_getElem? hp) r hmem) (hattested.fitted r hmem)
    obtain ⟨cancelled, hpermits⟩ := hgenuine i a s rfl hs t _ b r from? ha hb hr hst
    rw [hadapter] at hpermits
    obtain ⟨start, hstart, hend, hnext⟩ := SyntheticParams.answer_page hpermits.symm
    cases hpage.symm.trans hnext
    have hread := Numeral.natural?_toString (Nat.le_trans hend htotal)
    refine ⟨start + page.count, hread, fun position hlt => ?_⟩
    have hcalling : s.scheduler.stage? t = some (.calling from?) := by
      rw [stage?_of_batch? hb, hst]
    by_cases hbefore : position < start
    · cases from? with
      | none =>
        cases hstart
        exact absurd hbefore (Nat.not_lt_zero position)
      | some text =>
        have horigin : s.scheduler.origin? t = some (r.connector, r.config) :=
          origin?_eq_some.2 ⟨_, _, post?_of_batch? hb, Option.map_eq_some_iff.2 ⟨r, hr, rfl⟩⟩
        have hknown : w.Knows r.connector text :=
          knows_of_site hs (.inr ⟨t, r.config, horigin, by rw [hcalling]; rfl⟩)
        obtain ⟨n, hn, hcovers⟩ := h r.connector text hknown
        cases hn.symm.trans hstart
        exact hafter hcovers position hbefore
    · refine ⟨(s.act a).scheduler, ?_, ?_⟩
      · rw [step_act hs]
        exact List.mem_of_getElem? (withSite_self hs _)
      · obtain ⟨future, hfuture⟩ := hj
        exact ⟨s.scheduler.journal, future, t, page, from?, start, by rw [← hfuture]; simp,
          hattested.asked t from? hcalling, hstart, Nat.le_of_not_lt hbefore, hlt⟩

/-- Traversers that were made along a run were made from synthetic configurations. -/
theorem Synthetic.traversers {before after : List Event} (h : w.Synthetic (before ++ after))
    (hw : w.Initial) {p : Scheduler} (hp : p ∈ (w.run before).schedulers) {r : Traverser}
    (hr : r ∈ p.traversers) : r.config.kind = "synthetic" := by
  obtain ⟨i, hi⟩ := List.getElem?_of_mem hp
  obtain ⟨j, hj⟩ := List.getElem?_of_mem hr
  obtain ⟨q, hq⟩ : ∃ q, (w.run (before ++ after)).schedulers[i]? = some q :=
    ⟨_, List.getElem?_eq_getElem (by
      rw [length_run, ← length_run w before]
      exact (List.getElem?_eq_some_iff.1 hi).1)⟩
  have hrecorded := (run_sourced hw before p hp).recorded j r.connector r.config
    (Option.map_eq_some_iff.2 ⟨r, hj, rfl⟩)
  have hlater := (run_lasts hw (List.prefix_append before after) hi hq).journal hrecorded
  exact h.made q (List.mem_of_getElem? hq) _ _ _ hlater

/-- At every moment of a run on which all connectors are synthetic, and no checkpoint is stored but by the
processes, the checkpoints that are known are complete. -/
theorem run_complete (hw : w.Initial) (hfresh : ∀ name, w.backend.store.checkpoint? name = none)
    (before after : List Event) (hsynthetic : w.Synthetic (before ++ after))
    (hspares : ∀ e ∈ before, e.SparesCheckpoints) (hk : (w.run before).Knows name checkpoint) :
    (w.run before).Complete name checkpoint := by
  induction before using List.reverseRecOn generalizing after name checkpoint with
  | nil =>
    rcases hk with hc | ⟨p, hp, t, config, -, hs⟩
    · rw [show (w.run []).backend = w.backend from rfl, hfresh name] at hc
      cases hc
    · rw [(journal_start (hw p hp)).2 t] at hs
      cases hs
  | append_singleton before e ih =>
    have hevents : before ++ [e] ++ after = before ++ e :: after := by simp
    rw [hevents] at hsynthetic
    rw [run_concat] at hk ⊢
    refine Complete.step (run_attested hw hsynthetic.kinds before)
      (fun p hp r hr => hsynthetic.traversers hw hp hr) (hspares e (by simp)) ?_
      (fun name checkpoint hk => ih (e :: after) hsynthetic ?_ hk) hk
    · rintro i a s rfl hs
      exact hsynthetic.genuine.act hs
    · exact fun e he => hspares e (List.mem_append_left _ he)

/-- At every moment of every run on which all connectors are synthetic and only batches, restarts and removals
write checkpoints, a stored checkpoint is a decimal number of 64 bits, and the pages that adapters answered
for its connector so far, each from where it was started or resumed as far as it counts, cover every position
below that number. There may be any number of processes, any edits, cancellations, late ends and failures of
the store. -/
theorem checkpoint_covered (hw : w.Initial) (hfresh : ∀ name, w.backend.store.checkpoint? name = none)
    {events : List Event} (hsynthetic : w.Synthetic events)
    (hspares : ∀ e ∈ events, e.SparesCheckpoints)
    (hc : (w.run events).backend.store.checkpoint? name = some checkpoint) :
    ∃ n, Numeral.natural? Numeral.max64 checkpoint.toList = some n ∧
      ∀ position < n, (w.run events).Fetched name position :=
  run_complete hw hfresh events [] (by rwa [List.append_nil]) hspares (.inl hc)

/-- A process with one worker that knows the synthetic kind of connectors. -/
def syntheticProcess : Scheduler := { soloProcess with kinds := .ofList [.synthetic] }

/-- That process by itself. -/
def generated : World := { clock := { now := ⟨0⟩ }, schedulers := [syntheticProcess] }

theorem initial_generated : generated.Initial := by
  intro p hp
  rw [List.mem_singleton.1 hp]
  exact ⟨{}, soloProcess.pool.settings, .ofList [.synthetic], rfl⟩

theorem genuine_cons_of_silent {rest : List Event} (he : ∀ i a, e = .act i a → a.answer? = none)
    (h : (w.step e).Genuine rest) : w.Genuine (e :: rest) := by
  refine ⟨fun i a s hact _ t x b r from? ha => ?_, h⟩
  rw [he i a hact] at ha
  cases ha

/-- What a batch waits for: the adapter it has called, with what, and for how many items. -/
def waits? (w : World) (i : Nat) (t : TaskId) : Option (Adapter × RunStage × Nat) :=
  (w.site? i).bind fun s => (s.scheduler.batch? t).bind fun b =>
    (s.scheduler.traversers[b.traverser]?).map fun r => (r.adapter, b.stage, b.maxItems)

theorem genuine_cons_conclude {rest : List Event} {i : Nat} {t : TaskId} {x : Answer} {adapter : Adapter}
    {from? : Option String} {maxItems : Nat}
    (hw : w.waits? i t = some (adapter, .calling from?, maxItems))
    (hx : adapter.permits from? maxItems false x) (h : (w.step (.act i (.conclude t x))).Genuine rest) :
    w.Genuine (.act i (.conclude t x) :: rest) := by
  refine ⟨fun j a s hact hs u y b r waited ha hb hr hst => ⟨false, ?_⟩, h⟩
  cases hact
  cases ha
  simp only [waits?, hs, hb, hr, hst, Option.bind_some, Option.map_some, Option.some.injEq, Prod.mk.injEq,
    RunStage.calling.injEq] at hw
  obtain ⟨rfl, rfl, rfl⟩ := hw
  exact hx

/-- Two batches of sixty items, a minute apart, are each answered with a page of as many. -/
def twoPages : List Event :=
  [.act 0 (.setConfig "a" { kind := "synthetic" }), .act 0 (.setSchedule "a" "a:60:0:0-24"),
    .act 0 (.pass [0]), .act 0 (.take 0), .act 0 (.conclude 0 (.page ⟨60, some "60"⟩)),
    .advanceClock (.ofSeconds 60), .act 0 (.pass [0]), .act 0 (.take 0),
    .act 0 (.conclude 1 (.page ⟨60, some "120"⟩))]

theorem synthetic_twoPages : generated.Synthetic twoPages where
  kinds p hp := by
    rw [List.mem_singleton.1 hp]
    rfl
  made p hp r name config ho := by
    have hend : (generated.run twoPages).schedulers.map (fun p => p.journal.filterMap fun
        | .instantiated _ _ config => some config.kind
        | _ => none) = [["synthetic"]] := by decide +kernel
    have hkinds := List.mem_map_of_mem (f := fun p : Scheduler => p.journal.filterMap fun
        | .instantiated _ _ config => some config.kind
        | _ => none) hp
    rw [hend, List.mem_singleton] at hkinds
    exact List.mem_singleton.1 (hkinds ▸ List.mem_filterMap.2 ⟨_, ho, rfl⟩)
  genuine := by
    have hsilent {a : Action} (ha : a.answer? = none) (i j : Nat) (b : Action)
        (h : Event.act i a = .act j b) : b.answer? = none := by
      cases h
      exact ha
    have hstart : (generated.run (twoPages.take 4)).waits? 0 0 =
        some (.synthetic {}, .calling none, 60) := by decide +kernel
    have hresume : (generated.run (twoPages.take 8)).waits? 0 1 =
        some (.synthetic {}, .calling (some "60"), 60) := by decide +kernel
    exact genuine_cons_of_silent (hsilent rfl 0) <| genuine_cons_of_silent (hsilent rfl 0) <|
      genuine_cons_of_silent (hsilent rfl 0) <| genuine_cons_of_silent (hsilent rfl 0) <|
      genuine_cons_conclude hstart rfl <| genuine_cons_of_silent nofun <|
      genuine_cons_of_silent (hsilent rfl 0) <| genuine_cons_of_silent (hsilent rfl 0) <|
      genuine_cons_conclude hresume rfl trivial

/-- The checkpoint after two pages of sixty items is 120, and the 120 positions below it have all been fetched. -/
theorem checkpoint_covered_twoPages : generated.Initial ∧ generated.Synthetic twoPages ∧
    (∀ e ∈ twoPages, e.SparesCheckpoints) ∧
    (generated.run twoPages).backend.store.checkpoint? "a" = some "120" ∧
    Numeral.natural? Numeral.max64 "120".toList = some 120 ∧
    ∀ position < 120, (generated.run twoPages).Fetched "a" position := by
  have hspares : ∀ e ∈ twoPages, e.SparesCheckpoints := by
    simp [twoPages, Event.SparesCheckpoints]
  have hstored : (generated.run twoPages).backend.store.checkpoint? "a" = some "120" := by decide +kernel
  have hread : Numeral.natural? Numeral.max64 "120".toList = some 120 := by decide
  obtain ⟨n, hn, hcovers⟩ := checkpoint_covered initial_generated (fun _ => rfl) synthetic_twoPages hspares
    hstored
  cases hn.symm.trans hread
  exact ⟨initial_generated, synthetic_twoPages, hspares, hstored, hread, hcovers⟩

end World

end BatchTraversal
