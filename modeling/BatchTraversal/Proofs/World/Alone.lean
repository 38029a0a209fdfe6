import BatchTraversal.Proofs.Detection.Echo
import BatchTraversal.Proofs.World.Runs

/-!
# A process that is alone with its store

A process that starts out by itself, over an empty store that does not fail, mirrors its store at every
moment, as long as its batches are taken as far as they go (`World.run_alone`). So a detection finds
nothing in the store but what the process wrote itself, and recognises all of it
(`World.own_writes_recognised`).
-/

namespace BatchTraversal

namespace Site

/-- What holds of a process at every moment if it is alone with a store that does not fail. -/
structure Alone (s : Site) : Prop where
  orderly : s.scheduler.Orderly
  enrolled : s.scheduler.Enrolled
  paused : s.scheduler.Paused
  reliable : s.backend.Reliable
  mirrors : s.Mirrors

/-- What holds of such a process also between the steps of one batch. -/
structure Coherent (s : Site) : Prop where
  orderly : s.scheduler.Orderly
  enrolled : s.scheduler.Enrolled
  candid : s.scheduler.Candid
  reliable : s.backend.Reliable
  mirrors : s.Mirrors

variable {s s' : Site} {t : TaskId}

/-- A process that is alone with its store is coherent. -/
theorem Alone.coherent (h : s.Alone) : s.Coherent :=
  ⟨h.orderly, h.enrolled, h.paused.candid, h.reliable, h.mirrors⟩

/-- A turn of a batch keeps a process coherent. -/
theorem Turn.coherent (h : Turn t s s') (hs : s.Coherent) : s'.Coherent :=
  have hm : Moves s s' := .single (.turn t h)
  ⟨Moves.orderly hm hs.orderly, Moves.enrolled hm hs.enrolled, h.candid hs.candid,
    Moves.reliable hm hs.reliable,
    h.mirrors hs.orderly.flight hs.orderly.registered hs.enrolled hs.candid hs.reliable hs.mirrors⟩

/-- The turns of a batch keep a process coherent. -/
theorem Turns.coherent (h : Turns t s s') (hs : s.Coherent) : s'.Coherent := by
  induction h with
  | refl => exact hs
  | tail _ h ih => exact h.coherent ih

/-- However much upkeep is done, the process goes by what is stored. -/
theorem Upkeeps.mirrors (h : Upkeeps s s') (hm : s.Mirrors) : s'.Mirrors := by
  induction h with
  | refl => exact hm
  | tail _ h ih => exact h.mirrors ih

/-- After every action of a process that is alone with its store, it goes by what is stored. -/
theorem mirrors_act (h : s.Alone) (a : Action) : (s.act a).Mirrors := by
  have hr := h.orderly.registered
  rcases s.act_kinds a with rfl | ha | hu | ⟨t, ht⟩
  · obtain ⟨-, -, hstore, hsame⟩ := detect_mirrored hr h.reliable h.mirrors
    rw [act, Mirrors, hstore, hsame]
    exact h.mirrors
  · exact call_mirrors hr h.enrolled h.reliable h.mirrors ha
  · exact Upkeeps.mirrors hu h.mirrors
  · exact (Turns.coherent ht h.coherent).mirrors

/-- Whatever a process does that takes its batches as far as they go, it stays alone. -/
theorem Alone.act (h : s.Alone) {a : Action} (ha : a.Whole) : (s.act a).Alone :=
  have hr := h.orderly.registered
  ⟨orderly_act h.orderly a, enrolled_act hr h.enrolled a, act_paused hr h.paused ha,
    reliable_act hr h.reliable a, mirrors_act h a⟩

end Site

/-- Whether something that happens is a movement of the clock or an action that takes batches as far as
they go. -/
def Event.Undivided : Event → Prop
  | act _ a => a.Whole
  | setClock _ | advanceClock _ => True
  | fate .. | write _ => False

namespace World

variable {w : World}

/-- A world in which one process has just started, over an empty store that does not fail. -/
structure Lone (w : World) : Prop where
  initial : w.Initial
  single : w.schedulers.length = 1
  reliable : w.backend.Reliable
  empty : w.backend.store = {}

/-- A process by itself is the first one. -/
theorem eq_zero_of_site? (hone : w.schedulers.length = 1) {i : Nat} {s : Site}
    (hs : w.site? i = some s) : i = 0 := by
  have hlt := (List.getElem?_eq_some_iff.1 (site?_eq_some.1 hs).1).1
  omega

/-- In the world of a process by itself that acted there is nothing but what it has become. -/
theorem eq_of_single_act (hone : w.schedulers.length = 1) {i j : Nat} {s s' : Site} {a : Action}
    (hs : w.site? i = some s) (hs' : (w.step (.act i a)).site? j = some s') : s' = s.act a := by
  have hj := eq_zero_of_site? ((w.length_step _).trans hone) hs'
  have hi := eq_zero_of_site? hone hs
  rw [hj, ← hi, step, hs] at hs'
  exact eq_of_site?_withSite hs'

/-- What every action keeps that takes batches as far as they go holds of a process by itself along every
run of such actions. -/
theorem run_single {P : Site → Prop} (hact : ∀ s a, Action.Whole a → P s → P (s.act a))
    (hclock : ∀ (s : Site) (clock : Clock), P s → P { s with clock })
    (hone : w.schedulers.length = 1) (hw : ∀ i s, w.site? i = some s → P s) {events : List Event}
    (he : ∀ e ∈ events, e.Undivided) : ∀ i s, (w.run events).site? i = some s → P s := by
  induction events generalizing w with
  | nil => exact hw
  | cons e rest ih =>
    have hrest : ∀ e ∈ rest, e.Undivided := fun e' he' => he e' (List.mem_cons_of_mem e he')
    have hfirst := he e List.mem_cons_self
    refine ih (w := w.step e) ((w.length_step e).trans hone) ?_ hrest
    cases e with
    | fate | write => cases hfirst
    | setClock | advanceClock =>
      intro i s hs
      obtain ⟨hp, hb, -⟩ := site?_eq_some.1 hs
      have hold : P { s with clock := w.clock } := hw i _ (site?_eq_some.2 ⟨hp, hb, rfl⟩)
      exact hclock { s with clock := w.clock } s.clock hold
    | act j a =>
      intro i s hs
      cases hj : w.site? j with
      | none =>
        rw [step, hj] at hs
        exact hw i s hs
      | some s₀ =>
        rw [eq_of_single_act hone hj hs]
        exact hact s₀ a hfirst (hw j s₀ hj)

/-- A process by itself is alone with its store along every run. -/
theorem run_alone (hw : w.Lone) {events : List Event} (he : ∀ e ∈ events, e.Undivided) {i : Nat}
    {s : Site} (hs : (w.run events).site? i = some s) : s.Alone := by
  refine run_single (fun s a ha h => h.act ha)
    (fun s clock h => ⟨h.orderly, h.enrolled, h.paused, h.reliable, h.mirrors⟩) hw.single ?_ he i s hs
  intro i s hs
  obtain ⟨hp, hb, -⟩ := site?_eq_some.1 hs
  have hstart := hw.initial _ (List.mem_of_getElem? hp)
  obtain ⟨settings, pool, kinds, hok⟩ := hstart
  refine ⟨Scheduler.orderly_start hok, Scheduler.enrolled_start ⟨_, _, _, hok⟩,
    fun t count next hst => ?_, hb ▸ hw.reliable, ?_⟩
  · rw [(Scheduler.journal_start ⟨_, _, _, hok⟩).2 t] at hst
    cases hst
  · rw [Site.Mirrors, hb, hw.empty]
    exact Scheduler.mirrors_start ⟨_, _, _, hok⟩

/-- At every moment of every run of a process by itself, over a store that starts out empty, does not fail
and is written by nobody else, a detection succeeds, leaves the store as it is, and leaves the process as
it is, with its registry, its coordinators and its batches, but that the listing becomes the inventory. -/
theorem own_writes_recognised (hw : w.Lone) {events : List Event} (he : ∀ e ∈ events, e.Undivided)
    {i : Nat} {s : Site} (hs : (w.run events).site? i = some s) :
    (∃ summary, s.detect.1 = .ok summary) ∧ (s.act .detect).backend.store = s.backend.store ∧
      (s.act .detect).scheduler = { s.scheduler with inventory := s.backend.store.list } := by
  have h := run_alone hw he hs
  obtain ⟨hok, -, hstore, hsame⟩ := Site.detect_mirrored h.orderly.registered h.reliable h.mirrors
  exact ⟨hok, hstore, hsame⟩

theorem lone_solo : solo.Lone := ⟨initial_solo, rfl, fun _ h => (nomatch h), rfl⟩

theorem undivided_firstPage : ∀ e ∈ firstPage, e.Undivided := by
  intro e he
  simp only [firstPage, firstBatch, List.cons_append, List.nil_append, List.mem_cons, List.not_mem_nil,
    or_false] at he
  rcases he with rfl | rfl | rfl | rfl | rfl <;> trivial

/-- The checkpoint of the first batch, which no detection has listed yet, is recognised. -/
theorem own_writes_recognised_firstPage : ∃ s, (solo.run firstPage).site? 0 = some s ∧
    s.backend.store.checkpoint? "a" = some "c" ∧ s.scheduler.inventory.find? "a" = none ∧
    (s.act .detect).scheduler = { s.scheduler with inventory := s.backend.store.list } := by
  obtain ⟨s, hs⟩ : ∃ s, (solo.run firstPage).site? 0 = some s := ⟨_, rfl⟩
  have hshown : ((solo.run firstPage).site? 0).map (fun s =>
      (s.backend.store.checkpoint? "a", s.scheduler.inventory.find? "a")) =
      some (some "c", none) := by decide +kernel
  rw [hs, Option.map_some, Option.some.injEq, Prod.mk.injEq] at hshown
  exact ⟨s, hs, hshown.1, hshown.2, (own_writes_recognised lone_solo undivided_firstPage hs).2.2⟩

end World

end BatchTraversal
