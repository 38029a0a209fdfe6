import BatchTraversal.Proofs.Process.Reuse
import BatchTraversal.Proofs.Process.Tallies

/-!
# What holds along every run

A run starts with processes that know no connector yet, over any store and at any time, and goes
through any sequence of events. Whatever the actions of a process keep holds of every process at every
moment of a run (`World.run_invariant`). So every registered name has its live coordinator, and every
coordinator has at most one batch in flight that counts (`World.single_flight`).
-/

namespace BatchTraversal

/-- What every process keeps. -/
structure Scheduler.Orderly (p : Scheduler) : Prop where
  flight : p.Flight
  registered : p.Registered

theorem Scheduler.orderly_start {settings : SchedulerSettings} {pool : PoolSettings}
    {kinds : KindRegistry} {p : Scheduler} (h : Scheduler.start settings pool kinds = .ok p) :
    p.Orderly := by
  refine ⟨flight_start h, fun name c hn => ?_⟩
  rw [(start_eq_ok h).2] at hn
  cases hn

theorem Site.Moves.orderly {s s' : Site} (h : Moves s s') (ho : s.scheduler.Orderly) :
    s'.scheduler.Orderly := ⟨h.flight ho.flight, h.registered ho.registered⟩

theorem Site.orderly_act {s : Site} (ho : s.scheduler.Orderly) (a : Action) :
    (s.act a).scheduler.Orderly := by
  obtain ⟨s', inventory, h, e⟩ := act_moves ho.registered a
  rw [e]
  exact ⟨(h.orderly ho).flight.congr rfl rfl, (h.orderly ho).registered⟩

namespace World

/-- A world whose processes have just started. -/
def Initial (w : World) : Prop :=
  ∀ p ∈ w.schedulers, ∃ settings pool kinds, Scheduler.start settings pool kinds = .ok p

theorem run_append (w : World) (before after : List Event) :
    w.run (before ++ after) = (w.run before).run after := List.foldl_append

theorem run_concat (w : World) (events : List Event) (e : Event) :
    w.run (events ++ [e]) = (w.run events).step e := run_append w events [e]

theorem step_act {w : World} {i : Nat} {s : Site} (hs : w.site? i = some s) (a : Action) :
    w.step (.act i a) = w.withSite i (s.act a) := by
  rw [step, hs]

theorem run_act {w : World} {events : List Event} {i : Nat} {s : Site}
    (hs : (w.run events).site? i = some s) (a : Action) :
    w.run (events ++ [.act i a]) = (w.run events).withSite i (s.act a) := by
  rw [run_concat, step_act hs]

/-- A process after the one at a place has become another: that one, or one that is as it was. -/
theorem withSite_schedulers {w : World} {i j : Nat} {s : Site} {q : Scheduler}
    (hq : (w.withSite i s).schedulers[j]? = some q) :
    j = i ∧ q = s.scheduler ∨ j ≠ i ∧ w.schedulers[j]? = some q := by
  rw [withSite, List.getElem?_set] at hq
  split at hq
  · next hij =>
    split at hq
    · exact .inl ⟨hij.symm, (Option.some.inj hq).symm⟩
    · cases hq
  · next hij => exact .inr ⟨Ne.symm hij, hq⟩

/-- A process after an event: it acted, or it is as it was. -/
theorem step_schedulers (w : World) (e : Event) (i : Nat) {p' : Scheduler}
    (h : (w.step e).schedulers[i]? = some p') :
    (∃ a s, e = .act i a ∧ w.site? i = some s ∧ w.step e = w.withSite i (s.act a) ∧
      p' = (s.act a).scheduler) ∨ w.schedulers[i]? = some p' := by
  cases e with
  | setClock | advanceClock | fate | write => exact .inr h
  | act j a =>
    cases hs : w.site? j with
    | none =>
      rw [step, hs] at h
      exact .inr h
    | some s =>
      rw [step_act hs] at h
      rcases withSite_schedulers h with ⟨rfl, hp'⟩ | ⟨-, hp⟩
      · exact .inl ⟨a, s, rfl, hs, step_act hs a, hp'⟩
      · exact .inr hp

/-- What a process has to do with the site it acts in. -/
theorem site?_eq_some {w : World} {i : Nat} {s : Site} :
    w.site? i = some s ↔
      w.schedulers[i]? = some s.scheduler ∧ s.backend = w.backend ∧ s.clock = w.clock := by
  simp only [site?, Option.map_eq_some_iff]
  constructor
  · rintro ⟨p, hp, rfl⟩
    exact ⟨hp, rfl, rfl⟩
  · rintro ⟨hp, hb, hc⟩
    exact ⟨_, hp, by rw [← hb, ← hc]⟩

/-- The process at a place after it has become another. -/
theorem withSite_self {w : World} {i : Nat} {s : Site} (hs : w.site? i = some s) (s' : Site) :
    (w.withSite i s').schedulers[i]? = some s'.scheduler :=
  List.getElem?_set_self (List.getElem?_eq_some_iff.1 (site?_eq_some.1 hs).1).1

/-- The process that acted is what it has become. -/
theorem eq_of_site?_withSite {w : World} {i : Nat} {s s' : Site}
    (h : (w.withSite i s).site? i = some s') : s' = s := by
  obtain ⟨hp, hb, hc⟩ := site?_eq_some.1 h
  obtain ⟨p, b, c⟩ := s'
  cases hb
  cases hc
  rcases withSite_schedulers hp with ⟨-, rfl⟩ | ⟨hne, -⟩
  · rfl
  · exact absurd rfl hne

/-- No process is added or taken away. -/
theorem length_step (w : World) (e : Event) : (w.step e).schedulers.length = w.schedulers.length := by
  cases e with
  | setClock | advanceClock | fate | write => rfl
  | act i a =>
    rw [step]
    split
    · rfl
    · exact List.length_set ..

theorem length_run (w : World) (events : List Event) :
    (w.run events).schedulers.length = w.schedulers.length := by
  induction events generalizing w with
  | nil => rfl
  | cons e rest ih => exact (ih (w.step e)).trans (w.length_step e)

/-- What every action of a process keeps holds of a process along every run. -/
theorem run_invariant {P : Scheduler → Prop}
    (hact : ∀ (s : Site) (a : Action), P s.scheduler → P (s.act a).scheduler) {w : World}
    (hw : ∀ p ∈ w.schedulers, P p) (events : List Event) :
    ∀ p ∈ (w.run events).schedulers, P p := by
  induction events generalizing w with
  | nil => exact hw
  | cons e rest ih =>
    refine ih (w := w.step e) fun p' hp' => ?_
    obtain ⟨i, hi⟩ := List.getElem?_of_mem hp'
    rcases step_schedulers w e i hi with ⟨a, s, -, hs, -, rfl⟩ | hp
    · exact hact s a (hw _ (List.mem_of_getElem? (site?_eq_some.1 hs).1))
    · exact hw p' (List.mem_of_getElem? hp)

/-- Every process is orderly along every run. -/
theorem run_orderly {w : World} (hw : w.Initial) (events : List Event) :
    ∀ p ∈ (w.run events).schedulers, p.Orderly :=
  run_invariant (fun _ a h => Site.orderly_act h a)
    (fun _ hp => let ⟨_, _, _, h⟩ := hw _ hp; Scheduler.orderly_start h) events

/-- What the actions of an orderly process keep of one process holds of it along every run. -/
theorem run_process {P : Scheduler → Prop} {w : World} (hw : ∀ p ∈ w.schedulers, p.Orderly)
    (hact : ∀ (s : Site) (a : Action), s.scheduler.Orderly → P s.scheduler → P (s.act a).scheduler)
    {i : Nat} {p : Scheduler} (hp : w.schedulers[i]? = some p) (h : P p) (events : List Event)
    {q : Scheduler} (hq : (w.run events).schedulers[i]? = some q) : P q := by
  induction events generalizing w p with
  | nil =>
    obtain rfl : p = q := Option.some.inj (hp.symm.trans hq)
    exact h
  | cons e rest ih =>
    have hw' := run_invariant (fun _ a ho => Site.orderly_act ho a) hw [e]
    obtain ⟨p', hp'⟩ : ∃ p', (w.step e).schedulers[i]? = some p' :=
      ⟨_, List.getElem?_eq_getElem (w.length_step e ▸ (List.getElem?_eq_some_iff.1 hp).1)⟩
    refine ih hw' hp' ?_ hq
    rcases step_schedulers w e i hp' with ⟨a, s, -, hs, -, rfl⟩ | hsame
    · have hi := (site?_eq_some.1 hs).1
      cases hp.symm.trans hi
      exact hact s a (hw _ (List.mem_of_getElem? hi)) h
    · cases hp.symm.trans hsame
      exact h

/-- What a process keeps along a run. -/
theorem run_lasts {w : World} (hw : w.Initial) {before events : List Event} (hpre : before <+: events)
    {i : Nat} {p q : Scheduler} (hp : (w.run before).schedulers[i]? = some p)
    (hq : (w.run events).schedulers[i]? = some q) : p.Lasts q := by
  obtain ⟨after, rfl⟩ := hpre
  rw [run_append] at hq
  exact run_process (run_orderly hw before)
    (fun s a ho h => h.trans (Site.act_lasts ho.registered a)) hp (.refl p) after hq

/-- Every process keeps its coordinators enrolled along every run. -/
theorem run_enrolled {w : World} (hw : w.Initial) (events : List Event) :
    ∀ p ∈ (w.run events).schedulers, p.Enrolled := by
  have h := run_invariant (P := fun p => p.Orderly ∧ p.Enrolled)
    (fun _ a h => ⟨Site.orderly_act h.1 a, Site.enrolled_act h.1.registered h.2 a⟩)
    (fun p hp => ⟨run_orderly hw [] p hp, Scheduler.enrolled_start (hw p hp)⟩) events
  exact fun p hp => (h p hp).2

/-- What the processes of a run are made of comes from where they say. -/
theorem run_sourced {w : World} (hw : w.Initial) (events : List Event) :
    ∀ p ∈ (w.run events).schedulers, p.Sourced := by
  have h := run_invariant (P := fun p => p.Orderly ∧ p.Sourced)
    (fun _ a h => ⟨Site.orderly_act h.1 a, Site.act_sourced h.1.registered h.2 a⟩)
    (fun p hp => ⟨run_orderly hw [] p hp, Scheduler.sourced_start (hw p hp)⟩) events
  exact fun p hp => (h p hp).2

/-! ## Single flight -/

/-- At every moment of every run, the batches of a coordinator carry distinct generations, none above
its present one. At most one of them that has not ended was not cancelled; it carries the present
generation, and its handle is the one kept. The coordinator is running exactly if the batch of that
handle is queued or occupies a worker. -/
theorem single_flight {w : World} (hw : w.Initial) (events : List Event) {i : Nat} {p : Scheduler}
    (hp : (w.run events).schedulers[i]? = some p) {c : CoordinatorId} {k : Coordinator}
    (hk : p.coordinators[c]? = some k) :
    (∀ t g, p.order? t = some (c, g) → g ≤ k.generation) ∧
    (∀ t u g, p.order? t = some (c, g) → p.order? u = some (c, g) → t = u) ∧
    (∀ t g, p.order? t = some (c, g) → p.pool.Open t → g = k.generation ∧ k.handle = some t) ∧
    (∀ t u g g', p.order? t = some (c, g) → p.order? u = some (c, g') → p.pool.Open t →
      p.pool.Open u → t = u) ∧
    ∀ now, (p.phase c now).1 = .running ↔
      ∃ t, k.handle = some t ∧ (t ∈ p.pool.queue ∨ p.pool.isRunning t) := by
  have h := (run_orderly hw events p (List.mem_of_getElem? hp)).flight
  have hopen (t : TaskId) (g : Nat) (ho : p.order? t = some (c, g)) (ht : p.pool.Open t) :
      g = k.generation ∧ k.handle = some t := by
    have hh := h.single t c g k ho hk ht
    have hg := h.handled c k t hk hh
    rw [ho] at hg
    cases hg
    exact ⟨rfl, hh⟩
  refine ⟨fun t g ho => ?_, fun t u g => h.distinct t u c g, hopen, ?_, h.phase_running_iff hk⟩
  · obtain ⟨l, hl, hg⟩ := h.owned t c g ho
    rw [hk] at hl
    cases hl
    exact hg
  · intro t u g g' ht hu hto huo
    exact Option.some.inj ((hopen t g ht hto).2.symm.trans (hopen u g' hu huo).2)

/-- A call that succeeds and has nothing to return. -/
theorem eq_ok_of_isOk {ε : Type} {r : Except ε Unit} (h : r.isOk) : r = .ok () := by
  cases r with
  | ok => rfl
  | error => cases h

/-- A process with one worker and one kind of connector, which accepts every configuration. -/
def soloProcess : Scheduler :=
  { settings := {}
    kinds := .ofList
      [{ name := "any", validate := fun _ => .ok (), instantiate := fun _ _ => .ok .external }]
    pool := { settings := { name := "solo", workers := 1 }, workers := [0], spawned := 1 }
    throttle := .make (SchedulerSettings.loadPeriod {}) (SchedulerSettings.maxBatchSize {}) }

/-- That process by itself. -/
def solo : World := { clock := { now := ⟨0⟩ }, schedulers := [soloProcess] }

theorem initial_solo : solo.Initial := by
  intro p hp
  rw [List.mem_singleton.1 hp]
  exact ⟨{}, soloProcess.pool.settings, soloProcess.kinds, rfl⟩

/-- A connector is configured and scheduled for every hour, a pass submits a batch for it, and the
worker takes the batch. -/
def firstBatch : List Event :=
  [.act 0 (.setConfig "a" { kind := "any" }), .act 0 (.setSchedule "a" "a:60:0:0-24"),
    .act 0 (.pass [0]), .act 0 (.take 0)]

/-- The first batch of a connector returns with a page of three items. -/
def firstPage : List Event := firstBatch ++ [.act 0 (.conclude 0 (.page ⟨3, some "c"⟩))]

/-- The batch that the worker has taken is the coordinator's only open one, of its generation and under its handle. -/
theorem single_flight_solo : ∃ p k, (solo.run firstBatch).schedulers[0]? = some p ∧
    p.coordinators[0]? = some k ∧ p.order? 0 = some (0, 3) ∧ p.pool.Open 0 ∧
    3 = k.generation ∧ k.handle = some 0 :=
  ⟨_, _, rfl, rfl, rfl, ⟨.inr rfl, Bool.false_ne_true⟩,
    (single_flight initial_solo firstBatch (i := 0) (c := 0) rfl rfl).2.2.1 0 3 rfl
      ⟨.inr rfl, Bool.false_ne_true⟩⟩

end World

end BatchTraversal
