import BatchTraversal.Proofs.Process.Figures
import BatchTraversal.Proofs.World.Runs
import Mathlib.Data.List.Induction
import Mathlib.Data.List.Infix

/-!
# The metrics and the sink along a run

Whatever happens to a process, what is noted of the batches of a connector is what the results come to that were
delivered to the sink of the scheduling loop since the last pass at whose end the connector was not registered
(`World.sums_run`), or since the beginning if there was none. Every event either adds to both or leaves both,
but for such a pass, from which both begin anew: results that come late, removals and connectors that are
configured again between the passes make no difference. So all maps of batches have the same connectors, and
after a pass the metrics are of registered connectors only (`World.figures_agree`).
-/

namespace BatchTraversal

open Metrics

namespace World

/-- Whether some events end with a pass of the process at a place after which it has not registered a connector. -/
def Clears (w : World) (i : Nat) (name : String) (events : List Event) : Prop :=
  ∃ before order p, events = before ++ [.act i (.pass order)] ∧ (w.run events).schedulers[i]? = some p ∧
    p.coordinator? name = none

/-- Whether `before` are the first of some events, up to the last pass that ends without the connector, or none of
them if there is no such pass. -/
structure UpToClearing (w : World) (i : Nat) (name : String) (events before : List Event) : Prop where
  first : before <+: events
  clears : before = [] ∨ w.Clears i name before
  last : ∀ others, others <+: events → w.Clears i name others → others <+: before

variable {w : World} {i : Nat} {name : String} {events before : List Event} {e : Event}

theorem upToClearing_nil (w : World) (i : Nat) (name : String) : w.UpToClearing i name [] [] :=
  ⟨List.prefix_rfl, .inl rfl, fun _ h _ => h⟩

theorem Clears.upTo (h : w.Clears i name events) : w.UpToClearing i name events events :=
  ⟨List.prefix_rfl, .inr h, fun _ h _ => h⟩

theorem UpToClearing.concat (h : w.UpToClearing i name events before)
    (hno : ¬ w.Clears i name (events ++ [e])) : w.UpToClearing i name (events ++ [e]) before := by
  refine ⟨h.first.trans (List.prefix_append ..), h.clears, fun others hothers hclears => ?_⟩
  rcases List.prefix_concat_iff.1 hothers with rfl | hothers
  · exact absurd hclears hno
  · exact h.last others hothers hclears

/-- Only a pass of the process clears. -/
theorem not_clears (h : ∀ order, e ≠ .act i (.pass order)) : ¬ w.Clears i name (events ++ [e]) := by
  rintro ⟨before, order, -, he, -⟩
  cases (List.append_inj' he rfl).2
  exact h order rfl

/-- What is noted of a connector in a process, and what was delivered since the last pass that ended without it. -/
structure Figures (w : World) (i : Nat) (name : String) (events : List Event) (p : Scheduler)
    (results : List BatchResult) : Prop where
  since : ∃ before p₀, w.UpToClearing i name events before ∧ (w.run before).schedulers[i]? = some p₀ ∧
    resultsOf name p.sunk = resultsOf name p₀.sunk ++ results
  sums : p.metrics.Sums name results

theorem Figures.concat {p q : Scheduler} {results : List BatchResult} {deliveries : List (String × BatchResult)}
    (h : w.Figures i name events p results) (hp : ∀ o ∈ p.journal, p.Knows o) (hd : p.Delivers q deliveries)
    (hno : ¬ w.Clears i name (events ++ [e]))
    (hsums : q.metrics.Sums name (results ++ resultsOf name deliveries)) :
    w.Figures i name (events ++ [e]) q (results ++ resultsOf name deliveries) := by
  obtain ⟨before, p₀, hup, hp₀, hsunk⟩ := h.since
  refine ⟨⟨before, p₀, hup.concat hno, hp₀, ?_⟩, hsums⟩
  rw [hd.sunk hp, resultsOf, List.filterMap_append, ← List.append_assoc, ← hsunk]
  rfl

/-- An event that is no pass of the process records what it delivers. -/
theorem Figures.records {p q : Scheduler} {results : List BatchResult} (h : w.Figures i name events p results)
    (hp : ∀ o ∈ p.journal, p.Knows o) (hrec : p.Records q) (he : ∀ order, e ≠ .act i (.pass order)) :
    ∃ results, w.Figures i name (events ++ [e]) q results := by
  obtain ⟨deliveries, hd, hm⟩ := hrec
  exact ⟨_, h.concat hp hd (not_clears he) (hm ▸ h.sums.recordAll deliveries)⟩

/-- A pass keeps what is noted of a registered connector, and what is noted of any other one begins anew. -/
theorem Figures.pass {s : Site} {results : List BatchResult} (h : w.Figures i name events s.scheduler results)
    (hp : ∀ o ∈ s.scheduler.journal, s.scheduler.Knows o) {order : List CoordinatorId}
    (hq : (w.run (events ++ [.act i (.pass order)])).schedulers[i]? = some (s.act (.pass order)).scheduler) :
    ∃ results, w.Figures i name (events ++ [.act i (.pass order)]) (s.act (.pass order)).scheduler results := by
  obtain ⟨hd, hsums, -, hregistry⟩ := s.act_pass order
  have hsame : (s.act (.pass order)).scheduler.coordinator? name = s.scheduler.coordinator? name :=
    congrArg (·.find? name) hregistry
  have hnew := hsums name results h.sums
  cases hname : s.scheduler.coordinator? name with
  | none =>
    have hclears : w.Clears i name (events ++ [.act i (.pass order)]) :=
      ⟨events, order, _, rfl, hq, hsame.trans hname⟩
    rw [hname] at hnew
    exact ⟨[], ⟨_, _, hclears.upTo, hq, (List.append_nil _).symm⟩, hnew⟩
  | some c =>
    rw [hname] at hnew
    refine ⟨_, h.concat hp hd ?_ ((List.append_nil results).symm ▸ hnew)⟩
    rintro ⟨-, -, p', -, hp', hnone⟩
    cases hq.symm.trans hp'
    cases (hsame.trans hname).symm.trans hnone

/-- A process that acts by the last event was there before it. -/
theorem site_of_run_act {a : Action} {p : Scheduler}
    (hp : (w.run (events ++ [.act i a])).schedulers[i]? = some p) :
    ∃ s, (w.run events).site? i = some s ∧ (s.act a).scheduler = p := by
  obtain ⟨p₀, hp₀⟩ : ∃ p₀, (w.run events).schedulers[i]? = some p₀ :=
    ⟨_, List.getElem?_eq_getElem ((length_run ..).trans (length_run ..).symm ▸
      (List.getElem?_eq_some_iff.1 hp).1)⟩
  have hs : (w.run events).site? i = some ⟨p₀, _, _⟩ := site?_eq_some.2 ⟨hp₀, rfl, rfl⟩
  exact ⟨_, hs, Option.some.inj ((withSite_self hs _).symm.trans (run_act hs a ▸ hp))⟩

/-- At every moment of every run, what is noted of the batches of a connector is what the results come to that were
delivered to the sink since the last pass that ended without it. -/
theorem sums_run (hw : w.Initial) (events : List Event) {p : Scheduler}
    (hp : (w.run events).schedulers[i]? = some p) :
    (∀ o ∈ p.journal, p.Knows o) ∧ ∀ name, ∃ results, w.Figures i name events p results := by
  induction events using List.reverseRecOn generalizing p with
  | nil =>
    have hfresh := hw p (List.mem_of_getElem? hp)
    refine ⟨fun o ho => ?_, fun name => ⟨[], ⟨[], p, upToClearing_nil w i name, hp, ?_⟩, ?_⟩⟩
    · rw [(Scheduler.journal_start hfresh).1] at ho
      cases ho
    · exact (List.append_nil _).symm
    · rw [Scheduler.metrics_start hfresh]
      exact sums_empty name
  | append_singleton events e ih =>
    have hrecorded {p₀ : Scheduler} (hp₀ : (w.run events).schedulers[i]? = some p₀) (hrec : p₀.Records p)
        (he : ∀ order, e ≠ .act i (.pass order)) :
        (∀ o ∈ p.journal, p.Knows o) ∧
          ∀ name, ∃ results, w.Figures i name (events ++ [e]) p results := by
      obtain ⟨hknows, hfigures⟩ := ih hp₀
      refine ⟨?_, fun name => ?_⟩
      · obtain ⟨deliveries, hd, -⟩ := hrec
        exact hd.knows hknows
      · obtain ⟨results, h⟩ := hfigures name
        exact h.records hknows hrec he
    by_cases hact : ∃ a, e = .act i a
    · obtain ⟨a, rfl⟩ := hact
      obtain ⟨s, hs, rfl⟩ := site_of_run_act hp
      have hp₀ := (site?_eq_some.1 hs).1
      by_cases hpass : ∃ order, a = .pass order
      · obtain ⟨order, rfl⟩ := hpass
        obtain ⟨hknows, hfigures⟩ := ih hp₀
        refine ⟨(s.act_pass order).1.knows hknows, fun name => ?_⟩
        obtain ⟨results, h⟩ := hfigures name
        exact h.pass hknows hp
      · have hr := (run_orderly hw events _ (List.mem_of_getElem? hp₀)).registered
        refine hrecorded hp₀ (s.act_records hr fun order he => hpass ⟨order, he⟩) fun order he => ?_
        cases he
        exact hpass ⟨order, rfl⟩
    · rw [run_concat] at hp
      rcases step_schedulers (w.run events) e i hp with ⟨a, -, he, -⟩ | hsame
      · exact absurd ⟨a, he⟩ hact
      · exact hrecorded hsame (.refl _) fun order he => hact ⟨_, he⟩

/-- The metrics of a process and the results that were delivered to the sink of its scheduling loop, at every
moment of every run, while fewer than 2^64 results with fewer than 2^64 items were delivered for any connector.
The number of batches, the number of items, the mean duration and the last result are noted of the same
connectors. Of these, a connector is one if results were delivered for it since the last pass at whose end it
was not registered, or since the beginning if there is none; the number of batches is the number of these
results, the number of items the sum of their counts, and the last result the last of them. At the end of every
pass something is noted of registered connectors only. -/
theorem figures_agree (hw : w.Initial) (events : List Event) {p : Scheduler}
    (hp : (w.run events).schedulers[i]? = some p)
    (htotal : ∀ name, (resultsOf name p.sunk).length < Numeral.size64 ∧
      ((resultsOf name p.sunk).map (·.count)).sum < Numeral.size64) :
    (p.metrics.items.keys = p.metrics.completed.keys ∧ p.metrics.average.keys = p.metrics.completed.keys ∧
      p.metrics.last.keys = p.metrics.completed.keys) ∧
    (∀ name, ∃ before p₀ results, w.UpToClearing i name events before ∧
      (w.run before).schedulers[i]? = some p₀ ∧ resultsOf name p.sunk = resultsOf name p₀.sunk ++ results ∧
      (name ∈ p.metrics.completed.keys ↔ results ≠ []) ∧
      (results ≠ [] → p.metrics.completed.find? name = some results.length ∧
        p.metrics.items.find? name = some (results.map (·.count)).sum ∧
        p.metrics.last.find? name = results.getLast?)) ∧
    ∀ before order, events = before ++ [.act i (.pass order)] →
      ∀ name ∈ p.metrics.names, name ∈ p.names := by
  obtain ⟨-, hfigures⟩ := sums_run hw events hp
  refine ⟨?_, fun name => ?_, ?_⟩
  · simp only [NameMap.keys_eq_iff]
    refine ⟨fun name => ?_, fun name => ?_, fun name => ?_⟩ <;>
      obtain ⟨results, -, h⟩ := hfigures name
    · rw [h.items, h.completed]
      cases results.isEmpty <;> simp
    · rw [h.average, h.completed]
      cases results.isEmpty <;> simp
    · rw [h.last, h.completed]
      cases results <;> simp
  · obtain ⟨results, ⟨before, p₀, hup, hp₀, hsunk⟩, h⟩ := hfigures name
    refine ⟨before, p₀, results, hup, hp₀, hsunk, ?_, fun hne => ?_⟩
    · rw [NameMap.mem_keys_iff, h.completed]
      cases results <;> simp
    · have hempty : results.isEmpty = false := by simpa using hne
      obtain ⟨hlength, hsum⟩ := htotal name
      rw [hsunk, List.length_append] at hlength
      rw [hsunk, List.map_append, List.sum_append] at hsum
      have hcompleted := h.completed
      have hitems := h.items
      rw [hempty, Nat.mod_eq_of_lt (by omega)] at hcompleted hitems
      exact ⟨hcompleted, hitems, h.last⟩
  · rintro before order rfl name hname
    obtain ⟨s, hs, rfl⟩ := site_of_run_act hp
    obtain ⟨-, hbefore⟩ := sums_run hw before (site?_eq_some.1 hs).1
    exact s.names_pass (fun name => (hbefore name).imp fun _ h => h.sums) order name hname

/-- After a page of three items the connector is removed, and a pass drops what was noted of it. -/
theorem figures_agree_removed : ∃ p,
    (solo.run (firstPage ++ [.act 0 (.remove "a"), .act 0 (.pass [])])).schedulers[0]? = some p ∧
    p.sunk = [("a", { policy := .immediate, count := 3 })] ∧
    (∀ name, (resultsOf name p.sunk).length < Numeral.size64 ∧
      ((resultsOf name p.sunk).map (·.count)).sum < Numeral.size64) ∧
    p.metrics.names = [] := by
  obtain ⟨p, hp⟩ : ∃ p,
      (solo.run (firstPage ++ [.act 0 (.remove "a"), .act 0 (.pass [])])).schedulers[0]? = some p := ⟨_, rfl⟩
  have hshown : ((solo.run (firstPage ++ [.act 0 (.remove "a"), .act 0 (.pass [])])).schedulers[0]?).map
      (fun p => (p.sunk, p.names)) = some ([("a", { policy := .immediate, count := 3 })], []) := by
    decide +kernel
  rw [hp, Option.map_some, Option.some.injEq, Prod.mk.injEq] at hshown
  obtain ⟨hsunk, hnames⟩ := hshown
  have htotal (name : String) : (resultsOf name p.sunk).length < Numeral.size64 ∧
      ((resultsOf name p.sunk).map (·.count)).sum < Numeral.size64 := by
    rw [hsunk]
    by_cases hname : "a" = name <;> simp [resultsOf, hname, Numeral.size64]
  obtain ⟨-, -, hregistered⟩ := figures_agree initial_solo _ hp htotal
  refine ⟨p, hp, hsunk, htotal, List.eq_nil_iff_forall_not_mem.2 fun name hname => ?_⟩
  have hnone := hregistered (firstPage ++ [.act 0 (.remove "a")]) [] rfl name hname
  rw [hnames] at hnone
  cases hnone

end World

end BatchTraversal
