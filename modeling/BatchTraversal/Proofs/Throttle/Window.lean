import BatchTraversal.Proofs.Throttle.Backoff
import BatchTraversal.Schedule.Wire

/-!
# The window of a backoff

A backoff that `Throttle.finish` arms is to be on from the call to the end of its delay, whatever the clock
does and whatever else the throttle is asked in between. That is so exactly if the delay ends within the
calendar (`Throttle.backoff_window`). A delay that ends later arms nothing, so that the longest of all delays,
which a schedule may well ask for, is no delay (`Throttle.backoff_unarmed`).
-/

namespace BatchTraversal

namespace Throttle

/-- A call for a connector that may change what is kept of it. -/
inductive Call where
  | hint (name : String) (load : Nat)
  | fold (name : String) (count : Nat)
  | finish (name : String) (delay : Option Duration)
  | remove (name : String)
  deriving DecidableEq

/-- Whether a call arms the backoff of a connector anew or drops it. -/
def Call.Rearms (name : String) : Call → Prop
  | hint .. | fold .. => False
  | finish other _ | remove other => other = name

instance (name : String) (c : Call) : Decidable (c.Rearms name) := by
  cases c <;> unfold Call.Rearms <;> infer_instance

/-- The throttle after a call at a time. -/
def call (t : Throttle) (now : Instant) : Call → Throttle
  | .hint name load => (t.hint name load now).2
  | .fold name count => (t.fold name count now).2
  | .finish name delay => (t.finish name delay now).2
  | .remove name => t.remove name

/-- The throttle after some calls, each at the time that the clock shows by then. -/
def calls (t : Throttle) (l : List (Instant × Call)) : Throttle :=
  l.foldl (fun t e => t.call e.1 e.2) t

variable {t : Throttle} {name : String} {now u : Instant} {c : Call} {l : List (Instant × Call)}
  {d : Duration}

theorem delays_eq_true_iff :
    t.delays name now = true ↔ ∃ stop, t.stop? name = some stop ∧ now.nanos < stop.nanos := by
  rw [delays, ← stop?]
  cases t.stop? name with
  | none => simp
  | some stop => simp [Instant.before]

/-- A call that does not arm the backoff of a connector anew leaves its end where it is. -/
theorem stop?_call (hc : ¬ c.Rearms name) : (t.call now c).stop? name = t.stop? name := by
  cases c with
  | hint other load => exact t.stop?_hint other name load now
  | fold other count => exact t.stop?_fold other name count now
  | finish other delay =>
    rw [call, stop?_finish, if_neg]
    exact fun he => hc he.symm
  | remove other =>
    rw [call, stop?_remove, if_neg]
    exact fun he => hc he.symm

theorem stop?_calls (hl : ∀ e ∈ l, ¬ e.2.Rearms name) : (t.calls l).stop? name = t.stop? name := by
  induction l generalizing t with
  | nil => rfl
  | cons e rest ih =>
    have hrest : ((t.call e.1 e.2).calls rest).stop? name = (t.call e.1 e.2).stop? name :=
      ih fun e' he' => hl e' (List.mem_cons_of_mem e he')
    exact hrest.trans (stop?_call (hl e List.mem_cons_self))

/-- What is left of a backoff after calls that do not arm it anew. -/
theorem delays_armed (hd : 0 < d.nanos) (hl : ∀ e ∈ l, ¬ e.2.Rearms name) (u : Instant) :
    ((t.finish name (some d) now).2.calls l).delays name u = true ↔
      now.nanos + d.nanos ≤ Instant.latest.nanos ∧ u.nanos < now.nanos + d.nanos := by
  rw [delays_eq_true_iff, stop?_calls hl, stop?_finish, if_pos rfl, armed?_of_pos hd]
  constructor
  · rintro ⟨stop, hstop, hlt⟩
    obtain ⟨hnanos, hle⟩ := Instant.after?_eq_some_iff.1 hstop
    exact ⟨hnanos ▸ hle, hnanos ▸ hlt⟩
  · rintro ⟨hle, hlt⟩
    exact ⟨⟨now.nanos + d.nanos⟩, Instant.after?_eq_some_iff.2 ⟨rfl, hle⟩, hlt⟩

/-- A connector that backs off for a time `d` is delayed until exactly `d` has passed, whatever the clock does
and whatever the throttle is asked meanwhile, if and only if `d` ends within the calendar; otherwise it is not
delayed at all. Of two delays that end there, the longer one delays at least as long. -/
theorem backoff_window (t : Throttle) (name : String) (now : Instant) {d : Duration} (hd : 0 < d.nanos)
    {l : List (Instant × Call)} (hl : ∀ e ∈ l, ¬ e.2.Rearms name) :
    let after := fun delay => (t.finish name (some delay) now).2.calls l
    ((∀ u, (after d).delays name u = true ↔ u.nanos < now.nanos + d.nanos) ↔
      now.nanos + d.nanos ≤ Instant.latest.nanos) ∧
    (Instant.latest.nanos < now.nanos + d.nanos → ∀ u, (after d).delays name u = false) ∧
    ∀ longer : Duration, d.nanos ≤ longer.nanos → now.nanos + longer.nanos ≤ Instant.latest.nanos →
      ∀ u, (after d).delays name u = true → (after longer).delays name u = true := by
  refine ⟨⟨fun h => ?_, fun hle u => ?_⟩, fun hlt u => ?_, fun longer hlonger hle u hu => ?_⟩
  · -- the call itself is in the window
    have hnow := (h now).2 (by omega)
    exact ((delays_armed hd hl now).1 hnow).1
  · rw [delays_armed hd hl]
    exact and_iff_right hle
  · refine eq_false_of_ne_true fun hu => ?_
    have hle := ((delays_armed hd hl u).1 hu).1
    omega
  · obtain ⟨-, hin⟩ := (delays_armed hd hl u).1 hu
    exact (delays_armed (by omega) hl u).2 ⟨hle, by omega⟩

/-- Five seconds of backoff last through other calls and a clock that goes back and forth. -/
theorem backoff_window_fiveSeconds :
    let calls : List (Instant × Call) := [(.of 1714564802 0, .hint "a" 60), (.of 1714564799 0, .fold "a" 3),
      (.of 1714564803 0, .finish "b" none), (.of 1714564804 0, .remove "b")]
    let t := ((make (.ofSeconds 60) 500).finish "a" (some (.ofSeconds 5)) (.of 1714564800 0)).2.calls calls
    (∀ e ∈ calls, ¬ e.2.Rearms "a") ∧
      ∀ u, t.delays "a" u = true ↔ u.nanos < (Instant.of 1714564805 0).nanos := by
  intro calls t
  have hcalls : ∀ e ∈ calls, ¬ e.2.Rearms "a" := by decide
  exact ⟨hcalls, ((backoff_window (make (.ofSeconds 60) 500) "a" (.of 1714564800 0) (by decide)
    hcalls).1.2 (by decide))⟩

/-- The longest delay that a schedule can ask for arms nothing. -/
theorem backoff_unarmed : ¬ ∀ (t : Throttle) (name text : String) (schedule : Schedule) (d : Duration)
    (now u : Instant), Schedule.parse text = .ok schedule → schedule.retryDelay.duration? = some d →
    0 < d.nanos → u.nanos < now.nanos + d.nanos →
    (t.finish name (some d) now).2.delays name u = true := by
  intro h
  obtain ⟨schedule, hparse, hdelay⟩ : ∃ schedule,
      Schedule.parse "a:60:9223372036854775807:0-24" = .ok schedule ∧
      schedule.retryDelay.duration? = some (.ofMillis 9223372036854775807) := ⟨_, rfl, rfl⟩
  have hon := h (make (.ofSeconds 60) 500) "a" _ schedule _ (.of 1714564800 0) (.of 1714564800 0) hparse
    hdelay (by decide) (by decide)
  have hends := ((delays_armed (l := []) (by decide) (by simp) (.of 1714564800 0)).1 hon).1
  revert hends
  decide

end Throttle

end BatchTraversal
