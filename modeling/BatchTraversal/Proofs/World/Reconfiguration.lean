import BatchTraversal.Proofs.World.Edits

/-!
# Configurations that replace others

A process that is told a new configuration of a connector looks at its own coordinator to see whether the
configuration replaces a different one; it does not look into the store. So a configuration that replaces
a different one in the store clears the stored checkpoint exactly if the process has a coordinator for the
connector, and another configuration than the new one there (`World.set_config_clears_iff`). A process
that does not know the connector yet leaves a checkpoint that belongs to the replaced configuration
(`World.set_config_keeps_checkpoint`).
-/

namespace BatchTraversal

namespace Scheduler

/-- Whether a process has a coordinator for a connector that goes by another configuration. -/
def GoesByOther (p : Scheduler) (name : String) (config : ConnectorConfig) : Prop :=
  ∃ k, p.known? name = some k ∧ k.config ≠ some config

end Scheduler

/-- A configuration that was set is stored. It clears the checkpoint if there is a coordinator that goes
by another one, and else leaves it as it is. -/
theorem Site.stored_setConfig {s : Site} (hr : s.scheduler.Registered) (he : s.scheduler.Enrolled)
    (hb : s.backend.Reliable) {name : String} {config : ConnectorConfig}
    (hok : (s.setConfig name config).1 = .ok ()) :
    let store := (s.setConfig name config).2.backend.store
    store.configuration? name = some config ∧
      (s.scheduler.GoesByOther name config ∧ store.checkpoint? name = none ∨
        ¬ s.scheduler.GoesByOther name config ∧
          store.checkpoint? name = s.backend.store.checkpoint? name) := by
  have hstored : (s.backend.store.storeConfiguration name config).configuration? name = some config :=
    (Store.configuration?_storeConfiguration ..).trans (if_pos rfl)
  rcases setConfig_cases hr he hb name config with ⟨e, hs⟩ | ⟨-, ⟨hnone, hs⟩ |
    ⟨k, hk, ⟨hsame, hs⟩ | ⟨hne, hs⟩⟩⟩
  · rw [hs] at hok
    cases hok
  · simp only [hs.store, Store.checkpoint?_storeConfiguration]
    refine ⟨hstored, .inr ⟨fun ⟨k, hk, _⟩ => ?_, trivial⟩⟩
    rw [hnone] at hk
    cases hk
  · simp only [hs.store, Store.checkpoint?_storeConfiguration]
    refine ⟨hstored, .inr ⟨fun ⟨l, hl, hne⟩ => ?_, trivial⟩⟩
    rw [hk] at hl
    cases hl
    exact hne hsame
  · simp only [hs.store, Store.configuration?_storeCheckpoint, Store.checkpoint?_storeCheckpoint,
      if_true]
    exact ⟨hstored, .inl ⟨⟨k, hk, hne⟩, trivial⟩⟩

namespace World

variable {w : World}

/-- In every world whose processes share a store that does not fail, and at every moment of every run, a
configuration that is set is stored, and it leaves no checkpoint stored for the connector if and only if
none was stored before, or the process that was called has a coordinator for the connector that goes by
another configuration. -/
theorem set_config_clears_iff (hw : w.Initial) (hb : w.backend.Reliable) {events : List Event}
    (he : ∀ e ∈ events, e.Inner) {i : Nat} {s : Site} (hs : (w.run events).site? i = some s)
    {name : String} {config : ConnectorConfig} (hok : (s.setConfig name config).1 = .ok ()) :
    let store := (w.run (events ++ [.act i (.setConfig name config)])).backend.store
    store.configuration? name = some config ∧
      (store.checkpoint? name = none ↔
        s.backend.store.checkpoint? name = none ∨ s.scheduler.GoesByOther name config) := by
  obtain ⟨hi, hback, -⟩ := site?_eq_some.1 hs
  have hp := List.mem_of_getElem? hi
  have hr := (run_orderly hw events _ hp).registered
  have hbs : s.backend.Reliable := hback ▸ run_reliable hw hb he
  have hstep : w.run (events ++ [.act i (.setConfig name config)]) =
      (w.run events).withSite i (s.setConfig name config).2 := run_act hs (.setConfig name config)
  obtain ⟨hconfig, hcheckpoint⟩ := Site.stored_setConfig hr (run_enrolled hw events _ hp) hbs hok
  rw [hstep]
  refine ⟨hconfig, ?_⟩
  show (s.setConfig name config).2.backend.store.checkpoint? name = none ↔ _
  rcases hcheckpoint with ⟨hother, hc⟩ | ⟨hsame, hc⟩ <;> rw [hc]
  · exact ⟨fun _ => .inr hother, fun _ => rfl⟩
  · exact ⟨.inl, fun h => h.resolve_right hsame⟩

/-- Another configuration than that of the first batch. -/
def replacement : ConnectorConfig := ConnectorConfig.withParam { kind := "any" } "root" "b"

theorem inner_firstPage : ∀ e ∈ firstPage, e.Inner := by
  intro e he
  simp only [firstPage, firstBatch, List.cons_append, List.nil_append, List.mem_cons,
    List.not_mem_nil, or_false] at he
  rcases he with rfl | rfl | rfl | rfl | rfl <;> trivial

/-- A second process that found the connector replaces its configuration: the checkpoint is gone. -/
theorem set_config_clears_iff_detected : ∃ s, (duo.run (firstPage ++ [.act 1 .detect])).site? 1 = some s ∧
    (s.setConfig "a" replacement).1 = .ok () ∧
    s.backend.store.checkpoint? "a" = some "c" ∧ s.scheduler.GoesByOther "a" replacement ∧
    (duo.run (firstPage ++ [.act 1 .detect] ++ [.act 1 (.setConfig "a" replacement)])
      ).backend.store.checkpoint? "a" = none := by
  have hin : ∀ e ∈ firstPage ++ [.act 1 .detect], e.Inner := Event.inner_concat inner_firstPage 1 .detect
  obtain ⟨s, hs⟩ : ∃ s, (duo.run (firstPage ++ [.act 1 .detect])).site? 1 = some s := ⟨_, rfl⟩
  have hshown : ((duo.run (firstPage ++ [.act 1 .detect])).site? 1).map (fun s =>
      ((s.setConfig "a" replacement).1.isOk, s.backend.store.checkpoint? "a",
        (s.scheduler.known? "a").map fun k => decide (k.config = some replacement))) =
      some (true, some "c", some false) := by decide +kernel
  rw [hs, Option.map_some, Option.some.injEq, Prod.mk.injEq, Prod.mk.injEq] at hshown
  obtain ⟨hok, hc, hk⟩ := hshown
  obtain ⟨k, hk, hne⟩ := Option.map_eq_some_iff.1 hk
  have hother : s.scheduler.GoesByOther "a" replacement := ⟨k, hk, of_decide_eq_false hne⟩
  have h := set_config_clears_iff initial_duo reliable_duo hin hs (eq_ok_of_isOk hok)
  exact ⟨s, hs, eq_ok_of_isOk hok, hc, hother, h.2.2 (.inr hother)⟩

/-- A second process that does not know the connector yet replaces its configuration: the checkpoint of
the first configuration stays. -/
theorem set_config_keeps_checkpoint : ¬ ∀ (w : World) (events : List Event) (i : Nat) (s : Site)
    (name : String) (config old : ConnectorConfig), w.Initial → w.backend.Reliable →
    (∀ e ∈ events, e.Inner) → (w.run events).site? i = some s →
    s.backend.store.configuration? name = some old → old ≠ config →
    (s.setConfig name config).1 = .ok () →
    (w.run (events ++ [.act i (.setConfig name config)])).backend.store.checkpoint? name = none := by
  intro h
  obtain ⟨s, hs⟩ : ∃ s, (duo.run firstPage).site? 1 = some s := ⟨_, rfl⟩
  have hshown : ((duo.run firstPage).site? 1).map (fun s =>
      ((s.setConfig "a" replacement).1.isOk,
        decide (s.backend.store.configuration? "a" = some { kind := "any" }))) =
      some (true, true) := by decide +kernel
  rw [hs, Option.map_some, Option.some.injEq, Prod.mk.injEq] at hshown
  have hnone := h duo firstPage 1 s "a" replacement { kind := "any" } initial_duo reliable_duo
    inner_firstPage hs (of_decide_eq_true hshown.2) (by decide +kernel) (eq_ok_of_isOk hshown.1)
  have hkept : (duo.run (firstPage ++ [.act 1 (.setConfig "a" replacement)])
      ).backend.store.checkpoint? "a" = some "c" := by decide +kernel
  rw [hkept] at hnone
  cases hnone

end World

end BatchTraversal
