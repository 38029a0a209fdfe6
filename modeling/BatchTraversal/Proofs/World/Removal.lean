import BatchTraversal.Proofs.Process.Removal
import BatchTraversal.Proofs.World.Runs

/-!
# Removal is final

A coordinator that is not registered was removed, and it stays so along every run: it keeps nothing, no
name leads to it any more, and every call on it is refused. The throttle tracks no name that is not
registered (`World.removal_final`), whatever ends late and whatever connector takes the name afterwards.
-/

namespace BatchTraversal

namespace World

variable {w : World}

/-- Nothing is kept of removed connectors along any run. -/
theorem run_purged (hw : w.Initial) (events : List Event) :
    ∀ p ∈ (w.run events).schedulers, p.Purged := by
  have h := run_invariant (P := fun p => p.Orderly ∧ p.Enrolled ∧ p.Purged)
    (fun _ a ⟨ho, he, hp⟩ => ⟨Site.orderly_act ho a, Site.enrolled_act ho.registered he a,
      Site.purged_act ho.registered ho.flight he hp a⟩)
    (fun p hp => ⟨run_orderly hw [] p hp, Scheduler.enrolled_start (hw p hp),
      Scheduler.purged_start (hw p hp)⟩) events
  exact fun p hp => (h p hp).2.2

/-- At every moment of every run, the registered coordinator of a name is one of that name that is not
removed, and every name the throttle tracks is registered. A coordinator that was made and is not registered
at that moment is removed at every later moment: it has its name and no configuration, schedule, traverser
or batch in flight, no name leads to it, its phase says that it is removed, and whatever it is asked for is
refused, because it is not found, and changes neither the process nor the store. -/
theorem removal_final (hw : w.Initial) (before after : List Event) {i : Nat} {p : Scheduler} {s : Site}
    (hp : (w.run before).schedulers[i]? = some p) (hs : (w.run (before ++ after)).site? i = some s) :
    (∀ name c, p.coordinator? name = some c →
      ∃ k, p.coordinators[c]? = some k ∧ k.name = name ∧ k.removed = false) ∧
    (∀ name, (p.throttle.entries.find? name).isSome → (p.coordinator? name).isSome) ∧
    ∀ (c : CoordinatorId) (k : Coordinator), p.coordinators[c]? = some k →
      (∀ name, p.coordinator? name ≠ some c) →
      ∃ k', s.scheduler.coordinators[c]? = some k' ∧ k'.name = k.name ∧ k'.Defunct ∧
        (∀ name, s.scheduler.coordinator? name ≠ some c) ∧
        (∀ now, s.scheduler.phase c now = (.removed, s.scheduler)) ∧ s.Refuses c k.name := by
  have hmem := List.mem_of_getElem? hp
  have hq := (site?_eq_some.1 hs).1
  have hmem' := List.mem_of_getElem? hq
  have hr := (run_orderly hw before p hmem).registered
  refine ⟨hr, fun name htracked => ?_, fun c k hk hout => ?_⟩
  · by_contra hn
    rw [(run_purged hw before p hmem).tracked name (Option.not_isSome_iff_eq_none.1 hn)] at htracked
    cases htracked
  · -- a live coordinator would be registered
    have hremoved : k.removed = true := by
      refine eq_true_of_ne_false fun hlive => ?_
      exact hout k.name ((run_enrolled hw before p hmem).registered c k hk hlive)
    obtain ⟨k', hk', hname, hkeep⟩ :=
      (run_lasts hw (List.prefix_append before after) hp hq).coordinators c k hk
    have hd := (run_purged hw (before ++ after) _ hmem').defunct c k' hk' (hkeep hremoved)
    refine ⟨k', hk', hname, hd, fun name hreg => ?_, Site.phase_of_defunct hk' hd,
      hname ▸ Site.refuses_of_removed hk' hd.removed⟩
    obtain ⟨l, hl, -, hlive⟩ := (run_orderly hw (before ++ after) _ hmem').registered name c hreg
    cases hk'.symm.trans hl
    cases hlive.symm.trans hd.removed

/-- While its first batch is being executed the connector is removed. -/
def withdrawn : List Event := firstBatch ++ [.act 0 (.remove "a")]

/-- A connector of the same name is made, and only then does the batch of the old one come to its end. -/
def successor : List Event :=
  [.act 0 (.setConfig "a" { kind := "any" }), .act 0 (.conclude 0 (.page ⟨3, some "c"⟩))]

/-- The late end of the batch leaves the coordinator that was removed as it was. -/
theorem removal_final_succeeded : ∃ p s, (solo.run withdrawn).schedulers[0]? = some p ∧
    (solo.run (withdrawn ++ successor)).site? 0 = some s ∧
    (∃ k, p.coordinators[0]? = some k ∧ ∀ name, p.coordinator? name ≠ some 0) ∧
    s.scheduler.coordinator? "a" = some 1 ∧ s.scheduler.throttle.entries.find? "a" = none ∧
    s.Refuses 0 "a" := by
  have hsite : ((solo.run (withdrawn ++ successor)).site? 0).map (fun s =>
      (s.scheduler.coordinator? "a", (s.scheduler.throttle.entries.find? "a").isNone)) =
      some (some 1, true) := by decide +kernel
  obtain ⟨s, hs, he⟩ := Option.map_eq_some_iff.1 hsite
  obtain ⟨hreg, hgone⟩ := Prod.mk.inj he
  have hproc : ((solo.run withdrawn).schedulers[0]?).map (fun p =>
      (p.coordinators[0]?.map (·.name), p.registry.entries)) = some (some "a", []) := by decide +kernel
  obtain ⟨p, hp, he⟩ := Option.map_eq_some_iff.1 hproc
  obtain ⟨hname, hempty⟩ := Prod.mk.inj he
  obtain ⟨k, hk, hka⟩ := Option.map_eq_some_iff.1 hname
  have hout (name : String) : p.coordinator? name ≠ some 0 := by
    intro h
    have := NameMap.find?_eq_some_iff.1 h
    rw [hempty] at this
    cases this
  obtain ⟨-, -, hrefuses⟩ := removal_final initial_solo withdrawn successor hp hs
  obtain ⟨-, -, -, -, -, -, h⟩ := hrefuses 0 k hk hout
  exact ⟨p, s, hp, hs, ⟨k, hk, hout⟩, hreg, Option.isNone_iff_eq_none.1 hgone, hka ▸ h⟩

end World

end BatchTraversal
