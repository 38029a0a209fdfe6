import BatchTraversal.Proofs.Store.Failures
import BatchTraversal.Proofs.World.Reconfiguration

/-!
# A configuration that is set again

Setting a configuration stores it, applies it to the coordinator and then, if it replaces another one,
clears the checkpoint. The store may fail at the beginning, which leaves everything as it was, or at the
end: then the coordinator goes by the new configuration already, so that the next call finds nothing to
replace and succeeds without clearing the checkpoint. Configuration and live state come out as after one
call that does not fail; the checkpoint does exactly if there was none, or nothing was to be replaced, or
the call that would have cleared it did not fail (`World.configuration_repeated`).
-/

namespace BatchTraversal

@[simp] theorem Scheduler.kinds_interrupt (p : Scheduler) (c : CoordinatorId)
    (f : Coordinator → Coordinator) : (p.interrupt c f).kinds = p.kinds := by
  unfold interrupt
  split
  · rfl
  · dsimp only
    split <;> rfl

/-- The configuration that a process goes by for a connector. -/
def Scheduler.configuration? (p : Scheduler) (name : String) : Option ConnectorConfig :=
  (p.known? name).bind (·.config)

/-- A connector that goes by a configuration does not go by another one. -/
theorem Scheduler.not_goesByOther {p : Scheduler} {name : String} {config : ConnectorConfig}
    (h : p.configuration? name = some config) : ¬ p.GoesByOther name config := by
  rintro ⟨k, hk, hne⟩
  rw [configuration?, hk] at h
  exact hne h

namespace Site

variable {s : Site} {name : String} {config : ConnectorConfig} {c : CoordinatorId} {k : Coordinator}

/-- The process while the store does not fail. -/
def calm (s : Site) : Site := { s with backend := s.backend.calm }

/-- A restart leaves the configurations, and clears the checkpoint unless the store fails. -/
theorem restart_attempt (hr : s.scheduler.Registered) (hreg : s.scheduler.coordinator? name = some c) :
    (s.restart c).2.scheduler.kinds = s.scheduler.kinds ∧
    (s.restart c).2.scheduler.configuration? name = s.scheduler.configuration? name ∧
    (s.backend.fails .storeCheckpoint = true ∧
        (s.restart c).1 = .error StoreMethod.storeCheckpoint.unavailable ∧
        (s.restart c).2.backend.store = s.backend.store ∨
      s.backend.fails .storeCheckpoint = false ∧ (s.restart c).1 = .ok () ∧
        (s.restart c).2.backend.store = s.backend.store.storeCheckpoint name none) := by
  obtain ⟨k, hk, rfl, hlive⟩ := hr name c hreg
  have hk' : (s.scheduler.interrupt c fun k => { k with traverser := none }).coordinators[c]? =
      some (k.interrupted Amendment.dropTraverser.apply) :=
    Scheduler.getElem?_interrupt_self hk Amendment.dropTraverser.apply
  -- the interruption and the new cell leave the configuration of every coordinator
  have hconfig (cell : CheckpointCell) : ((s.scheduler.interrupt c fun k =>
      { k with traverser := none }).modifyCoordinator c fun l => { l with cell }).configuration? k.name =
        s.scheduler.configuration? k.name := by
    have hint := Scheduler.map_known?_modify (p := s.scheduler) (g := (·.config)) (c := c)
      (f := .interrupted Amendment.dropTraverser.apply) (Scheduler.registry_interrupt ..)
      (by rw [Scheduler.interrupt_eq hk]; rfl) (fun _ _ => rfl) k.name
    have hcell := Scheduler.map_known?_modify (p := s.scheduler.interrupt c fun k =>
      { k with traverser := none }) (g := (·.config)) (c := c) (f := fun l => { l with cell })
      (q := (s.scheduler.interrupt c fun k => { k with traverser := none }).modifyCoordinator c fun l =>
        { l with cell }) rfl rfl (fun _ _ => rfl) k.name
    have hsame := congrArg (Option.bind · id) (hcell.trans hint)
    rwa [Option.bind_map, Option.bind_map] at hsame
  cases hf : s.backend.fails .storeCheckpoint with
  | true =>
    simp only [restart, Scheduler.live_eq_ok.2 ⟨hk, hlive⟩, hk', CheckpointCell.write,
      Backend.storeCheckpoint, Backend.call_of_fails hf]
    exact ⟨Scheduler.kinds_interrupt .., hconfig _, .inl ⟨trivial, trivial, rfl⟩⟩
  | false =>
    simp only [restart, Scheduler.live_eq_ok.2 ⟨hk, hlive⟩, hk', CheckpointCell.write,
      Backend.storeCheckpoint, Backend.call_of_works hf]
    exact ⟨Scheduler.kinds_interrupt .., hconfig _, .inr ⟨trivial, trivial, rfl⟩⟩

/-- Whether the configuration of a connector is the one that was to be set, live and stored. -/
structure Configured (s : Site) (name : String) (config : ConnectorConfig) : Prop where
  live : s.scheduler.configuration? name = some config
  stored : s.backend.store.configuration? name = some config

/-- What may come of a call that sets a valid configuration. -/
inductive Attempt (s : Site) (name : String) (config : ConnectorConfig) (r : Except Error Unit × Site) :
    Prop
  /-- The store does not take the configuration, and all is as it was. -/
  | refused (hfails : s.backend.fails .storeConfiguration = true)
      (hsame : r = (.error StoreMethod.storeConfiguration.unavailable,
        { s with backend := s.backend.used .storeConfiguration }))
  /-- The configuration is set, and there was no other one to replace. -/
  | set (hsame : ¬ s.scheduler.GoesByOther name config) (hok : r.1 = .ok ())
      (hkinds : r.2.scheduler.kinds = s.scheduler.kinds) (hset : r.2.Configured name config)
      (hkept : r.2.backend.store.checkpoint? name = s.backend.store.checkpoint? name)
  /-- The configuration is set, and the store does not clear the checkpoint. -/
  | uncleared (hother : s.scheduler.GoesByOther name config)
      (hfails : s.backend.fails .storeCheckpoint = true)
      (herror : r.1 = .error StoreMethod.storeCheckpoint.unavailable)
      (hkinds : r.2.scheduler.kinds = s.scheduler.kinds) (hset : r.2.Configured name config)
      (hkept : r.2.backend.store.checkpoint? name = s.backend.store.checkpoint? name)
  /-- The configuration is set, and the checkpoint is cleared. -/
  | cleared (hother : s.scheduler.GoesByOther name config)
      (hworks : s.backend.fails .storeCheckpoint = false) (hok : r.1 = .ok ())
      (hkinds : r.2.scheduler.kinds = s.scheduler.kinds) (hset : r.2.Configured name config)
      (hnone : r.2.backend.store.checkpoint? name = none)

/-- The process once the store has taken a configuration. -/
def stored (s : Site) (name : String) (config : ConnectorConfig) : Site :=
  { s with
    backend := { s.backend.used .storeConfiguration with
      store := s.backend.store.storeConfiguration name config } }

theorem configuration?_stored (s : Site) (name : String) (config : ConnectorConfig) :
    (s.stored name config).backend.store.configuration? name = some config :=
  (Store.configuration?_storeConfiguration ..).trans (if_pos rfl)

theorem checkpoint?_stored (s : Site) (name : String) (config : ConnectorConfig) :
    (s.stored name config).backend.store.checkpoint? name = s.backend.store.checkpoint? name :=
  Store.checkpoint?_storeConfiguration ..

/-- The restart after a stored configuration has replaced another one. -/
theorem replaced_attempt (hr : s.scheduler.Registered) (hreg : s.scheduler.coordinator? name = some c)
    (hk : s.scheduler.coordinators[c]? = some k) (hne : k.config ≠ some config) :
    Attempt s name config (((s.stored name config).withScheduler
      (s.scheduler.interrupt c (Amendment.configure config).apply)).restart c) := by
  have hknown := Scheduler.known?_of_coordinator? hreg hk
  have hother : s.scheduler.GoesByOther name config := ⟨k, hknown, hne⟩
  have hreg' : (s.scheduler.interrupt c (Amendment.configure config).apply).coordinator? name =
      some c := by
    rwa [Scheduler.coordinator?, Scheduler.registry_interrupt]
  have hconfig : (s.scheduler.interrupt c (Amendment.configure config).apply).configuration? name =
      some config := by
    rw [Scheduler.configuration?, hr.known?_interrupt hreg, if_pos rfl, hknown]
    rfl
  have hfate : (s.stored name config).backend.fails .storeCheckpoint =
      s.backend.fails .storeCheckpoint :=
    s.backend.fails_used_of_ne (show StoreMethod.storeCheckpoint ≠ .storeConfiguration by decide)
  obtain ⟨hkinds, hsame, hcheckpoint⟩ := restart_attempt (s := (s.stored name config).withScheduler
    (s.scheduler.interrupt c (Amendment.configure config).apply))
    (hr.interrupt hk (Amendment.configure config).apply_name_removed) hreg'
  have hkinds := hkinds.trans (Scheduler.kinds_interrupt ..)
  have hlive := hsame.trans hconfig
  rcases hcheckpoint with ⟨hfails, herror, hstore⟩ | ⟨hworks, hok, hstore⟩
  · refine .uncleared hother (hfate ▸ hfails) herror hkinds ⟨hlive, ?_⟩ ?_ <;> rw [hstore]
    · exact s.configuration?_stored name config
    · exact s.checkpoint?_stored name config
  · refine .cleared hother (hfate ▸ hworks) hok hkinds ⟨hlive, ?_⟩ ?_ <;> rw [hstore]
    · rw [Store.configuration?_storeCheckpoint]
      exact s.configuration?_stored name config
    · exact (Store.checkpoint?_storeCheckpoint ..).trans (if_pos rfl)

/-- A call that sets a valid configuration comes out in one of these ways. -/
theorem setConfig_attempt (hr : s.scheduler.Registered) (he : s.scheduler.Enrolled)
    (hv : s.scheduler.kinds.validate name config = .ok ()) :
    Attempt s name config (s.setConfig name config) := by
  cases hf : s.backend.fails .storeConfiguration with
  | true =>
    refine .refused hf ?_
    simp only [setConfig, hv, Backend.storeConfiguration, Backend.call_of_fails hf]
  | false =>
    simp only [setConfig, hv, Backend.storeConfiguration, Backend.call_of_works hf]
    cases hreg : s.scheduler.coordinator? name with
    | none =>
      obtain ⟨c, q, hfor, hset, hrep, -⟩ := Scheduler.coordinatorFor_new hreg config
      have hknown := hr.known?_enlist name config name
      rw [if_pos rfl] at hknown
      have hlive : (s.scheduler.enlist name config).configuration? name = some config := by
        rw [Scheduler.configuration?, hknown]
        rfl
      simp only [hfor, hset, hrep]
      refine .set ?_ rfl rfl ⟨hlive, s.configuration?_stored name config⟩ (s.checkpoint?_stored name config)
      rintro ⟨k, hk, -⟩
      rw [Scheduler.known?_of_unregistered hreg] at hk
      cases hk
    | some c =>
      obtain ⟨k, hk, -, hlive⟩ := hr name c hreg
      have hfor := Scheduler.coordinatorFor_registered hreg
      have hrep : (s.scheduler.coordinators[c]?.bind (·.config)).isSome := by
        rw [hk]
        exact he.configured c k hk hlive
      simp only [hfor, hrep, Bool.and_true]
      rcases Scheduler.setConfiguration_cases hk hlive config with ⟨hsame, hset⟩ | ⟨hne, hset⟩
      · have hconfig : s.scheduler.configuration? name = some config := by
          rw [Scheduler.configuration?, Scheduler.known?_of_coordinator? hreg hk]
          exact hsame
        simp only [hset, Bool.false_eq_true, if_false]
        exact .set (Scheduler.not_goesByOther hconfig) rfl rfl
          ⟨hconfig, s.configuration?_stored name config⟩ (s.checkpoint?_stored name config)
      · simp only [hset, if_true]
        exact replaced_attempt hr hreg hk hne

/-- The process after some calls one after the other that set the same configuration. -/
def attempts (s : Site) (name : String) (config : ConnectorConfig) : Nat → Site
  | 0 => s
  | n + 1 => ((s.attempts name config n).setConfig name config).2

/-- What may have come of some calls that the store failed: nothing, or all but the cleared checkpoint. -/
inductive Attempted (s : Site) (name : String) (config : ConnectorConfig) (t : Site) : Prop
  | untouched (hscheduler : t.scheduler = s.scheduler) (hstore : t.backend.store = s.backend.store)
      (hfails : t.backend.fails .storeCheckpoint = s.backend.fails .storeCheckpoint)
  | uncleared (hother : s.scheduler.GoesByOther name config)
      (hfails : s.backend.fails .storeCheckpoint = true)
      (hkinds : t.scheduler.kinds = s.scheduler.kinds) (hset : t.Configured name config)
      (hcheckpoint : t.backend.store.checkpoint? name = s.backend.store.checkpoint? name)

theorem attempts_sound (ho : s.scheduler.Orderly) (he : s.scheduler.Enrolled) (name : String)
    (config : ConnectorConfig) (n : Nat) :
    (s.attempts name config n).scheduler.Orderly ∧ (s.attempts name config n).scheduler.Enrolled := by
  induction n with
  | zero => exact ⟨ho, he⟩
  | succ n ih =>
    exact ⟨orderly_act ih.1 (.setConfig name config),
      enrolled_act ih.1.registered ih.2 (.setConfig name config)⟩

/-- One more call that fails leaves the process in one of the two states. -/
theorem Attempted.step {t : Site} (hr : t.scheduler.Registered) (he : t.scheduler.Enrolled)
    (hv : s.scheduler.kinds.validate name config = .ok ()) (h : Attempted s name config t)
    {e : Error} (hfail : (t.setConfig name config).1 = .error e) :
    Attempted s name config (t.setConfig name config).2 := by
  cases h with
  | untouched hscheduler hstore hfate =>
    have hv' : t.scheduler.kinds.validate name config = .ok () := hscheduler ▸ hv
    cases setConfig_attempt hr he hv' with
    | refused _ hsame =>
      rw [hsame]
      refine .untouched hscheduler hstore (Eq.trans ?_ hfate)
      exact t.backend.fails_used_of_ne (by decide)
    | set _ hok | cleared _ _ hok =>
      rw [hok] at hfail
      cases hfail
    | uncleared hother hfails _ hkinds hset hkept =>
      rw [hscheduler] at hother hkinds
      exact .uncleared hother (hfate ▸ hfails) hkinds hset (hstore ▸ hkept)
  | uncleared hother hfails hkinds hset hkept =>
    have hv' : t.scheduler.kinds.validate name config = .ok () := hkinds ▸ hv
    cases setConfig_attempt hr he hv' with
    | refused _ hsame =>
      rw [hsame]
      exact .uncleared hother hfails hkinds ⟨hset.live, hset.stored⟩ hkept
    | set _ hok =>
      rw [hok] at hfail
      cases hfail
    | uncleared hother' | cleared hother' =>
      exact absurd hother' (Scheduler.not_goesByOther hset.live)

/-- Some calls that fail leave the process in one of the two states. -/
theorem attempted (ho : s.scheduler.Orderly) (he : s.scheduler.Enrolled)
    (hv : s.scheduler.kinds.validate name config = .ok ()) {n : Nat}
    (hfail : ∀ m < n, ∃ e, ((s.attempts name config m).setConfig name config).1 = .error e) :
    Attempted s name config (s.attempts name config n) := by
  induction n with
  | zero => exact .untouched rfl rfl rfl
  | succ n ih =>
    obtain ⟨ho', he'⟩ := attempts_sound ho he name config n
    obtain ⟨e, hn⟩ := hfail n (Nat.lt_succ_self n)
    exact (ih fun m hm => hfail m (Nat.lt_succ_of_lt hm)).step ho'.registered he' hv hn

/-- A call that succeeds at last has set the configuration. It has cleared the checkpoint if it had another
configuration to replace and none of the calls before has failed to clear it. -/
theorem Attempted.completed {t : Site} (hr : t.scheduler.Registered) (he : t.scheduler.Enrolled)
    (hv : s.scheduler.kinds.validate name config = .ok ()) (h : Attempted s name config t)
    (hok : (t.setConfig name config).1 = .ok ()) :
    (t.setConfig name config).2.Configured name config ∧
      ((¬ s.scheduler.GoesByOther name config ∨ s.backend.fails .storeCheckpoint = true) ∧
          (t.setConfig name config).2.backend.store.checkpoint? name =
            s.backend.store.checkpoint? name ∨
        s.scheduler.GoesByOther name config ∧ s.backend.fails .storeCheckpoint = false ∧
          (t.setConfig name config).2.backend.store.checkpoint? name = none) := by
  cases h with
  | untouched hscheduler hstore hfate =>
    have hv' : t.scheduler.kinds.validate name config = .ok () := hscheduler ▸ hv
    cases setConfig_attempt hr he hv' with
    | refused _ hsame =>
      rw [hsame] at hok
      cases hok
    | set hsame _ _ hset hkept =>
      rw [hscheduler] at hsame
      exact ⟨hset, .inl ⟨.inl hsame, hstore ▸ hkept⟩⟩
    | uncleared _ _ herror =>
      rw [herror] at hok
      cases hok
    | cleared hother hworks _ _ hset hnone =>
      rw [hscheduler] at hother
      exact ⟨hset, .inr ⟨hother, hfate ▸ hworks, hnone⟩⟩
  | uncleared hother hfails hkinds hset hkept =>
    have hv' : t.scheduler.kinds.validate name config = .ok () := hkinds ▸ hv
    cases setConfig_attempt hr he hv' with
    | refused _ hsame =>
      rw [hsame] at hok
      cases hok
    | set _ _ _ hset' hkept' => exact ⟨hset', .inl ⟨.inr hfails, hkept'.trans hkept⟩⟩
    | uncleared hother' | cleared hother' =>
      exact absurd hother' (Scheduler.not_goesByOther hset.live)

/-- A valid configuration that is set while the store does not fail is set, and the checkpoint is cleared
exactly if another configuration is replaced. -/
theorem setConfig_calm (hr : s.scheduler.Registered) (he : s.scheduler.Enrolled)
    (hv : s.scheduler.kinds.validate name config = .ok ()) :
    (s.calm.setConfig name config).1 = .ok () ∧ (s.calm.setConfig name config).2.Configured name config ∧
      (¬ s.scheduler.GoesByOther name config ∧
          (s.calm.setConfig name config).2.backend.store.checkpoint? name =
            s.backend.store.checkpoint? name ∨
        s.scheduler.GoesByOther name config ∧
          (s.calm.setConfig name config).2.backend.store.checkpoint? name = none) := by
  cases setConfig_attempt (s := s.calm) hr he hv with
  | refused hf => cases hf
  | set hsame hok _ hset hkept => exact ⟨hok, hset, .inl ⟨hsame, hkept⟩⟩
  | uncleared _ hf => cases hf
  | cleared hother _ hok _ hset hnone => exact ⟨hok, hset, .inr ⟨hother, hnone⟩⟩

end Site

namespace World

open Site

variable {w : World}

/-- At every moment of every run, if a valid configuration is set by calls one after the other of which
all but the last fail, because the store does, then one call while the store does not fail would have
succeeded too, with the same configuration stored and live. The stored checkpoint is the one that this call
would have left if and only if none was stored before, or the process had no coordinator for the connector
that goes by another configuration, or the store did not fail the first attempt to clear it. -/
theorem configuration_repeated (hw : w.Initial) {events : List Event} {i : Nat} {s : Site}
    (hs : (w.run events).site? i = some s) {name : String} {config : ConnectorConfig}
    (hvalid : s.scheduler.kinds.validate name config = .ok ()) {n : Nat}
    (hfail : ∀ m < n, ∃ reason,
      ((s.attempts name config m).setConfig name config).1 = .error (.store reason))
    (hok : ((s.attempts name config n).setConfig name config).1 = .ok ()) :
    let last := s.attempts name config (n + 1)
    let single := s.calm.attempts name config 1
    (s.calm.setConfig name config).1 = .ok () ∧
    last.backend.store.configuration? name = single.backend.store.configuration? name ∧
    last.scheduler.configuration? name = single.scheduler.configuration? name ∧
    (last.backend.store.checkpoint? name = single.backend.store.checkpoint? name ↔
      s.backend.store.checkpoint? name = none ∨ ¬ s.scheduler.GoesByOther name config ∨
        s.backend.fails .storeCheckpoint = false) := by
  have hp := List.mem_of_getElem? (site?_eq_some.1 hs).1
  have ho := run_orderly hw events _ hp
  have he := run_enrolled hw events _ hp
  obtain ⟨ho', he'⟩ := attempts_sound ho he name config n
  have htried := attempted ho he hvalid fun m hm => let ⟨_, h⟩ := hfail m hm; ⟨_, h⟩
  obtain ⟨hlast, hcheckpoint⟩ := htried.completed ho'.registered he' hvalid hok
  obtain ⟨hone, hsingle, hsingle'⟩ := setConfig_calm ho.registered he hvalid
  refine ⟨hone, hlast.stored.trans hsingle.stored.symm, hlast.live.trans hsingle.live.symm, ?_⟩
  show ((s.attempts name config n).setConfig name config).2.backend.store.checkpoint? name =
    (s.calm.setConfig name config).2.backend.store.checkpoint? name ↔ _
  rcases hsingle' with ⟨hsame, hkept⟩ | ⟨hother, hnone⟩
  · rw [hkept]
    rcases hcheckpoint with ⟨-, hkept'⟩ | ⟨hother, -⟩
    · exact ⟨fun _ => .inr (.inl hsame), fun _ => hkept'⟩
    · exact absurd hother hsame
  · rw [hnone]
    rcases hcheckpoint with ⟨hsame | hfails, hkept⟩ | ⟨-, hworks, hnone'⟩
    · exact absurd hother hsame
    · rw [hkept]
      refine ⟨.inl, fun h => h.resolve_right fun h => ?_⟩
      rcases h with hsame | hworks
      · exact hsame hother
      · rw [hfails] at hworks
        cases hworks
    · exact ⟨fun _ => .inr (.inr hworks), fun _ => hnone'⟩

/-- A traversal has left a checkpoint, and the store is to fail one call. -/
def failingOnce (m : StoreMethod) : List Event := firstPage ++ [.fate m [true]]

/-- The configuration is replaced in two attempts, the first of which cannot store it: the checkpoint is
gone, as after one call. -/
theorem configuration_repeated_stored : ∃ s,
    (solo.run (failingOnce .storeConfiguration)).site? 0 = some s ∧
    s.backend.store.checkpoint? "a" = some "c" ∧
    (s.attempts "a" replacement 2).backend.store.checkpoint? "a" =
      (s.calm.attempts "a" replacement 1).backend.store.checkpoint? "a" := by
  obtain ⟨s, hs⟩ : ∃ s, (solo.run (failingOnce .storeConfiguration)).site? 0 = some s := ⟨_, rfl⟩
  have hshown : ((solo.run (failingOnce .storeConfiguration)).site? 0).map (fun s =>
      (s.backend.store.checkpoint? "a", s.backend.fails .storeCheckpoint)) = some (some "c", false) := by
    decide +kernel
  have hcalls : ((solo.run (failingOnce .storeConfiguration)).site? 0).map (fun s =>
      (s.scheduler.kinds.validate "a" replacement, (s.setConfig "a" replacement).1,
        ((s.attempts "a" replacement 1).setConfig "a" replacement).1)) =
      some (.ok (), .error (.store "store_configuration unavailable"), .ok ()) := by
    decide +kernel
  rw [hs, Option.map_some, Option.some.injEq, Prod.mk.injEq] at hshown hcalls
  obtain ⟨hvalid, hcalls⟩ := hcalls
  obtain ⟨hfirst, hok⟩ := Prod.mk.inj hcalls
  have hfail : ∀ m < 1, ∃ reason,
      ((s.attempts "a" replacement m).setConfig "a" replacement).1 = .error (.store reason) := by
    intro m hm
    obtain rfl := Nat.lt_one_iff.1 hm
    exact ⟨_, hfirst⟩
  obtain ⟨-, -, -, h⟩ := configuration_repeated initial_solo hs hvalid hfail hok
  exact ⟨s, hs, hshown.1, h.2 (.inr (.inr hshown.2))⟩

/-- The configuration is replaced in two attempts, the first of which cannot clear the checkpoint: the
second one leaves it. -/
theorem configuration_repeated_uncleared : ¬ ∀ (w : World) (events : List Event) (i : Nat) (s : Site)
    (name : String) (config : ConnectorConfig) (n : Nat), w.Initial → (w.run events).site? i = some s →
    s.scheduler.kinds.validate name config = .ok () →
    (∀ m < n, ∃ reason,
      ((s.attempts name config m).setConfig name config).1 = .error (.store reason)) →
    ((s.attempts name config n).setConfig name config).1 = .ok () →
    (s.attempts name config (n + 1)).backend.store.checkpoint? name =
      (s.calm.attempts name config 1).backend.store.checkpoint? name := by
  intro h
  obtain ⟨s, hs⟩ : ∃ s, (solo.run (failingOnce .storeCheckpoint)).site? 0 = some s := ⟨_, rfl⟩
  have hshown : ((solo.run (failingOnce .storeCheckpoint)).site? 0).map (fun s =>
      ((s.attempts "a" replacement 2).backend.store.checkpoint? "a",
        (s.calm.attempts "a" replacement 1).backend.store.checkpoint? "a")) = some (some "c", none) := by
    decide +kernel
  have hcalls : ((solo.run (failingOnce .storeCheckpoint)).site? 0).map (fun s =>
      (s.scheduler.kinds.validate "a" replacement, (s.setConfig "a" replacement).1,
        ((s.attempts "a" replacement 1).setConfig "a" replacement).1)) =
      some (.ok (), .error (.store "store_checkpoint unavailable"), .ok ()) := by
    decide +kernel
  rw [hs, Option.map_some, Option.some.injEq, Prod.mk.injEq] at hshown hcalls
  obtain ⟨hvalid, hcalls⟩ := hcalls
  obtain ⟨hfirst, hok⟩ := Prod.mk.inj hcalls
  have hfail : ∀ m < 1, ∃ reason,
      ((s.attempts "a" replacement m).setConfig "a" replacement).1 = .error (.store reason) := by
    intro m hm
    obtain rfl := Nat.lt_one_iff.1 hm
    exact ⟨_, hfirst⟩
  have heq := h solo (failingOnce .storeCheckpoint) 0 s "a" replacement 1 initial_solo hs hvalid hfail hok
  rw [hshown.1, hshown.2] at heq
  cases heq

end World

end BatchTraversal
