import BatchTraversal.Proofs.World.RepeatedConfiguration
import BatchTraversal.Proofs.World.RepeatedRemoval

/-!
# Administrative calls that are rejected

An administrative call has up to three reasons not to be carried out, which it looks for in a fixed order: for a
configuration its kind, the adapter and the store, for a schedule its text, the connector and the store, for a
removal and a restart the connector. The first reason there is decides what the call answers, and a call for which
there is one changes nothing, whatever is in flight (`AdminCall.perform_of_objection?`). A call for which there is
none may still fail, but only by a later write to the store and with another error
(`AdminCall.perform_of_unobjectionable`).
-/

namespace BatchTraversal

/-- An administrative call. -/
inductive AdminCall where
  | setConfig (name : String) (config : ConnectorConfig)
  | setSchedule (name text : String)
  | remove (name : String)
  | restart (name : String)

/-- Whether an error says that a call was not acceptable to the process: its connector is not registered, or its
kind not known, or the adapter does not accept the configuration, or the schedule cannot be read. -/
inductive Error.Rejects : Error → Prop
  | connectorNotFound (name : String) : Rejects (.connectorNotFound name)
  | unknownKind (kind : String) : Rejects (.unknownKind kind)
  | adapterRejected (name reason : String) : Rejects (.adapterRejected name reason)
  | malformedSchedule (cause : ScheduleError) : Rejects (.malformedSchedule cause)

theorem StoreMethod.not_rejects (m : StoreMethod) : ¬ m.unavailable.Rejects := nofun

namespace Site

/-- The kind of a configuration is not known. -/
def kindObjection? (s : Site) (config : ConnectorConfig) : Option Error :=
  if (s.scheduler.kinds.kinds.find? config.kind).isNone then some (.unknownKind config.kind) else none

/-- The kind of a configuration does not accept it. -/
def adapterObjection? (s : Site) (name : String) (config : ConnectorConfig) : Option Error :=
  (s.scheduler.kinds.kinds.find? config.kind).bind fun kind =>
    match kind.validate config with
    | .error reason => some (.adapterRejected name reason)
    | .ok () => none

/-- There is no such connector. -/
def nameObjection? (s : Site) (name : String) : Option Error :=
  if (s.scheduler.coordinator? name).isNone then some (.connectorNotFound name) else none

/-- The store fails the next call of a method. -/
def storeObjection? (s : Site) (m : StoreMethod) : Option Error :=
  if s.backend.fails m then some m.unavailable else none

variable {s : Site} {name : String} {config : ConnectorConfig} {m : StoreMethod} {e : Error}

/-- A process validates a configuration by looking for its kind and asking that. -/
theorem validate_eq (s : Site) (name : String) (config : ConnectorConfig) :
    s.scheduler.kinds.validate name config =
      ((s.kindObjection? config).or (s.adapterObjection? name config)).elim (.ok ()) .error := by
  rw [KindRegistry.validate, KindRegistry.lookup, kindObjection?, adapterObjection?]
  cases s.scheduler.kinds.kinds.find? config.kind with
  | none => rfl
  | some kind => cases hk : kind.validate config <;> simp [hk, Except.mapError]

theorem rejects_of_unacceptable
    (h : (s.kindObjection? config).or (s.adapterObjection? name config) = some e) : e.Rejects := by
  rw [kindObjection?, adapterObjection?] at h
  cases hkind : s.scheduler.kinds.kinds.find? config.kind with
  | none =>
    simp [hkind] at h
    exact h ▸ .unknownKind _
  | some kind =>
    cases hk : kind.validate config with
    | ok => simp [hkind, hk] at h
    | error reason =>
      simp [hkind, hk] at h
      exact h ▸ .adapterRejected _ _

/-- A connector that is registered is not objected to, and one that is not is not found. -/
theorem require_eq (s : Site) (name : String) : s.scheduler.coordinator? name = none ∧
      s.nameObjection? name = some (.connectorNotFound name) ∨
    (∃ c, s.scheduler.coordinator? name = some c) ∧ s.nameObjection? name = none := by
  cases hreg : s.scheduler.coordinator? name with
  | none => exact .inl ⟨rfl, by rw [nameObjection?, hreg]; rfl⟩
  | some c => exact .inr ⟨⟨c, rfl⟩, by rw [nameObjection?, hreg]; rfl⟩

theorem storeObjection?_eq_some :
    s.storeObjection? m = some e ↔ s.backend.fails m = true ∧ m.unavailable = e := by
  simp [storeObjection?]

end Site

/-- The text of a schedule cannot be read. -/
def Schedule.textObjection? (text : String) : Option Error :=
  match Schedule.parse text with
  | .error cause => some (.malformedSchedule cause)
  | .ok _ => none

namespace AdminCall

/-- The call as an action of a process. -/
def action : AdminCall → Action
  | setConfig name config => .setConfig name config
  | setSchedule name text => .setSchedule name text
  | remove name => .remove name
  | restart name => .restart name

/-- What the call answers and does to a process. -/
def perform (s : Site) : AdminCall → Except Error Unit × Site
  | setConfig name config => s.setConfig name config
  | setSchedule name text => s.setSchedule name text
  | remove name => s.removeConnector name
  | restart name => s.restartConnector name

/-- How the call writes to the store before it does anything else, if it does. -/
def firstWrite? : AdminCall → Option StoreMethod
  | setConfig .. => some .storeConfiguration
  | setSchedule .. => some .storeSchedule
  | remove _ | restart _ => none

/-- The first reason not to carry out the call. -/
def objection? (s : Site) : AdminCall → Option Error
  | setConfig name config =>
    (s.kindObjection? config).or ((s.adapterObjection? name config).or (s.storeObjection? .storeConfiguration))
  | setSchedule name text =>
    (Schedule.textObjection? text).or ((s.nameObjection? name).or (s.storeObjection? .storeSchedule))
  | remove name | restart name => s.nameObjection? name

/-- Whether the call answers that it was not carried out: it was not acceptable, or its first write failed. -/
def TurnedDown (call : AdminCall) (e : Error) : Prop :=
  e.Rejects ∨ ∃ m, call.firstWrite? = some m ∧ e = m.unavailable

variable {s : Site} {call : AdminCall} {e : Error}

theorem act_action (s : Site) (call : AdminCall) : s.act call.action = (call.perform s).2 := by
  cases call <;> rfl

/-- A call for which there is a reason not to carry it out answers the first one. If it was not acceptable nothing
has happened, and if its first write failed, nothing but that. -/
theorem perform_of_objection? (h : call.objection? s = some e) :
    e.Rejects ∧ call.perform s = (.error e, s) ∨ ∃ m, call.firstWrite? = some m ∧ e = m.unavailable ∧
      call.perform s = (.error e, { s with backend := s.backend.used m }) := by
  cases call with
  | setConfig name config =>
    rw [objection?, ← Option.or_assoc] at h
    have hvalid := s.validate_eq name config
    cases hunacceptable : (s.kindObjection? config).or (s.adapterObjection? name config) with
    | some e' =>
      rw [hunacceptable] at h hvalid
      cases h
      refine .inl ⟨Site.rejects_of_unacceptable hunacceptable, ?_⟩
      simp only [perform, Site.setConfig, hvalid, Option.elim]
    | none =>
      rw [hunacceptable] at h hvalid
      obtain ⟨hfails, rfl⟩ := Site.storeObjection?_eq_some.1 h
      refine .inr ⟨_, rfl, rfl, ?_⟩
      simp only [perform, Site.setConfig, hvalid, Option.elim, Backend.storeConfiguration,
        Backend.call_of_fails hfails]
  | setSchedule name text =>
    rw [objection?, Schedule.textObjection?] at h
    cases hparse : Schedule.parse text with
    | error cause =>
      simp only [hparse, Option.some_or, Option.some.injEq] at h
      subst h
      exact .inl ⟨.malformedSchedule cause, by simp only [perform, Site.setSchedule, hparse]⟩
    | ok schedule =>
      simp only [hparse, Option.none_or] at h
      rcases s.require_eq name with ⟨hnone, hobjection⟩ | ⟨⟨c, hreg⟩, hobjection⟩ <;>
        rw [hobjection] at h
      · cases h
        exact .inl ⟨.connectorNotFound name, by
          simp only [perform, Site.setSchedule, hparse, Scheduler.require, hnone]⟩
      · obtain ⟨hfails, rfl⟩ := Site.storeObjection?_eq_some.1 h
        refine .inr ⟨_, rfl, rfl, ?_⟩
        simp only [perform, Site.setSchedule, hparse, Scheduler.require, hreg, Backend.storeSchedule,
          Backend.call_of_fails hfails]
  | remove name | restart name =>
    rcases s.require_eq name with ⟨hnone, hobjection⟩ | ⟨-, hobjection⟩ <;>
      rw [objection?, hobjection] at h
    · cases h
      exact .inl ⟨.connectorNotFound name, by
        simp only [perform, Site.removeConnector, Site.restartConnector, Scheduler.require, hnone]⟩
    · cases h

/-- A call for which there is no reason not to carry it out fails only because a later write to the store does. -/
theorem perform_of_unobjectionable (hr : s.scheduler.Registered) (he : s.scheduler.Enrolled)
    (h : call.objection? s = none) (herror : (call.perform s).1 = .error e) :
    e = StoreMethod.storeCheckpoint.unavailable ∨ e = StoreMethod.removeTask.unavailable := by
  cases call with
  | setConfig name config =>
    rw [objection?, ← Option.or_assoc, Option.or_eq_none_iff] at h
    have hvalid := s.validate_eq name config
    rw [h.1] at hvalid
    cases Site.setConfig_attempt hr he hvalid with
    | refused hfails => exact absurd h.2 (by simp [Site.storeObjection?, hfails])
    | set _ hok | cleared _ _ hok => cases hok.symm.trans herror
    | uncleared _ _ huncleared =>
      cases huncleared.symm.trans herror
      exact .inl rfl
  | setSchedule name text =>
    rw [objection?, Schedule.textObjection?] at h
    cases hparse : Schedule.parse text with
    | error cause => simp [hparse] at h
    | ok schedule =>
      simp only [hparse, Option.none_or, Option.or_eq_none_iff] at h
      rcases s.require_eq name with ⟨-, hobjection⟩ | ⟨⟨c, hreg⟩, -⟩
      · cases hobjection.symm.trans h.1
      · have hworks : s.backend.fails .storeSchedule = false := by
          simpa [Site.storeObjection?] using h.2
        obtain ⟨k, hk, -, hlive⟩ := hr name c hreg
        simp only [perform, Site.setSchedule, hparse, Scheduler.require, hreg, Backend.storeSchedule,
          Backend.call_of_works hworks] at herror
        rcases Scheduler.setSchedule_cases hk hlive schedule with ⟨-, hset⟩ | ⟨-, hset⟩ <;>
          rw [hset] at herror <;> cases herror
  | remove name =>
    rcases s.require_eq name with ⟨-, hobjection⟩ | ⟨⟨c, hreg⟩, -⟩
    · cases hobjection.symm.trans h
    · rw [perform, Site.removeConnector_of_registered hreg] at herror
      exact .inr (Backend.error_of_call herror)
  | restart name =>
    rcases s.require_eq name with ⟨-, hobjection⟩ | ⟨⟨c, hreg⟩, -⟩
    · cases hobjection.symm.trans h
    · simp only [perform, Site.restartConnector, Scheduler.require, hreg] at herror
      obtain ⟨-, -, ⟨-, hunavailable, -⟩ | ⟨-, hok, -⟩⟩ := Site.restart_attempt hr hreg
      · exact .inl (Except.error.inj (herror.symm.trans hunavailable))
      · cases hok.symm.trans herror

/-- What a call answers that was not carried out is the first reason not to. -/
theorem turnedDown_iff (hr : s.scheduler.Registered) (he : s.scheduler.Enrolled) :
    (call.perform s).1 = .error e ∧ call.TurnedDown e ↔ call.objection? s = some e := by
  constructor
  · rintro ⟨herror, hdown⟩
    cases hobjection : call.objection? s with
    | some e' =>
      rcases perform_of_objection? hobjection with ⟨-, hperform⟩ | ⟨m, -, -, hperform⟩ <;>
        rw [hperform] at herror <;> cases herror <;> rfl
    | none =>
      have hlater := perform_of_unobjectionable hr he hobjection herror
      rcases hdown with hrejects | ⟨m, hfirst, rfl⟩
      · rcases hlater with rfl | rfl <;> exact absurd hrejects (StoreMethod.not_rejects _)
      · -- the later writes are none of the first ones
        cases call <;> cases hfirst <;> simp [StoreMethod.unavailable, StoreMethod.name] at hlater
  · intro hobjection
    rcases perform_of_objection? hobjection with ⟨hrejects, hperform⟩ | ⟨m, hfirst, rfl, hperform⟩ <;>
      rw [hperform]
    · exact ⟨rfl, .inl hrejects⟩
    · exact ⟨rfl, .inr ⟨m, hfirst, rfl⟩⟩

end AdminCall

namespace World

variable {w : World} {i : Nat} {s : Site}

/-- An action of a process that changes nothing but the store leaves all processes as they are. -/
theorem withSite_backend (hs : w.site? i = some s) (b : Backend) :
    w.withSite i { s with backend := b } = { w with backend := b } := by
  obtain ⟨hp, -, hclock⟩ := site?_eq_some.1 hs
  obtain ⟨hi, hp⟩ := List.getElem?_eq_some_iff.1 hp
  rw [withSite, ← hp, List.set_getElem_self hi, hclock]

/-- Whatever has happened before, an administrative call that answers that its connector is not registered, its
kind not known, its configuration not accepted by the adapter or its schedule not readable leaves everything as
it was, and so does a call that sets a configuration or a schedule and whose first write to the store fails: all
of the process, what is in the store with its stamps, and the other processes; of the fates of the store's calls
the failed one is used up. Which of these answers is given, if one is, is decided in a fixed order: the kind is
looked for, then the adapter is asked, then the store, or the text is read, then the connector is looked for,
then the store is written to. -/
theorem rejected_calls (hw : w.Initial) (events : List Event) (hs : (w.run events).site? i = some s)
    (call : AdminCall) :
    (∀ e, (call.perform s).1 = .error e → call.TurnedDown e →
      ∃ faults, (call.perform s).2 = { s with backend := { s.backend with faults } } ∧
        w.run (events ++ [.act i call.action]) =
          { w.run events with backend := { s.backend with faults } } ∧
        (e.Rejects → faults = s.backend.faults)) ∧
    ∀ e, (call.perform s).1 = .error e ∧ call.TurnedDown e ↔ call.objection? s = some e := by
  have hmem := List.mem_of_getElem? (site?_eq_some.1 hs).1
  have hr := (run_orderly hw events _ hmem).registered
  have he := run_enrolled hw events _ hmem
  refine ⟨fun e herror hdown => ?_, fun e => AdminCall.turnedDown_iff hr he⟩
  have hobjection := (AdminCall.turnedDown_iff hr he).1 ⟨herror, hdown⟩
  have hworld := (run_act hs call.action).trans (congrArg _ (AdminCall.act_action s call))
  rcases AdminCall.perform_of_objection? hobjection with ⟨-, hperform⟩ | ⟨m, -, rfl, hperform⟩ <;>
    rw [hperform] at hworld ⊢
  · exact ⟨s.backend.faults, rfl, hworld.trans (withSite_backend hs s.backend), fun _ => rfl⟩
  · exact ⟨(s.backend.used m).faults, rfl, hworld.trans (withSite_backend hs _),
      fun h => absurd h m.not_rejects⟩

/-- While a batch is in flight and the store is to fail the next write of a schedule, a configuration of an
unknown kind is rejected for its kind, and the schedule of another connector because that is not registered: the
store is not asked. -/
theorem rejected_calls_inFlight : ∃ s,
    (solo.run (firstBatch ++ [.fate .storeSchedule [true]])).site? 0 = some s ∧
    ((s.scheduler.coordinators[0]?).map (·.handle)) = some (some 0) ∧
    s.setConfig "a" { kind := "none" } = (.error (.unknownKind "none"), s) ∧
    s.setSchedule "b" "b:60:0:0-24" = (.error (.connectorNotFound "b"), s) := by
  obtain ⟨s, hs⟩ : ∃ s,
      (solo.run (firstBatch ++ [.fate .storeSchedule [true]])).site? 0 = some s := ⟨_, rfl⟩
  have hshown : ((solo.run (firstBatch ++ [.fate .storeSchedule [true]])).site? 0).map (fun s =>
      ((s.scheduler.coordinators[0]?).map (·.handle),
        (AdminCall.setConfig "a" { kind := "none" }).objection? s,
        (AdminCall.setSchedule "b" "b:60:0:0-24").objection? s)) =
      some (some (some 0), some (.unknownKind "none"), some (.connectorNotFound "b")) := by
    decide +kernel
  rw [hs, Option.map_some, Option.some.injEq, Prod.mk.injEq, Prod.mk.injEq] at hshown
  obtain ⟨hhandle, hkind, hname⟩ := hshown
  -- what is rejected changes not even the fates of the store's calls
  have hsame (call : AdminCall) (e : Error) (hobjection : call.objection? s = some e) (he : e.Rejects) :
      call.perform s = (.error e, s) := by
    obtain ⟨hunchanged, hanswer⟩ := rejected_calls initial_solo _ hs call
    obtain ⟨herror, hdown⟩ := (hanswer e).2 hobjection
    obtain ⟨faults, hstays, -, hfaults⟩ := hunchanged e herror hdown
    rw [hfaults he] at hstays
    exact Prod.ext herror hstays
  exact ⟨s, hs, hhandle, hsame _ _ hkind (.unknownKind _), hsame _ _ hname (.connectorNotFound _)⟩

end World

end BatchTraversal
