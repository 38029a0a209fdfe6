import BatchTraversal.Proofs.Detection.Failing

/-!
# Schedules that a process overlooks

A detection tells a process of a stored schedule once its stamp is not that of the inventory. A process
whose inventory has the stamp already while its live coordinator does not go by the schedule overlooks it
(`Site.Overlooks`): no detection will tell it again. Where the store does not fail, that is the only way in
which a detection leaves a listed connector without its stored schedule (`Site.schedule_detect_iff`). A
detection whose calls fail may itself make the process overlook a schedule, if it finds the connector added
and the listener, which cannot read the schedule, is passed over (`Site.overlooks_detect`). It never makes
the process overlook a configuration (`Site.informed_detect`).
-/

namespace BatchTraversal

/-- A difference between the two entries of a name is found by the walk. -/
theorem Change.mem_between {old new : NameMap TaskStamps} {c : Change}
    (h : c ∈ about c.name (old.find? c.name) (new.find? c.name)) : c ∈ between old.entries new.entries := by
  rw [NameMap.find?, NameMap.find?, ← between_about old.ascending new.ascending] at h
  exact (List.mem_filter.1 h).1

namespace Terms

/-- Whether the configuration of a connector is a certain one, if the process goes by it at all. -/
def Configured (config : ConnectorConfig) (v : Option Terms) : Prop :=
  ∀ t, v = some t → t.configuration = some config

/-- Whether the schedule of a connector is a certain one, if the process goes by it at all. -/
def Scheduled (schedule : Schedule) (v : Option Terms) : Prop :=
  ∀ t, v = some t → t.schedule = some schedule

end Terms

namespace Site

open Terms

variable {s s' : Site} {name : String} {st : Store} {passed : List Notification}
  {x : Stamped ConnectorConfig} {y : Stamped Schedule}

/-! ## What is heard of a connector -/

/-- Whatever is heard of a connector, a live configuration that is the stored one stays so. -/
theorem keptBy_configured {config : ConnectorConfig} (hst : st.configuration? name = some config) :
    KeptBy st passed name (Configured config) := by
  intro n heard v htrue hname hheard hI t ht
  cases n with
  | added other config' =>
    subst hname
    cases ht
    exact htrue.symm.trans hst
  | removed other => cases ht
  | checkpointChanged other checkpoint => exact hI t ht
  | configurationChanged other config' =>
    subst hname
    obtain ⟨u, -, rfl⟩ := Option.map_eq_some_iff.1 ht
    exact htrue.symm.trans hst
  | scheduleChanged other schedule =>
    cases schedule with
    | none => exact hI t ht
    | some schedule =>
      obtain ⟨u, hu, rfl⟩ := Option.map_eq_some_iff.1 ht
      exact hI u hu

/-- Hearing of a new or changed configuration makes the live one the stored one. -/
theorem broughtBy_configured {config : ConnectorConfig} (hst : st.configuration? name = some config)
    {c : Change} (hc : c = .added name ∨ c = .configuration name) :
    BroughtBy st passed c (Configured config) := by
  rcases hc with rfl | rfl
  · refine ⟨.added name config, by rw [Change.told?, hst]; rfl, fun heard v _ t ht => ?_⟩
    cases ht
    rfl
  · refine ⟨.configurationChanged name config, by rw [Change.told?, hst]; rfl, fun heard v _ t ht => ?_⟩
    obtain ⟨u, -, rfl⟩ := Option.map_eq_some_iff.1 ht
    rfl

/-- Whether the schedule of a connector is a certain one, or the connector was found added and passed
over. -/
def ScheduledUnlessPassed (passed : List Notification) (name : String) (schedule : Schedule)
    (v : Option Terms) : Prop :=
  Scheduled schedule v ∨ ∃ config, .added name config ∈ passed

/-- A listener that hears of an addition sets the stored schedule, or it is passed over. -/
theorem scheduledUnlessPassed_added {schedule : Schedule} (hst : st.schedule? name = some schedule)
    {config : ConnectorConfig} {heard : Store} (h : HeardOf st passed (.added name config) heard)
    (v : Option Terms) :
    ScheduledUnlessPassed passed name schedule ((Notification.added name config).effect heard v) := by
  rcases h with rfl | ⟨-, hpassed⟩
  · refine .inl fun t ht => ?_
    cases ht
    rw [hst, Option.some_or]
  · exact .inr ⟨config, hpassed⟩

/-- Whatever is heard of a connector, a live schedule that is the stored one stays so, unless an addition
is passed over. -/
theorem keptBy_scheduled {schedule : Schedule} (hst : st.schedule? name = some schedule) :
    KeptBy st passed name (ScheduledUnlessPassed passed name schedule) := by
  intro n heard v htrue hname hheard hI
  cases n with
  | added other config =>
    subst hname
    exact scheduledUnlessPassed_added hst hheard v
  | removed other => exact .inl fun t ht => nomatch ht
  | checkpointChanged other checkpoint => exact hI
  | configurationChanged other config =>
    refine hI.imp_left fun hI t ht => ?_
    obtain ⟨u, hu, rfl⟩ := Option.map_eq_some_iff.1 ht
    exact hI u hu
  | scheduleChanged other stored =>
    cases stored with
    | none => exact hI
    | some stored =>
      subst hname
      refine .inl fun t ht => ?_
      obtain ⟨u, -, rfl⟩ := Option.map_eq_some_iff.1 ht
      exact htrue.symm.trans hst

/-- Hearing of a new connector or of a changed schedule makes the live schedule the stored one, unless the
addition is passed over. -/
theorem broughtBy_scheduled {config : ConnectorConfig} {schedule : Schedule}
    (hconfig : st.configuration? name = some config) (hst : st.schedule? name = some schedule)
    {c : Change} (hc : c = .added name ∨ c = .schedule name) :
    BroughtBy st passed c (ScheduledUnlessPassed passed name schedule) := by
  rcases hc with rfl | rfl
  · exact ⟨.added name config, by rw [Change.told?, hconfig]; rfl, fun heard v hheard =>
      scheduledUnlessPassed_added hst hheard v⟩
  · refine ⟨.scheduleChanged name (some schedule), by rw [Change.told?, hst], fun heard v _ => ?_⟩
    refine .inl fun t ht => ?_
    obtain ⟨u, -, rfl⟩ := Option.map_eq_some_iff.1 ht
    rfl

/-! ## Detections -/

/-- A listed connector is found added, or in the inventory with what its stamps differ in. -/
theorem added_or_facets (hx : (s.backend.store.task name).configuration = some x) :
    .added name ∈ Change.between s.scheduler.inventory.entries s.backend.store.list.entries ∨
      ∃ before, s.scheduler.inventory.find? name = some before ∧
        ∀ c ∈ Change.facets name before (s.backend.store.task name).stamps,
          c ∈ Change.between s.scheduler.inventory.entries s.backend.store.list.entries := by
  have hlisted := Store.find?_list_of_stored hx
  cases hi : s.scheduler.inventory.find? name with
  | none =>
    refine .inl (Change.mem_between ?_)
    rw [Change.name, hi, hlisted]
    exact List.mem_singleton_self _
  | some before =>
    refine .inr ⟨before, rfl, fun c hc => Change.mem_between ?_⟩
    rw [Change.name_of_mem_facets hc, hi, hlisted]
    exact hc

/-- Whatever of a detection fails, afterwards the process is informed if it was before. -/
theorem informed_detect (hr : s.scheduler.Registered) (hd : s.backend.store.Dated)
    (hi : s.scheduler.Informed s.backend.store) :
    s.detect.2.scheduler.Informed s.detect.2.backend.store := by
  obtain ⟨hstore, h⟩ := s.detect_failing
  rw [hstore]
  -- what is heard keeps a configuration that is the stored one
  have hkept {x : Stamped ConnectorConfig} {name : String}
      (hx : (s.backend.store.task name).configuration = some x) :
      KeptBy s.backend.store s.passedOver name (Configured x.value) :=
    keptBy_configured (Store.configuration?_of_stored hx)
  rcases h with ⟨-, hinv⟩ | ⟨hok, hinv⟩
  · refine ⟨hinv ▸ hi.configurationSeen, hinv ▸ hi.scheduleSeen,
      fun name stamps x v hfound hx hs hv => ?_⟩
    rw [hinv] at hfound
    exact detect_keeps hr (hkept hx) (fun t => hi.configuration name stamps x t hfound hx hs) v hv
  · have hlisted {name : String} {stamps : TaskStamps}
        (hfound : s.detect.2.scheduler.inventory.find? name = some stamps) :
        stamps = (s.backend.store.task name).stamps := by
      rw [hinv] at hfound
      exact (Store.find?_list_eq_some.1 hfound).2
    refine ⟨fun name stamps n hfound hn => ?_, fun name stamps n hfound hn => ?_,
      fun name stamps x v hfound hx hs hv => ?_⟩
    · rw [hlisted hfound] at hn
      obtain ⟨x, hx, rfl⟩ := Option.map_eq_some_iff.1 hn
      exact hd.configuration name x hx
    · rw [hlisted hfound] at hn
      obtain ⟨y, hy, rfl⟩ := Option.map_eq_some_iff.1 hn
      exact hd.schedule name y hy
    · have hconfig := Store.configuration?_of_stored hx
      rcases added_or_facets hx with hadded | ⟨before, hbefore, hfacets⟩
      · exact detect_reaches hr (hkept hx) hadded rfl (broughtBy_configured hconfig (.inl rfl)) hok v hv
      · by_cases hsame : before.configuration = some x.stamp
        · exact detect_keeps hr (hkept hx)
            (fun t => hi.configuration name before x t hbefore hx hsame) v hv
        · refine detect_reaches hr (hkept hx) (hfacets (.configuration name) ?_) rfl
            (broughtBy_configured hconfig (.inr rfl)) hok v hv
          simp [Change.facets, Store.stamps_configuration hx, hsame]

/-! ## Overlooking -/

/-- Whether a process has the stamp of a stored schedule in its inventory while its live coordinator goes
by another schedule or none. -/
structure Overlooks (s : Site) (name : String) (y : Stamped Schedule) : Prop where
  stored : (s.backend.store.task name).schedule = some y
  seen : ∃ stamps, s.scheduler.inventory.find? name = some stamps ∧ stamps.schedule = some y.stamp
  live : ∃ v, s.scheduler.terms? name = some v ∧ v.schedule ≠ some y.value

/-- A schedule that is overlooked after a detection was so before, or the detection found its connector
added and passed it over. -/
theorem overlooks_detect (hr : s.scheduler.Registered) (h : s.detect.2.Overlooks name y) :
    s.Overlooks name y ∨
      (∃ total, s.detect.1 = .ok total) ∧ ∃ config, .added name config ∈ s.passedOver := by
  obtain ⟨hstore, hcases⟩ := s.detect_failing
  obtain ⟨hy, ⟨stamps, hfound, hs⟩, v', hv', hlive⟩ := h
  rw [hstore] at hy
  have hschedule := Store.schedule?_of_stored hy
  have hkept : KeptBy s.backend.store s.passedOver name
      (ScheduledUnlessPassed s.passedOver name y.value) := keptBy_scheduled hschedule
  -- a connector that the inventory had with this stamp was overlooked or is kept
  have hseen {before : TaskStamps} (hbefore : s.scheduler.inventory.find? name = some before)
      (hsame : before.schedule = some y.stamp) : s.Overlooks name y := by
    refine ⟨hy, ⟨before, hbefore, hsame⟩, ?_⟩
    by_contra hno
    have hI : ScheduledUnlessPassed s.passedOver name y.value (s.scheduler.terms? name) :=
      .inl fun t ht => by_contra fun hne => hno ⟨t, ht, hne⟩
    rcases detect_keeps hr hkept hI with hafter | ⟨config, hpassed⟩
    · exact hlive (hafter v' hv')
    · rw [added_of_passedOver hpassed] at hbefore
      cases hbefore
  rcases hcases with ⟨-, hinv⟩ | ⟨hok, hinv⟩
  · rw [hinv] at hfound
    exact .inl (hseen hfound hs)
  · rw [hinv, Store.find?_list_eq_some] at hfound
    obtain ⟨x, hx, hconfig⟩ := Option.map_eq_some_iff.1 (Option.eq_some_of_isSome hfound.1)
    have hstored := Store.configuration?_of_stored hx
    -- a change that is told brings the stored schedule about, unless the addition is passed over
    have hreach {c : Change} (hc : c = .added name ∨ c = .schedule name)
        (hmem : c ∈ Change.between s.scheduler.inventory.entries s.backend.store.list.entries) :
        ∃ config, .added name config ∈ s.passedOver := by
      have hname : c.name = name := by rcases hc with rfl | rfl <;> rfl
      refine (detect_reaches hr hkept hmem hname (broughtBy_scheduled hstored hschedule hc)
        hok).resolve_left fun hafter => hlive (hafter v' hv')
    rcases added_or_facets hx with hadded | ⟨before, hbefore, hfacets⟩
    · exact .inr ⟨hok, hreach (.inl rfl) hadded⟩
    · by_cases hsame : before.schedule = some y.stamp
      · exact .inl (hseen hbefore hsame)
      · refine .inr ⟨hok, hreach (.inr rfl) (hfacets _ ?_)⟩
        simp [Change.facets, Store.stamps_schedule hy, hsame]

/-- After a detection in a store that does not fail, the live schedule of a listed connector is the stored
one exactly if the process did not overlook it. -/
theorem schedule_detect_iff (hr : s.scheduler.Registered) (hb : s.backend.Reliable)
    (hx : (s.backend.store.task name).configuration = some x)
    (hy : (s.backend.store.task name).schedule = some y) {v : Terms}
    (hv : s.detect.2.scheduler.terms? name = some v) :
    v.schedule = some y.value ↔ ¬ s.Overlooks name y := by
  have hconfig := Store.configuration?_of_stored hx
  have hschedule := Store.schedule?_of_stored hy
  rcases terms?_detect_cases hr hb name with
    ⟨hnone, -⟩ | ⟨config, -, ⟨hi, he⟩ | ⟨before, hi, he⟩⟩
  · rw [hconfig] at hnone
    cases hnone
  · -- the connector is found added
    rw [hv, hschedule] at he
    cases he
    refine iff_of_true rfl fun h => ?_
    obtain ⟨stamps, hfound, -⟩ := h.seen
    rw [hi] at hfound
    cases hfound
  · rw [he] at hv
    obtain ⟨u, hu, rfl⟩ := Option.map_eq_some_iff.1 hv
    rw [Terms.revised, hschedule, Store.stamps_schedule hy]
    dsimp only
    split
    · next hsame =>
      refine ⟨fun hlive h => ?_, fun h => by_contra fun hne => h ⟨hy, ⟨before, hi, hsame⟩, u, hu, hne⟩⟩
      obtain ⟨w, hw, hne⟩ := h.live
      rw [hu] at hw
      cases hw
      exact hne hlive
    · next hdiffers =>
      refine iff_of_true rfl fun h => ?_
      obtain ⟨stamps, hfound, hs⟩ := h.seen
      rw [hi] at hfound
      cases hfound
      exact hdiffers hs

end Site

end BatchTraversal
