import BatchTraversal.Proofs.Detection.Listings
import BatchTraversal.Proofs.Process.Actions
import BatchTraversal.Proofs.Process.Known
import BatchTraversal.Proofs.Store.Failures

/-!
# What a detection does to the live terms

The terms of a connector are the configuration and the schedule its process goes by
(`Scheduler.terms?`). A notification changes those of the connector it is about and of no other
(`Site.terms?_hear`). So, as long as the store does not fail, a detection revises the terms of every
connector by what its two entries in the listings differ in (`Site.terms?_detect`), and it leaves the
store as it is.
-/

namespace BatchTraversal

/-- The configuration and the schedule that a process goes by for a connector. -/
structure Terms where
  configuration : Option ConnectorConfig
  schedule : Option Schedule

def Coordinator.terms (k : Coordinator) : Terms := ⟨k.config, k.schedule⟩

namespace Amendment

/-- What an amendment does to the terms. -/
def revise : Amendment → Terms → Terms
  | configure config, v => { v with configuration := some config }
  | reschedule schedule, v => { v with schedule := some schedule }
  | dropTraverser, v => v

theorem terms_apply (a : Amendment) (k : Coordinator) : (a.apply k).terms = a.revise k.terms := by
  cases a <;> rfl

end Amendment

namespace Scheduler

/-- The terms of a connector, if the process knows it. -/
def terms? (p : Scheduler) (name : String) : Option Terms :=
  (p.coordinator? name).bind fun c => (p.coordinators[c]?).map (·.terms)

variable {p q : Scheduler} {name : String} {c : CoordinatorId} {k : Coordinator}

theorem terms?_eq_some {v : Terms} : p.terms? name = some v ↔
    ∃ c k, p.coordinator? name = some c ∧ p.coordinators[c]? = some k ∧ k.terms = v := by
  simp only [terms?, Option.bind_eq_some_iff, Option.map_eq_some_iff]
  constructor
  · rintro ⟨c, hc, k, hk, hv⟩
    exact ⟨c, k, hc, hk, hv⟩
  · rintro ⟨c, k, hc, hk, hv⟩
    exact ⟨c, hc, k, hk, hv⟩

/-- The names with terms are the registered ones. -/
theorem Registered.isSome_terms? (hr : p.Registered) :
    (p.terms? name).isSome ↔ (p.coordinator? name).isSome := by
  cases hc : p.coordinator? name with
  | none => simp [terms?, hc]
  | some c =>
    obtain ⟨k, hk, -⟩ := hr name c hc
    simp [terms?, hc, hk]

theorem terms?_of_coordinator? (hreg : p.coordinator? name = some c)
    (hk : p.coordinators[c]? = some k) : p.terms? name = some k.terms :=
  terms?_eq_some.2 ⟨c, k, hreg, hk, rfl⟩

/-- The terms stay if the registry does and no coordinator changes its own. -/
theorem terms?_congr (hreg : q.registry = p.registry)
    (hc : ∀ c : CoordinatorId, (q.coordinators[c]?).map (·.terms) =
      (p.coordinators[c]?).map (·.terms)) (name : String) : q.terms? name = p.terms? name := by
  rw [terms?, terms?, coordinator?, coordinator?, hreg]
  exact congrArg _ (funext hc)

/-- The terms are those of the coordinator the process goes by. -/
theorem terms?_eq_known? (p : Scheduler) (name : String) :
    p.terms? name = (p.known? name).map (·.terms) := Option.map_bind.symm

/-- An amended coordinator has its terms revised. -/
theorem terms?_amend (hr : p.Registered) (hreg : p.coordinator? name = some c) (a : Amendment)
    (other : String) : (p.interrupt c a.apply).terms? other =
      if other = name then (p.terms? other).map a.revise else p.terms? other := by
  rw [terms?_eq_known?, terms?_eq_known?, hr.known?_interrupt hreg]
  split
  · rw [Option.map_map, Option.map_map]
    exact congrArg (Option.map · _) (funext fun k => a.terms_apply k)
  · rfl

/-- A new coordinator has the terms it was made with. -/
theorem terms?_enlist (hr : p.Registered) (name : String) (config : ConnectorConfig)
    (other : String) : (p.enlist name config).terms? other =
      if other = name then some ⟨some config, none⟩ else p.terms? other := by
  rw [terms?_eq_known?, terms?_eq_known?, hr.known?_enlist]
  split <;> rfl

/-- A connector that was detached has no terms any more. -/
theorem terms?_detach (hr : p.Registered) (hreg : p.coordinator? name = some c) (other : String) :
    (p.detach name c).terms? other = if other = name then none else p.terms? other := by
  rw [terms?_eq_known?, terms?_eq_known?, hr.known?_detach hreg]
  split <;> rfl

/-- What leaves the terms of a coordinator as they are revises nothing. -/
theorem terms?_unrevised (hreg : p.coordinator? name = some c) (hk : p.coordinators[c]? = some k)
    {a : Amendment} (hsame : a.revise k.terms = k.terms) (other : String) : p.terms? other =
      if other = name then (p.terms? other).map a.revise else p.terms? other := by
  split
  · next he => rw [he, terms?_of_coordinator? hreg hk, Option.map_some, hsame]
  · rfl

theorem terms?_setConfiguration (hr : p.Registered) (hreg : p.coordinator? name = some c)
    (config : ConnectorConfig) (other : String) : (p.setConfiguration c config).2.terms? other =
      if other = name then (p.terms? other).map (Amendment.configure config).revise
      else p.terms? other := by
  obtain ⟨k, hk, -, hlive⟩ := hr name c hreg
  rcases setConfiguration_cases hk hlive config with ⟨hsame, he⟩ | ⟨-, he⟩ <;> rw [he]
  · exact terms?_unrevised hreg hk (by rw [Amendment.revise, Coordinator.terms, hsame]) other
  · exact terms?_amend hr hreg (.configure config) other

theorem terms?_setSchedule (hr : p.Registered) (hreg : p.coordinator? name = some c)
    (schedule : Schedule) (other : String) : (p.setSchedule c schedule).2.terms? other =
      if other = name then (p.terms? other).map (Amendment.reschedule schedule).revise
      else p.terms? other := by
  obtain ⟨k, hk, -, hlive⟩ := hr name c hreg
  rcases setSchedule_cases hk hlive schedule with ⟨hsame, he⟩ | ⟨-, he⟩ <;> rw [he]
  · exact terms?_unrevised hreg hk (by rw [Amendment.revise, Coordinator.terms, hsame]) other
  · exact terms?_amend hr hreg (.reschedule schedule) other

theorem terms?_checkpointChanged (hr : p.Registered) (hreg : p.coordinator? name = some c)
    (checkpoint : Option String) (other : String) :
    (p.checkpointChanged c checkpoint).2.terms? other = p.terms? other := by
  obtain ⟨k, hk, -, hlive⟩ := hr name c hreg
  simp only [checkpointChanged, live_eq_ok.2 ⟨hk, hlive⟩]
  by_cases hseen : k.cell.matchesSeen checkpoint
  · rw [if_pos hseen]
  · rw [if_neg hseen]
    refine (terms?_amend hr hreg .dropTraverser other).trans ?_
    by_cases he : other = name
    · rw [if_pos he]
      cases p.terms? other <;> rfl
    · rw [if_neg he]

end Scheduler

/-! ## Stores that do not fail -/

namespace Backend

variable {b : Backend}

theorem Reliable.used (hb : b.Reliable) (m : StoreMethod) : (b.used m).Reliable := by
  intro m' h
  simp only [Backend.used, withFaults] at h
  split at h
  · next he => exact hb m' (he ▸ List.mem_of_mem_tail h)
  · exact hb m' h

/-- A call of a store that does not fail is answered and has its effect. -/
theorem Reliable.call {α : Type} (hb : b.Reliable) (m : StoreMethod) (g : Store → α)
    (f : Store → Store) : b.call m g f = (.ok (g b.store), { b.used m with store := f b.store }) :=
  call_of_works (hb.works m) g f

end Backend

/-- What there is to tell of a change, with the value that is stored. -/
def Change.told? (store : Store) : Change → Option Notification
  | removed name => some (.removed name)
  | added name => (store.configuration? name).map (.added name)
  | checkpoint name => some (.checkpointChanged name (store.checkpoint? name))
  | configuration name => (store.configuration? name).map (.configurationChanged name)
  | schedule name => some (.scheduleChanged name (store.schedule? name))

theorem Change.name_told? {store : Store} {c : Change} {n : Notification}
    (h : c.told? store = some n) : n.name = c.name := by
  cases c <;> simp only [told?, Option.map_eq_some_iff, Option.some.injEq] at h
  case added => obtain ⟨_, -, rfl⟩ := h; rfl
  case configuration => obtain ⟨_, -, rfl⟩ := h; rfl
  all_goals subst h; rfl

/-- Reading a change in a store that does not fail finds what there is to tell. -/
theorem Change.read_reliable {b : Backend} (hb : b.Reliable) (c : Change) :
    (c.read b).1 = .ok (c.told? b.store) ∧ (c.read b).2.Reliable ∧
      (c.read b).2.store = b.store := by
  cases c with
  | removed name => exact ⟨rfl, hb, rfl⟩
  | added name | configuration name =>
    simp only [read, Backend.readConfiguration, hb.call]
    exact ⟨rfl, hb.used _, rfl⟩
  | checkpoint name =>
    simp only [read, Backend.readCheckpoint, hb.call]
    exact ⟨rfl, hb.used _, rfl⟩
  | schedule name =>
    simp only [read, Backend.readSchedule, hb.call]
    exact ⟨rfl, hb.used _, rfl⟩

/-! ## Notifications -/

/-- What a notification does to the terms of the connector it is about. An addition brings the stored
schedule along, if there is one. -/
def Notification.effect (store : Store) : Notification → Option Terms → Option Terms
  | .added name config, v =>
    some ⟨some config, (store.schedule? name).or (v.bind (·.schedule))⟩
  | .removed _, _ => none
  | .checkpointChanged _ _, v | .scheduleChanged _ none, v => v
  | .configurationChanged _ config, v => v.map (Amendment.configure config).revise
  | .scheduleChanged _ (some schedule), v => v.map (Amendment.reschedule schedule).revise

namespace Site

variable {s : Site}

/-- If the store does not fail, a listener leaves it as it is. -/
theorem backend_hear (hb : s.backend.Reliable) (n : Notification) :
    (hear n s).2.backend.Reliable ∧ (hear n s).2.backend.store = s.backend.store := by
  cases n with
  | removed name =>
    simp only [hear]
    split <;> exact ⟨hb, rfl⟩
  | checkpointChanged name checkpoint | configurationChanged name config =>
    simp only [hear]
    split <;> exact ⟨hb, rfl⟩
  | scheduleChanged name schedule =>
    cases schedule with
    | none => exact ⟨hb, rfl⟩
    | some schedule =>
      simp only [hear]
      split <;> exact ⟨hb, rfl⟩
  | added name config =>
    simp only [hear, Backend.readSchedule, hb.call]
    split
    · exact ⟨hb, rfl⟩
    · split
      · next he => cases he
      · next he =>
        obtain ⟨-, rfl⟩ := Prod.mk.inj he
        exact ⟨hb.used .readSchedule, rfl⟩
      · next he =>
        obtain ⟨-, rfl⟩ := Prod.mk.inj he
        exact ⟨hb.used .readSchedule, rfl⟩

/-- An addition is heard by the configuration being set, on a new coordinator if there is none, and the
schedule after it, if one is stored. -/
theorem terms?_hear_added (hr : s.scheduler.Registered) (hb : s.backend.Reliable) (name : String)
    (config : ConnectorConfig) (other : String) :
    (hear (.added name config) s).2.scheduler.terms? other = if other = name then
      (Notification.added name config).effect s.backend.store (s.scheduler.terms? other)
      else s.scheduler.terms? other := by
  -- the process once the configuration is set
  obtain ⟨c, q, q', hfor, ⟨b, hset⟩, hregq, hr', hterms⟩ : ∃ c q q',
      s.scheduler.coordinatorFor name = (c, q) ∧ (∃ b, q.setConfiguration c config = (.ok b, q')) ∧
      q'.coordinator? name = some c ∧ q'.Registered ∧ ∀ other, q'.terms? other =
        if other = name then some ⟨some config, (s.scheduler.terms? other).bind (·.schedule)⟩
        else s.scheduler.terms? other := by
    cases hreg : s.scheduler.coordinator? name with
    | none =>
      obtain ⟨c, q, hfor, hset, -, hc⟩ := Scheduler.coordinatorFor_new hreg config
      refine ⟨c, q, _, hfor, ⟨true, hset⟩, hc, hr.enlist name config, fun other => ?_⟩
      rw [Scheduler.terms?_enlist hr]
      by_cases he : other = name
      · subst he
        simp [Scheduler.terms?, hreg]
      · rw [if_neg he, if_neg he]
    | some c =>
      obtain ⟨k, hk, hkn, hlive⟩ := hr name c hreg
      have hterms := Scheduler.terms?_setConfiguration hr hreg config
      have hregq : (s.scheduler.setConfiguration c config).2.coordinator? name = some c := by
        rwa [Scheduler.coordinator?, Scheduler.registry_setConfiguration]
      have hok : ∃ b, (s.scheduler.setConfiguration c config).1 = .ok b := by
        simp only [Scheduler.setConfiguration, Scheduler.live_eq_ok.2 ⟨hk, hlive⟩]
        split <;> exact ⟨_, rfl⟩
      have hr' : (s.scheduler.setConfiguration c config).2.Registered := by
        simp only [Scheduler.setConfiguration, Scheduler.live_eq_ok.2 ⟨hk, hlive⟩]
        split
        · exact hr
        · exact hr.interrupt hk fun _ => ⟨rfl, rfl⟩
      obtain ⟨b, hb⟩ := hok
      refine ⟨c, s.scheduler, (s.scheduler.setConfiguration c config).2, ?_, ⟨b, by rw [← hb]⟩,
        hregq, hr', fun other => ?_⟩
      · simp only [Scheduler.coordinatorFor, hreg]
      · rw [hterms]
        by_cases he : other = name
        · subst he
          simp [Scheduler.terms?_of_coordinator? hreg hk, Amendment.revise]
        · rw [if_neg he, if_neg he]
  simp only [hear, hfor, hset, Backend.readSchedule, hb.call, Notification.effect]
  cases hs : s.backend.store.schedule? name with
  | none =>
    dsimp only
    rw [hterms, Option.none_or]
  | some schedule =>
    dsimp only
    rw [Scheduler.terms?_setSchedule hr' hregq, hterms]
    by_cases he : other = name
    · simp only [if_pos he, Option.map_some, Option.some_or, Amendment.revise]
    · rw [if_neg he, if_neg he, if_neg he]

/-- A notification changes the terms of the connector it is about and of no other. -/
theorem terms?_hear (hr : s.scheduler.Registered) (hb : s.backend.Reliable) (n : Notification)
    (other : String) : (hear n s).2.scheduler.terms? other = if other = n.name then
      n.effect s.backend.store (s.scheduler.terms? other) else s.scheduler.terms? other := by
  -- what is told of a connector that is not registered changes nothing
  have hnone {name : String} (hreg : s.scheduler.coordinator? name = none) :
      s.scheduler.terms? name = none := by
    rw [Scheduler.terms?, hreg]
    rfl
  have hkept {name : String} {f : Option Terms → Option Terms} (hf : f none = none)
      (hreg : s.scheduler.coordinator? name = none) : s.scheduler.terms? other =
        if other = name then f (s.scheduler.terms? other) else s.scheduler.terms? other := by
    by_cases he : other = name
    · subst he
      rw [if_pos rfl, hnone hreg, hf]
    · rw [if_neg he]
  cases n with
  | added name config => exact terms?_hear_added hr hb name config other
  | removed name =>
    simp only [hear, Notification.name, Notification.effect]
    cases hreg : s.scheduler.coordinator? name with
    | none => exact hkept (f := fun _ => none) rfl hreg
    | some c => exact Scheduler.terms?_detach hr hreg other
  | checkpointChanged name checkpoint =>
    simp only [hear, Scheduler.require, Notification.name, Notification.effect]
    cases hreg : s.scheduler.coordinator? name with
    | none => exact hkept (f := id) rfl hreg
    | some c =>
      exact (Scheduler.terms?_checkpointChanged hr hreg checkpoint other).trans (ite_self _).symm
  | configurationChanged name config =>
    simp only [hear, Scheduler.require, Notification.name, Notification.effect]
    cases hreg : s.scheduler.coordinator? name with
    | none => exact hkept (f := Option.map _) rfl hreg
    | some c => exact Scheduler.terms?_setConfiguration hr hreg config other
  | scheduleChanged name schedule =>
    cases schedule with
    | none =>
      simp only [hear, Notification.effect, ite_self]
    | some schedule =>
      simp only [hear, Scheduler.require, Notification.name, Notification.effect]
      cases hreg : s.scheduler.coordinator? name with
      | none => exact hkept (f := Option.map _) rfl hreg
      | some c => exact Scheduler.terms?_setSchedule hr hreg schedule other

end Site

/-! ## Detections -/

/-- What telling a change does to the terms of the connector it is about. -/
def Change.effect (store : Store) (v : Option Terms) (c : Change) : Option Terms :=
  (c.told? store).elim v (·.effect store v)

namespace Site

/-- As long as the store does not fail, telling changes succeeds, leaves the store as it is and changes
the terms of every connector by the changes about it, one after the other. -/
theorem tell_reliable (changes : List Change) (summary : ChangeSummary) (s : Site)
    (hr : s.scheduler.Registered) (hb : s.backend.Reliable) :
    let r := Detector.tell (listener s.clock) changes summary s.scheduler s.backend
    (∃ total, r.1 = .ok total) ∧ r.2.2.Reliable ∧ r.2.2.store = s.backend.store ∧
      ∀ other, r.2.1.terms? other = (changes.filter fun c => c.name = other).foldl
        (Change.effect s.backend.store) (s.scheduler.terms? other) := by
  induction changes generalizing s summary with
  | nil => exact ⟨⟨summary, rfl⟩, hb, rfl, fun _ => rfl⟩
  | cons c rest ih =>
    obtain ⟨hval, hrel, hstore⟩ := c.read_reliable hb
    have hfold (other : String) (v : Option Terms) :
        ((c :: rest).filter fun c => c.name = other).foldl (Change.effect s.backend.store) v =
          (rest.filter fun c => c.name = other).foldl (Change.effect s.backend.store)
            (if other = c.name then c.effect s.backend.store v else v) := by
      rw [Change.filter_cons_name rfl]
      split <;> rfl
    simp only [Detector.tell]
    generalize hread : c.read s.backend = read at hval hrel hstore ⊢
    obtain ⟨result, b⟩ := read
    dsimp only at hval hrel hstore
    cases htold : c.told? s.backend.store with
    | none =>
      rw [htold] at hval
      subst hval
      obtain ⟨hok, hrel', hstore', hterms⟩ := ih summary { s with backend := b } hr hrel
      refine ⟨hok, hrel', hstore'.trans hstore, fun other => ?_⟩
      rw [hterms other, hfold]
      dsimp only
      rw [hstore, Change.effect, htold, Option.elim_none, ite_self]
    | some n =>
      rw [htold] at hval
      subst hval
      obtain ⟨hedits, hclock⟩ := hear_read hr hread
      obtain ⟨hrel₁, hstore₁⟩ := backend_hear (s := { s with backend := b }) hrel n
      have hterms₁ := terms?_hear (s := { s with backend := b }) hr hrel n
      obtain ⟨hok, hrel', hstore', hterms⟩ := ih (summary.count n)
        (hear n { s with backend := b }).2 (hedits.registered hr) hrel₁
      rw [hclock] at hok hrel' hstore' hterms
      have hsame : (hear n { s with backend := b }).2.backend.store = s.backend.store :=
        hstore₁.trans hstore
      refine ⟨hok, hrel', hstore'.trans hsame, fun other => ?_⟩
      rw [hfold]
      refine (hterms other).trans ?_
      rw [hsame, hterms₁ other, Change.name_told? htold]
      dsimp only
      rw [hstore, Change.effect, htold, Option.elim_some]

/-- As long as the store does not fail, a detection succeeds and leaves the store as it is, its listing
becomes the inventory, and the terms of every connector change by what its entries in the inventory and
in the listing differ in. -/
theorem terms?_detect {s : Site} (hr : s.scheduler.Registered) (hb : s.backend.Reliable) :
    (∃ summary, s.detect.1 = .ok summary) ∧ s.detect.2.backend.Reliable ∧
      s.detect.2.backend.store = s.backend.store ∧
      s.detect.2.scheduler.inventory = s.backend.store.list ∧
      ∀ other, s.detect.2.scheduler.terms? other =
        (Change.about other (s.scheduler.inventory.find? other)
          (s.backend.store.list.find? other)).foldl (Change.effect s.backend.store)
          (s.scheduler.terms? other) := by
  have hlist : s.backend.list = (.ok s.backend.store.list, s.backend.used .listTasks) :=
    hb.call .listTasks (·.list) id
  obtain ⟨⟨total, hok⟩, hrel, hstore, hterms⟩ := tell_reliable
    (Change.between s.scheduler.inventory.entries s.backend.store.list.entries) {}
    { s with backend := s.backend.used .listTasks } hr (hb.used .listTasks)
  simp only [detect, Detector.detect, hlist]
  dsimp only at hok hrel hstore hterms
  generalize Detector.tell (listener s.clock)
    (Change.between s.scheduler.inventory.entries s.backend.store.list.entries) {} s.scheduler
    (s.backend.used .listTasks) = told at hok hrel hstore hterms ⊢
  obtain ⟨result, scheduler, b⟩ := told
  dsimp only at hok hrel hstore hterms
  subst hok
  refine ⟨⟨total, rfl⟩, hrel, hstore, rfl, fun other => ?_⟩
  have habout := Change.between_about s.scheduler.inventory.ascending
    s.backend.store.list.ascending other
  refine (hterms other).trans ?_
  rw [habout]
  rfl

end Site

end BatchTraversal
