import BatchTraversal.Proofs.Detection.Informed

/-!
# Terms that agree with the store

A process whose inventory has the stamp of a stored configuration or schedule has seen that very value. As
long as the store does not fail, its live terms agree with it (`Scheduler.Agrees`), except that a
coordinator which was made since may have no schedule yet. Every chore of a process and every turn of a
batch keeps that, whichever process it belongs to, and so does a detection, which brings the terms of
every listed connector up to what is stored (`Site.terms?_detect_listed`).
-/

namespace BatchTraversal

/-! ## Agreement -/

namespace Scheduler

/-- Whether the live terms agree with what the process has seen in the store. A schedule may be missing:
that of a coordinator which was made after the stored schedule was seen. -/
structure Agrees (p : Scheduler) (st : Store) : Prop where
  configurationSeen : ∀ name stamps n, p.inventory.find? name = some stamps →
    stamps.configuration = some n → n ≤ st.lastStamp
  scheduleSeen : ∀ name stamps n, p.inventory.find? name = some stamps →
    stamps.schedule = some n → n ≤ st.lastStamp
  configuration : ∀ name stamps x v, p.inventory.find? name = some stamps →
    (st.task name).configuration = some x → stamps.configuration = some x.stamp →
    p.terms? name = some v → v.configuration = some x.value
  schedule : ∀ name stamps x v, p.inventory.find? name = some stamps →
    (st.task name).schedule = some x → stamps.schedule = some x.stamp →
    p.terms? name = some v → v.schedule = some x.value ∨ v.schedule = none

variable {p q : Scheduler} {st st' : Store} {c : CoordinatorId} {k : Coordinator}

theorem agrees_start (h : ∃ settings pool kinds, Scheduler.start settings pool kinds = .ok p)
    (st : Store) : p.Agrees st := by
  constructor
  all_goals
    intro name stamps
    simp [inventory_start h]

theorem Agrees.informed (h : p.Agrees st) : p.Informed st :=
  ⟨h.configurationSeen, h.scheduleSeen, h.configuration⟩

/-- Agreement is about the schedules what being informed is about the configurations. -/
theorem Informed.agrees (h : p.Informed st)
    (hschedule : ∀ name stamps x v, p.inventory.find? name = some stamps →
      (st.task name).schedule = some x → stamps.schedule = some x.stamp →
      p.terms? name = some v → v.schedule = some x.value ∨ v.schedule = none) : p.Agrees st :=
  ⟨h.configurationSeen, h.scheduleSeen, h.configuration, hschedule⟩

/-- A process goes on agreeing with a store that evolves: what was stored since has a stamp that the
process cannot have seen. -/
theorem Agrees.evolves (h : p.Agrees st) (he : st.Evolves st') : p.Agrees st' := by
  refine (h.informed.evolves he).agrees fun name stamps x v hi hx hs hv => ?_
  exact h.schedule name stamps x v hi (h.informed.schedule_stored he hi hx hs) hs hv

/-- A process goes on agreeing with the store if its terms are what they were or what is stored. -/
theorem Agrees.revise (h : p.Agrees st) (hinv : q.inventory = p.inventory)
    (hterms : ∀ name v', q.terms? name = some v' →
      (v'.configuration = st.configuration? name ∨
        ∃ v, p.terms? name = some v ∧ v.configuration = v'.configuration) ∧
      (v'.schedule = none ∨ v'.schedule = st.schedule? name ∨
        ∃ v, p.terms? name = some v ∧ v.schedule = v'.schedule)) : q.Agrees st := by
  have hi' := h.informed.revise hinv fun name v' hv' => (hterms name v' hv').1
  refine hi'.agrees fun name stamps x v' hi hx hs hv' => ?_
  rw [hinv] at hi
  rcases (hterms name v' hv').2 with hnone | hstored | ⟨v, hv, hsame⟩
  · exact .inr hnone
  · rw [hstored, Store.schedule?_of_stored hx]
    exact .inl rfl
  · rw [← hsame]
    exact h.schedule name stamps x v hi hx hs hv

/-- A process goes on agreeing with the store if its terms stay. -/
theorem Agrees.congr (h : p.Agrees st) (hinv : q.inventory = p.inventory)
    (hterms : ∀ name, q.terms? name = p.terms? name) : q.Agrees st := by
  refine h.revise hinv fun name v hv => ?_
  rw [hterms name] at hv
  exact ⟨.inr ⟨v, hv, rfl⟩, .inr (.inr ⟨v, hv, rfl⟩)⟩

end Scheduler

namespace Site

variable {s s' : Site} {t : TaskId}

/-- A chore keeps the agreement of its process with the store. -/
theorem Chore.agrees (h : Chore s s') (hr : s.scheduler.Registered)
    (ha : s.scheduler.Agrees s'.backend.store) : s'.scheduler.Agrees s'.backend.store :=
  ha.revise (h.revises hr).1 (h.revises hr).2

/-- A turn of a batch keeps the agreement of its process with the store: a schedule that it disables, it
disables in the store too. -/
theorem Turn.agrees (h : Turn t s s') (hr : s.scheduler.Registered) (hb : s.backend.Reliable)
    (ha : s.scheduler.Agrees s'.backend.store) : s'.scheduler.Agrees s'.backend.store := by
  cases h with
  | take | answer | crash | retire | choke | count => exact ha.congr rfl fun _ => rfl
  | move => exact ha.congr rfl (Scheduler.terms?_modify_same rfl rfl fun _ _ => rfl)
  | @settle b k code hx hbatch hst hk =>
    rcases settleBatch_cases (s.counted t k (BatchResult.ofCode code).count) t b k (.ofCode code) with
      ⟨-, he⟩ | ⟨-, disabled, -, he⟩ <;> rw [he] at ha ⊢
    · exact ha.congr rfl (Scheduler.terms?_modify_same rfl rfl fun _ _ => rfl)
    · cases disabled with
      | none => exact ha.congr rfl (Scheduler.terms?_modify_same rfl rfl fun _ _ => rfl)
      | some d =>
        refine ha.revise rfl fun name v' hv' => ?_
        rcases Scheduler.terms?_modify_cases (p := s.scheduler) (c := b.coordinator)
          (f := .settled (some d)) hv' rfl rfl with hv | ⟨l, hreg, hl, rfl⟩
        · exact ⟨.inr ⟨v', hv, rfl⟩, .inr (.inr ⟨v', hv, rfl⟩)⟩
        · obtain ⟨l', hl', hname, -⟩ := hr name _ hreg
          rw [hk] at hl hl'
          cases hl
          cases hl'
          subst hname
          refine ⟨.inr ⟨k.terms, Scheduler.terms?_of_coordinator? hreg hk, rfl⟩, .inr (.inl ?_)⟩
          show some d = ((s.backend.storeSchedule k.name d).2.store).schedule? k.name
          rw [Backend.storeSchedule, hb.call]
          simp [Store.schedule?, Store.storeSchedule, Store.task_write]

/-- As long as the store does not fail, whatever a process does keeps its agreement with the store. -/
theorem Moves.agrees (h : Moves s s') (hr : s.scheduler.Registered) (hb : s.backend.Reliable)
    (ha : s.scheduler.Agrees s.backend.store) : s'.scheduler.Agrees s'.backend.store := by
  induction h with
  | refl => exact ha
  | @tail s₁ s₂ h₀ h ih =>
    have hr₁ : s₁.scheduler.Registered := Moves.registered h₀ hr
    have hb₁ : s₁.backend.Reliable := Moves.reliable h₀ hb
    cases h with
    | chore h => exact h.agrees hr₁ (ih.evolves h.becomes.store)
    | turn t h => exact h.agrees hr₁ hb₁ (ih.evolves h.becomes.store)

end Site

/-! ## Detections -/

/-- The terms of a connector after a detection that found it listed before and after: the facets whose
stamps differ are as stored, as far as they are stored at all. -/
def Terms.revised (store : Store) (name : String) (before after : TaskStamps) (v : Terms) : Terms where
  configuration := if before.configuration = after.configuration then v.configuration
    else (store.configuration? name).or v.configuration
  schedule := if before.schedule = after.schedule then v.schedule
    else (store.schedule? name).or v.schedule

/-- What telling the differing facets of a connector does to its terms. -/
theorem Change.foldl_facets (store : Store) (name : String) (before after : TaskStamps)
    (v : Option Terms) : (facets name before after).foldl (effect store) v =
      v.map (Terms.revised store name before after) := by
  have hsch (w : Option Terms) : (if before.schedule = after.schedule then [] else
      [schedule name]).foldl (effect store) w = w.map fun w =>
        { w with schedule := if before.schedule = after.schedule then w.schedule
          else (store.schedule? name).or w.schedule } := by
    split
    · cases w <;> rfl
    · rw [List.foldl_cons, List.foldl_nil, effect, told?, Option.elim_some]
      cases store.schedule? name <;> cases w <;> rfl
  have hcon (w : Option Terms) : (if before.configuration = after.configuration then [] else
      [configuration name]).foldl (effect store) w = w.map fun w =>
        { w with configuration := if before.configuration = after.configuration then w.configuration
          else (store.configuration? name).or w.configuration } := by
    split
    · cases w <;> rfl
    · rw [List.foldl_cons, List.foldl_nil, effect, told?]
      cases store.configuration? name <;> cases w <;> rfl
  have hche (w : Option Terms) : (if before.checkpoint = after.checkpoint then [] else
      [checkpoint name]).foldl (effect store) w = w := by
    split <;> rfl
  rw [facets, List.foldl_append, List.foldl_append, hche, hcon, hsch, Option.map_map]
  rfl

namespace Store

/-- A name is listed with the stamps of what is stored for it if it has a configuration. -/
theorem find?_list_eq_some {st : Store} {name : String} {stamps : TaskStamps} :
    st.list.find? name = some stamps ↔
      (st.configuration? name).isSome ∧ stamps = (st.task name).stamps := by
  rw [find?_list, configuration?, Option.isSome_map]
  split
  · next hc => simp [hc, eq_comm]
  · next hc => simp [hc]

/-- What is stored is listed. -/
theorem find?_list_of_stored {st : Store} {name : String} {x : Stamped ConnectorConfig}
    (hx : (st.task name).configuration = some x) :
    st.list.find? name = some (st.task name).stamps :=
  find?_list_eq_some.2 ⟨by rw [configuration?_of_stored hx]; rfl, rfl⟩

theorem find?_list_eq_none {st : Store} {name : String} :
    st.list.find? name = none ↔ st.configuration? name = none := by
  rw [find?_list, configuration?]
  cases (st.task name).configuration <;> simp

theorem stamps_configuration {st : Store} {name : String} {x : Stamped ConnectorConfig}
    (hx : (st.task name).configuration = some x) :
    (st.task name).stamps.configuration = some x.stamp := by
  rw [StoredTask.stamps, hx]
  rfl

theorem stamps_schedule {st : Store} {name : String} {x : Stamped Schedule}
    (hx : (st.task name).schedule = some x) : (st.task name).stamps.schedule = some x.stamp := by
  rw [StoredTask.stamps, hx]
  rfl

end Store

namespace Site

variable {s : Site}

/-- The terms of a connector after a detection, by where it is listed. -/
theorem terms?_detect_cases (hr : s.scheduler.Registered) (hb : s.backend.Reliable) (name : String) :
    (s.backend.store.configuration? name = none ∧
      s.detect.2.scheduler.terms? name =
        if (s.scheduler.inventory.find? name).isSome then none else s.scheduler.terms? name) ∨
    ∃ config, s.backend.store.configuration? name = some config ∧
      (s.scheduler.inventory.find? name = none ∧ s.detect.2.scheduler.terms? name =
        some ⟨some config, (s.backend.store.schedule? name).or
          ((s.scheduler.terms? name).bind (·.schedule))⟩ ∨
      ∃ before, s.scheduler.inventory.find? name = some before ∧ s.detect.2.scheduler.terms? name =
        (s.scheduler.terms? name).map
          (.revised s.backend.store name before (s.backend.store.task name).stamps)) := by
  have hterms := (terms?_detect hr hb).2.2.2.2 name
  cases hc : s.backend.store.configuration? name with
  | none =>
    rw [Store.find?_list_eq_none.2 hc] at hterms
    refine .inl ⟨rfl, hterms.trans ?_⟩
    cases s.scheduler.inventory.find? name <;> rfl
  | some config =>
    have hlisted : s.backend.store.list.find? name = some (s.backend.store.task name).stamps :=
      Store.find?_list_eq_some.2 ⟨by rw [hc]; rfl, rfl⟩
    rw [hlisted] at hterms
    refine .inr ⟨config, rfl, ?_⟩
    cases hi : s.scheduler.inventory.find? name with
    | none =>
      rw [hi] at hterms
      refine .inl ⟨rfl, hterms.trans ?_⟩
      rw [Change.about, List.foldl_cons, List.foldl_nil, Change.effect, Change.told?, hc]
      rfl
    | some before =>
      rw [hi] at hterms
      exact .inr ⟨before, rfl, hterms.trans (Change.foldl_facets ..)⟩

/-- After a detection the configuration of every listed connector that has terms is the stored one. Its
schedule is the stored one too, if there is one, except that it may be missing where the process had
seen the stored schedule before and had no schedule. -/
theorem terms?_detect_listed (hr : s.scheduler.Registered) (hb : s.backend.Reliable)
    (ha : s.scheduler.Agrees s.backend.store) {name : String} {v' : Terms}
    (hv' : s.detect.2.scheduler.terms? name = some v')
    {x : Stamped ConnectorConfig} (hx : (s.backend.store.task name).configuration = some x) :
    v'.configuration = some x.value ∧
      ∀ y, (s.backend.store.task name).schedule = some y →
        v'.schedule = some y.value ∨ v'.schedule = none ∧ ∃ before v,
          s.scheduler.inventory.find? name = some before ∧ before.schedule = some y.stamp ∧
          s.scheduler.terms? name = some v ∧ v.schedule = none := by
  have hc := Store.configuration?_of_stored hx
  rcases terms?_detect_cases hr hb name with
    ⟨hnone, -⟩ | ⟨config, hconfig, ⟨-, he⟩ | ⟨before, hi, he⟩⟩
  · rw [hc] at hnone
    cases hnone
  · rw [hc] at hconfig
    cases hconfig
    rw [he] at hv'
    cases hv'
    refine ⟨rfl, fun y hy => .inl ?_⟩
    rw [Store.schedule?_of_stored hy]
    rfl
  · rw [he] at hv'
    obtain ⟨v, hv, rfl⟩ := Option.map_eq_some_iff.1 hv'
    constructor
    · rw [Terms.revised, Store.stamps_configuration hx, hc]
      dsimp only
      split
      · next hsame => exact ha.configuration name before x v hi hx hsame hv
      · rfl
    · intro y hy
      rw [Terms.revised, Store.stamps_schedule hy, Store.schedule?_of_stored hy]
      dsimp only
      split
      · next hsame =>
        rcases ha.schedule name before y v hi hy hsame hv with hsch | hsch
        · exact .inl hsch
        · exact .inr ⟨hsch, before, v, hi, hsame, hv, hsch⟩
      · exact .inl rfl

/-- A detection keeps the agreement of its process with the store. -/
theorem agrees_detect (hr : s.scheduler.Registered) (hb : s.backend.Reliable)
    (hd : s.backend.store.Dated) (ha : s.scheduler.Agrees s.backend.store) :
    s.detect.2.scheduler.Agrees s.backend.store := by
  have hinv := (terms?_detect hr hb).2.2.2.1
  have hlisted {name : String} {stamps : TaskStamps}
      (hi : s.detect.2.scheduler.inventory.find? name = some stamps) :
      (∃ x, (s.backend.store.task name).configuration = some x) ∧
        stamps = (s.backend.store.task name).stamps := by
    rw [hinv] at hi
    obtain ⟨hsome, he⟩ := Store.find?_list_eq_some.1 hi
    rw [Store.configuration?, Option.isSome_map] at hsome
    exact ⟨Option.isSome_iff_exists.1 hsome, he⟩
  refine ⟨?_, ?_, ?_, ?_⟩
  · intro name stamps n hi hn
    obtain ⟨-, rfl⟩ := hlisted hi
    obtain ⟨x, hx, rfl⟩ := Option.map_eq_some_iff.1 hn
    exact hd.configuration name x hx
  · intro name stamps n hi hn
    obtain ⟨-, rfl⟩ := hlisted hi
    obtain ⟨x, hx, rfl⟩ := Option.map_eq_some_iff.1 hn
    exact hd.schedule name x hx
  · intro name stamps x v hi hx hs hv
    exact (terms?_detect_listed hr hb ha hv hx).1
  · intro name stamps y v hi hy hs hv
    obtain ⟨⟨x, hx⟩, -⟩ := hlisted hi
    exact ((terms?_detect_listed hr hb ha hv hx).2 y hy).imp_right And.left

end Site

end BatchTraversal
