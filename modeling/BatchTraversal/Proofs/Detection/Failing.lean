import BatchTraversal.Proofs.Detection.Announcements
import BatchTraversal.Proofs.Detection.Informed
import BatchTraversal.Proofs.Process.Admission
import BatchTraversal.Proofs.Store.Failures

/-!
# Detections whose calls fail

A detection whose own reads fail stops there and will be repeated. A listener whose call fails is passed
over (`Detector.passedOver`). The only one of its calls that can fail, if it is called by a process at all
that has the connector, is the reading of the schedule of a connector that was added; it then hears of the
addition as if no schedule were stored (`Site.terms?_hear_failing`). So what holds of the terms of a
connector, and is kept by whatever is heard of it, holds after a detection (`Site.detect_keeps`); what a
change brings about holds after a detection that succeeds (`Site.detect_reaches`).
-/

namespace BatchTraversal

/-- What is told of changes to a listener that fails, up to the first read that fails. -/
def Detector.passedOver {σ : Type} (hear : Listener σ) : List Change → σ → Backend → List Notification
  | [], _, _ => []
  | c :: rest, s, b =>
    match c.read b with
    | (.error _, _) => []
    | (.ok none, b) => passedOver hear rest s b
    | (.ok (some n), b) =>
      match hear n s b with
      | (.error _, s, b) => n :: passedOver hear rest s b
      | (.ok _, s, b) => passedOver hear rest s b

namespace Site

variable {s : Site} {name : String}

/-- Only for an addition a listener asks the store. -/
theorem scheduler_hear {n : Notification} (hn : ∀ name config, n ≠ .added name config) (b : Backend) :
    (hear n s).2.scheduler = (hear n { s with backend := b }).2.scheduler := by
  cases n with
  | added name config => exact absurd rfl (hn name config)
  | removed name => simp only [hear]; split <;> rfl
  | checkpointChanged name checkpoint => simp only [hear]; split <;> rfl
  | configurationChanged name config => simp only [hear]; split <;> rfl
  | scheduleChanged name schedule =>
    cases schedule with
    | none => rfl
    | some schedule => simp only [hear]; split <;> rfl

/-- A listener hears of an addition what is stored, or, if it cannot read the schedule, as if nothing
were. -/
theorem scheduler_hear_added (name : String) (config : ConnectorConfig) :
    ∃ heard : Store, (heard = s.backend.store ∨
      heard = {} ∧ ∃ e, (hear (.added name config) s).1 = .error e) ∧
      (hear (.added name config) s).2.scheduler =
        (hear (.added name config) { s with backend := { store := heard } }).2.scheduler := by
  have hcalm (st : Store) : Backend.fails { store := st } .readSchedule = false := rfl
  cases hf : s.backend.fails .readSchedule with
  | true =>
    refine ⟨{}, .inr ⟨rfl, ?_⟩, ?_⟩ <;>
      simp only [hear, Backend.readSchedule, Backend.call_of_fails hf, Backend.call_of_works (hcalm _)]
    · split
      · exact ⟨_, rfl⟩
      · exact ⟨_, rfl⟩
    · split <;> rfl
  | false =>
    refine ⟨s.backend.store, .inl rfl, ?_⟩
    simp only [hear, Backend.readSchedule, Backend.call_of_works hf, Backend.call_of_works (hcalm _)]
    split
    · rfl
    · cases s.backend.store.schedule? name <;> rfl

/-- A notification changes the terms of the connector it is about and of no other, whatever calls of the
store fail. -/
theorem terms?_hear_failing (hr : s.scheduler.Registered) (n : Notification) :
    ∃ heard : Store, (heard = s.backend.store ∨ heard = {} ∧ ∃ e, (hear n s).1 = .error e) ∧
      ∀ other, (hear n s).2.scheduler.terms? other = if other = n.name then
        n.effect heard (s.scheduler.terms? other) else s.scheduler.terms? other := by
  obtain ⟨heard, hheard, he⟩ : ∃ heard : Store,
      (heard = s.backend.store ∨ heard = {} ∧ ∃ e, (hear n s).1 = .error e) ∧
      (hear n s).2.scheduler = (hear n { s with backend := { store := heard } }).2.scheduler := by
    by_cases hn : ∃ name config, n = .added name config
    · obtain ⟨name, config, rfl⟩ := hn
      exact scheduler_hear_added name config
    · exact ⟨s.backend.store, .inl rfl, scheduler_hear (fun name config h => hn ⟨name, config, h⟩) _⟩
  refine ⟨heard, hheard, fun other => ?_⟩
  rw [he]
  exact terms?_hear (s := { s with backend := { store := heard } }) hr (fun _ h => nomatch h) n other

/-- A listener leaves the store as it is. -/
theorem store_hear (n : Notification) : (hear n s).2.backend.store = s.backend.store := by
  cases n with
  | removed name => simp only [hear]; split <;> rfl
  | checkpointChanged name checkpoint => simp only [hear]; split <;> rfl
  | configurationChanged name config => simp only [hear]; split <;> rfl
  | scheduleChanged name schedule =>
    cases schedule with
    | none => rfl
    | some schedule => simp only [hear]; split <;> rfl
  | added name config =>
    have hread : (s.backend.readSchedule name).2.store = s.backend.store :=
      (s.backend.store_call .readSchedule (·.schedule? name) id).elim id id
    simp only [hear]
    split
    · rfl
    · split <;> next he => exact (congrArg (·.2.store) he).symm.trans hread

/-! ## Telling -/

/-- Whether a notification may be heard as if a store were the one that is asked: it is, or the listener
fails and asks as good as an empty one. -/
def HeardOf (st : Store) (passed : List Notification) (n : Notification) (heard : Store) : Prop :=
  heard = st ∨ heard = {} ∧ n ∈ passed

/-- Whether what is heard of a connector keeps a property of its terms. -/
def KeptBy (st : Store) (passed : List Notification) (name : String) (I : Option Terms → Prop) : Prop :=
  ∀ n heard v, n.TrueOf st → n.name = name → HeardOf st passed n heard → I v → I (n.effect heard v)

/-- Whether hearing of a change brings about a property of the terms of its connector. -/
def BroughtBy (st : Store) (passed : List Notification) (c : Change) (I : Option Terms → Prop) : Prop :=
  ∃ n, c.told? st = some n ∧ ∀ heard v, HeardOf st passed n heard → I (n.effect heard v)

variable {I : Option Terms → Prop} {st : Store} {passed : List Notification} {changes : List Change}

/-- What becomes of the terms of a connector when a change is told, and of the list of those notifications
that are passed over. -/
theorem tell_step (hr : s.scheduler.Registered) {c : Change} {n : Notification} {b : Backend}
    (hread : c.read s.backend = (.ok (some n), b)) {rest : List Change}
    (hpassed : Detector.passedOver (listener s.clock) (c :: rest) s.scheduler s.backend ⊆ passed) :
    let t := (hear n { s with backend := b }).2
    n.TrueOf s.backend.store ∧ t.scheduler.Registered ∧ t.clock = s.clock ∧
      t.backend.store = s.backend.store ∧
      Detector.passedOver (listener t.clock) rest t.scheduler t.backend ⊆ passed ∧
      ∃ heard, HeardOf s.backend.store passed n heard ∧ ∀ other, t.scheduler.terms? other =
        if other = n.name then n.effect heard (s.scheduler.terms? other)
        else s.scheduler.terms? other := by
  have htrue : n.TrueOf s.backend.store := (c.read_cases s.backend).2 n (congrArg Prod.fst hread)
  have hstore := (Change.read_eq_ok hread).2
  obtain ⟨hedits, hclock⟩ := hear_read hr hread
  obtain ⟨heard, hheard, hterms⟩ := terms?_hear_failing (s := { s with backend := b }) hr n
  rw [Detector.passedOver, hread] at hpassed
  dsimp only at hpassed
  have hlisten : listener s.clock n s.scheduler b = ((hear n { s with backend := b }).1,
      (hear n { s with backend := b }).2.scheduler, (hear n { s with backend := b }).2.backend) := rfl
  rw [hlisten] at hpassed
  refine ⟨htrue, hedits.registered hr, hclock, (store_hear n).trans hstore, ?_, heard, ?_, hterms⟩
  · rw [hclock]
    cases hres : (hear n { s with backend := b }).1 with
    | error e =>
      rw [hres] at hpassed
      exact List.subset_of_cons_subset hpassed
    | ok =>
      rw [hres] at hpassed
      exact hpassed
  · rcases hheard with rfl | ⟨rfl, e, hres⟩
    · exact .inl hstore
    · rw [hres] at hpassed
      exact .inr ⟨rfl, hpassed List.mem_cons_self⟩

/-- A property of the terms of a connector that is kept by what is heard of it is kept by telling,
however far that gets. -/
theorem tell_keeps (hkept : KeptBy st passed name I) (summary : ChangeSummary)
    (hr : s.scheduler.Registered) (hst : s.backend.store = st)
    (hpassed : Detector.passedOver (listener s.clock) changes s.scheduler s.backend ⊆ passed)
    (hI : I (s.scheduler.terms? name)) :
    I ((Detector.tell (listener s.clock) changes summary s.scheduler s.backend).2.1.terms? name) := by
  induction changes generalizing s summary with
  | nil => exact hI
  | cons c rest ih =>
    unfold Detector.tell
    split
    · exact hI
    · next b he =>
      rw [Detector.passedOver, he] at hpassed
      exact ih (s := { s with backend := b }) summary hr ((Change.read_eq_ok he).2.trans hst) hpassed hI
    · next n b he =>
      obtain ⟨htrue, hr', hclock, hstore, hrest, heard, hheard, hterms⟩ := tell_step hr he hpassed
      rw [hst] at htrue hheard
      have h := ih (s := (hear n { s with backend := b }).2) (summary.count n) hr' (hstore.trans hst)
        hrest ?_
      · rw [hclock] at h
        exact h
      · rw [hterms]
        split
        · next hname => exact hkept n heard _ htrue hname.symm hheard hI
        · exact hI

/-- What telling a change brings about, and what is heard of the connector keeps, holds after all changes
have been told. -/
theorem tell_reaches (hkept : KeptBy st passed name I) (summary total : ChangeSummary)
    (hr : s.scheduler.Registered) (hst : s.backend.store = st)
    (hpassed : Detector.passedOver (listener s.clock) changes s.scheduler s.backend ⊆ passed)
    {c : Change} (hc : c ∈ changes) (hname : c.name = name) (hbrought : BroughtBy st passed c I)
    (hok : (Detector.tell (listener s.clock) changes summary s.scheduler s.backend).1 = .ok total) :
    I ((Detector.tell (listener s.clock) changes summary s.scheduler s.backend).2.1.terms? name) := by
  induction changes generalizing s summary with
  | nil => exact absurd hc List.not_mem_nil
  | cons d rest ih =>
    unfold Detector.tell at hok ⊢
    split at hok
    · cases hok
    · next b he =>
      rw [Detector.passedOver, he] at hpassed
      obtain ⟨htold, hstore⟩ := Change.read_eq_ok he
      refine ih (s := { s with backend := b }) summary hr (hstore.trans hst) hpassed ?_ hok
      refine (List.mem_cons.1 hc).resolve_left fun hcd => ?_
      obtain ⟨n, hn, -⟩ := hbrought
      rw [← hst, hcd, ← htold] at hn
      cases hn
    · next n b he =>
      obtain ⟨htrue, hr', hclock, hstore, hrest, heard, hheard, hterms⟩ := tell_step hr he hpassed
      have hok' : (Detector.tell (listener (hear n { s with backend := b }).2.clock) rest
          (summary.count n) (hear n { s with backend := b }).2.scheduler
          (hear n { s with backend := b }).2.backend).1 = .ok total := by
        rw [hclock]
        exact hok
      rcases List.mem_cons.1 hc with rfl | hc
      · -- this is the change, and the rest keeps what it brings about
        obtain ⟨n', hn', hbrings⟩ := hbrought
        have htold := (Change.read_eq_ok he).1
        rw [hst, hn'] at htold
        cases htold
        have h := tell_keeps (s := (hear n { s with backend := b }).2) hkept (summary.count n) hr'
          (hstore.trans hst) hrest (by
            rw [hterms, Change.name_told? hn', if_pos hname.symm]
            exact hbrings heard _ (hst ▸ hheard))
        rw [hclock] at h
        exact h
      · have h := ih (s := (hear n { s with backend := b }).2) (summary.count n) hr' (hstore.trans hst)
          hrest hc hok'
        rw [hclock] at h
        exact h

/-- Telling leaves the store as it is. -/
theorem store_tell (changes : List Change) (summary : ChangeSummary) (clock : Clock) (p : Scheduler)
    (b : Backend) : (Detector.tell (listener clock) changes summary p b).2.2.store = b.store := by
  induction changes generalizing summary p b with
  | nil => rfl
  | cons c rest ih =>
    have hread : (c.read b).2.store = b.store := by
      obtain ⟨m, he | he⟩ := (c.read_cases b).1 <;> rw [he]
      rfl
    unfold Detector.tell
    split
    · next e b' he =>
      rw [he] at hread
      exact hread
    · next b' he =>
      rw [he] at hread
      exact (ih summary p b').trans hread
    · next n b' he =>
      rw [he] at hread
      exact (ih ..).trans ((store_hear (s := ⟨p, b', clock⟩) n).trans hread)

/-! ## Detections -/

/-- What a detection of a process would pass over. -/
def passedOver (s : Site) : List Notification :=
  match s.backend.list with
  | (.error _, _) => []
  | (.ok listing, b) => Detector.passedOver (listener s.clock)
      (Change.between s.scheduler.inventory.entries listing.entries) s.scheduler b

/-- What is passed over was a change between the inventory and the listing. -/
theorem added_of_passedOver {config : ConnectorConfig} (h : .added name config ∈ s.passedOver) :
    s.scheduler.inventory.find? name = none := by
  have hchanges {hear : Detector.Listener Scheduler} {changes : List Change} {p : Scheduler}
      {b : Backend} (h : .added name config ∈ Detector.passedOver hear changes p b) :
      .added name ∈ changes := by
    induction changes generalizing p b with
    | nil => cases h
    | cons c rest ih =>
      unfold Detector.passedOver at h
      split at h
      · cases h
      · exact List.mem_cons_of_mem c (ih h)
      · next n b' he =>
        split at h
        · rcases List.mem_cons.1 h with rfl | h
          · rw [Change.eq_added_of_read (congrArg Prod.fst he)]
            exact List.mem_cons_self
          · exact List.mem_cons_of_mem c (ih h)
        · exact List.mem_cons_of_mem c (ih h)
  unfold passedOver at h
  split at h
  · cases h
  · exact Change.find?_of_added (hchanges h)

/-- A detection leaves the store as it is. If it fails the inventory stays, and if it succeeds the listing
takes its place. -/
theorem detect_failing (s : Site) : s.detect.2.backend.store = s.backend.store ∧
    ((∃ e, s.detect.1 = .error e) ∧ s.detect.2.scheduler.inventory = s.scheduler.inventory ∨
      (∃ total, s.detect.1 = .ok total) ∧
        s.detect.2.scheduler.inventory = s.backend.store.list) := by
  rcases s.detect_cases with ⟨e, -, he⟩ | ⟨-, r, p, b, inventory, ht, he, hinv⟩ <;> rw [he]
  · exact ⟨rfl, .inl ⟨⟨e, rfl⟩, rfl⟩⟩
  · have hstore := store_tell (Change.between s.scheduler.inventory.entries
      s.backend.store.list.entries) {} s.clock s.scheduler (s.backend.used .listTasks)
    rw [ht] at hstore
    exact ⟨hstore, hinv⟩

/-- A property of the terms of a connector that is kept by what is heard of it is kept by a detection,
whatever calls fail. -/
theorem detect_keeps (hr : s.scheduler.Registered)
    (hkept : KeptBy s.backend.store s.passedOver name I) (hI : I (s.scheduler.terms? name)) :
    I (s.detect.2.scheduler.terms? name) := by
  unfold passedOver at hkept
  rcases s.detect_cases with ⟨e, -, he⟩ | ⟨hl, r, p, b, inventory, ht, he, -⟩ <;> rw [he]
  · exact hI
  · rw [hl] at hkept
    have htell := tell_keeps (s := { s with backend := s.backend.used .listTasks }) hkept {} hr rfl
      (List.Subset.refl _) hI
    dsimp only at htell
    rw [ht] at htell
    exact htell

/-- What a change brings about, and what is heard of the connector keeps, holds after a detection that
succeeds. -/
theorem detect_reaches (hr : s.scheduler.Registered)
    (hkept : KeptBy s.backend.store s.passedOver name I) {c : Change}
    (hc : c ∈ Change.between s.scheduler.inventory.entries s.backend.store.list.entries)
    (hname : c.name = name) (hbrought : BroughtBy s.backend.store s.passedOver c I)
    (hok : ∃ total, s.detect.1 = .ok total) : I (s.detect.2.scheduler.terms? name) := by
  obtain ⟨total, hok⟩ := hok
  unfold passedOver at hkept hbrought
  rcases s.detect_cases with ⟨e, -, he⟩ | ⟨hl, r, p, b, inventory, ht, he, -⟩ <;> rw [he] at hok ⊢
  · cases hok
  · rw [hl] at hkept hbrought
    have htell := tell_reaches (s := { s with backend := s.backend.used .listTasks }) hkept {} total hr rfl
      (List.Subset.refl _) hc hname hbrought
    dsimp only at htell
    rw [ht] at htell
    exact htell hok

end Site

end BatchTraversal
