import BatchTraversal.Proofs.Detection.Announcements
import BatchTraversal.Proofs.Detection.Informed
import BatchTraversal.Proofs.Process.Saving
import Mathlib.Data.List.Induction

/-!
# Detections step by step

A process that looks for changes in the store lists it, reads the value of one change after the other, and
applies what it has read. Its batches go on meanwhile, and between a reading and the application of its
value they may save checkpoints. `Inspector` is a process between any two of these steps. Steps of a
detection one right after the other do what `Site.detect` does (`Inspector.run_proceeds`).
-/

namespace BatchTraversal

namespace Change

variable {store : Store} {c : Change} {name : String}

/-- Only a change of the checkpoint tells of a checkpoint, and it tells the stored one. -/
theorem told?_eq_checkpointChanged {v : Option String} :
    c.told? store = some (.checkpointChanged name v) ↔
      c = .checkpoint name ∧ store.checkpoint? name = v := by
  cases c with
  | checkpoint other =>
    simp only [told?, Option.some.injEq, Notification.checkpointChanged.injEq, Change.checkpoint.injEq]
    exact and_congr_right fun he => by rw [he]
  | removed | schedule | added | configuration => simp [told?]

/-- Only a removal tells of a removal. -/
theorem told?_eq_removed : c.told? store = some (.removed name) ↔ c = .removed name := by
  cases c <;> simp [told?]

/-- Only an addition tells of one, with the stored configuration. -/
theorem told?_eq_added {config : ConnectorConfig} : c.told? store = some (.added name config) ↔
    c = .added name ∧ store.configuration? name = some config := by
  cases c with
  | added other =>
    simp only [told?, Option.map_eq_some_iff, Notification.added.injEq, Change.added.injEq]
    constructor
    · rintro ⟨_, hc, rfl, rfl⟩
      exact ⟨rfl, hc⟩
    · rintro ⟨rfl, hc⟩
      exact ⟨config, hc, rfl, rfl⟩
  | removed | schedule | checkpoint | configuration => simp [told?]

end Change

/-- A detection under way. -/
structure Inspection where
  /-- The listing that it goes by. -/
  listing : NameMap TaskStamps
  /-- The changes that are still to be read. -/
  left : List Change
  /-- What was read and is still to be told. -/
  held : Option Notification := none

/-- A process, and the detection that it has under way. -/
structure Inspector where
  site : Site
  inspection : Option Inspection := none

namespace Inspector

/-- Something that happens in a process, or to its clock. -/
inductive Event where
  /-- The detector goes on, or begins a detection. -/
  | proceed
  | act (a : Action)
  | setClock (clock : Clock)

/-- What the detector does next. A detection ends when nothing is left, and the listing becomes the
inventory, or when a request fails. -/
def proceed (y : Inspector) : Inspector :=
  match y.inspection with
  | none =>
    match y.site.backend.list with
    | (.error _, backend) => { site := { y.site with backend } }
    | (.ok listing, backend) =>
      { site := { y.site with backend }
        inspection := some
          { listing, left := Change.between y.site.scheduler.inventory.entries listing.entries } }
  | some ⟨listing, left, some n⟩ => ⟨(Site.hear n y.site).2, some { listing, left }⟩
  | some ⟨listing, [], none⟩ => { site := y.site.withInventory listing }
  | some ⟨listing, c :: left, none⟩ =>
    match c.read y.site.backend with
    | (.error _, backend) => { site := { y.site with backend } }
    | (.ok held, backend) => ⟨{ y.site with backend }, some { listing, left, held }⟩

/-- A process with its detection after one event. -/
def step (y : Inspector) : Event → Inspector
  | .proceed => y.proceed
  | .act a => { y with site := y.site.act a }
  | .setClock clock => { y with site := { y.site with clock } }

/-- A process with its detection after some events. -/
def run (y : Inspector) (events : List Event) : Inspector := events.foldl step y

/-- Whether an event may come now. Detections come by their steps, and administrative calls between
detections, at moments at which no batch is about to save a checkpoint. -/
def Allows (y : Inspector) : Event → Prop
  | .proceed | .setClock _ => True
  | .act a => a ≠ .detect ∧ (a.IsCall → y.inspection = none ∧ y.site.scheduler.Paused)

/-- Whether every event of a history may come when it does. -/
def Allowed (y : Inspector) : List Event → Prop
  | [] => True
  | e :: rest => y.Allows e ∧ (y.step e).Allowed rest

/-- What is left to be read. -/
def left (y : Inspector) : List Change := y.inspection.elim [] (·.left)

/-- What was read and is still to be told. -/
def held? (y : Inspector) : Option Notification := y.inspection.bind (·.held)

/-- The listing that the next changes are told from. -/
def latest (y : Inspector) : NameMap TaskStamps :=
  y.inspection.elim y.site.scheduler.inventory (·.listing)

variable {y : Inspector} {events : List Event} {listing : NameMap TaskStamps} {left : List Change}

theorem run_append (y : Inspector) (before after : List Event) :
    y.run (before ++ after) = (y.run before).run after := List.foldl_append

theorem run_concat (y : Inspector) (events : List Event) (e : Event) :
    y.run (events ++ [e]) = (y.run events).step e := run_append y events [e]

/-- Events are allowed if the first of them are, and the others after them. -/
theorem allowed_append {before after : List Event} :
    y.Allowed (before ++ after) ↔ y.Allowed before ∧ (y.run before).Allowed after := by
  induction before generalizing y with
  | nil => exact ⟨fun h => ⟨trivial, h⟩, fun h => h.2⟩
  | cons e rest ih => exact (and_congr_right fun _ => ih).trans and_assoc.symm

/-! ## The four kinds of steps -/

/-- A detection begins with the listing. -/
theorem proceed_listing (s : Site) : proceed ⟨s, none⟩ = match s.backend.list with
    | (.error _, backend) => ⟨{ s with backend }, none⟩
    | (.ok listing, backend) => ⟨{ s with backend },
        some ⟨listing, Change.between s.scheduler.inventory.entries listing.entries, none⟩⟩ := rfl

/-- What was read is told. -/
theorem proceed_telling (s : Site) (listing : NameMap TaskStamps) (left : List Change)
    (n : Notification) :
    proceed ⟨s, some ⟨listing, left, some n⟩⟩ = ⟨(Site.hear n s).2, some ⟨listing, left, none⟩⟩ := rfl

/-- A detection ends when nothing is left. -/
theorem proceed_done (s : Site) (listing : NameMap TaskStamps) :
    proceed ⟨s, some ⟨listing, [], none⟩⟩ = ⟨s.withInventory listing, none⟩ := rfl

/-- Otherwise the next change is read. -/
theorem proceed_reading (s : Site) (listing : NameMap TaskStamps) (c : Change) (left : List Change) :
    proceed ⟨s, some ⟨listing, c :: left, none⟩⟩ = match c.read s.backend with
      | (.error _, backend) => ⟨{ s with backend }, none⟩
      | (.ok held, backend) => ⟨{ s with backend }, some ⟨listing, left, held⟩⟩ := rfl

/-- What is held is told next. -/
theorem proceed_of_held {n : Notification} (h : y.held? = some n) :
    y.proceed.site = (Site.hear n y.site).2 := by
  obtain ⟨s, _ | ⟨listing, left, held⟩⟩ := y
  · cases h
  · obtain rfl : held = some n := h
    rfl

/-! ## Steps one right after the other -/

theorem run_replicate_succ (y : Inspector) (n : Nat) : y.run (List.replicate (n + 1) .proceed) =
    y.proceed.run (List.replicate n .proceed) := rfl

/-- The steps of a detection under way, one right after the other, tell what there is left to tell. -/
theorem run_walk (listing : NameMap TaskStamps) (left : List Change) (summary : ChangeSummary)
    {s : Site} (hr : s.scheduler.Registered) :
    ∃ n, (Inspector.mk s (some { listing, left })).run (List.replicate n .proceed) =
      let r := Detector.tell (Site.listener s.clock) left summary s.scheduler s.backend
      let t : Site := { s with scheduler := r.2.1, backend := r.2.2 }
      ⟨if r.1.toOption.isSome then t.withInventory listing else t, none⟩ := by
  induction left generalizing s summary with
  | nil => exact ⟨1, rfl⟩
  | cons c left ih =>
    -- the reading comes before the steps of the rest, and the telling if there is something to tell
    have hstep := proceed_reading s listing c left
    rcases hread : c.read s.backend with ⟨e | held, backend⟩ <;> rw [hread] at hstep
    · refine ⟨1, ?_⟩
      rw [run_replicate_succ, hstep]
      simp only [Detector.tell, hread]
      rfl
    · cases held with
      | none =>
        obtain ⟨n, hn⟩ := ih summary (s := { s with backend }) hr
        refine ⟨n + 1, ?_⟩
        rw [run_replicate_succ, hstep]
        simp only [Detector.tell, hread]
        exact hn
      | some told =>
        obtain ⟨hedits, hclock⟩ := Site.hear_read hr hread
        obtain ⟨n, hn⟩ := ih (summary.count told) (hedits.registered hr)
        refine ⟨n + 2, ?_⟩
        rw [run_replicate_succ, hstep, run_replicate_succ, proceed_telling]
        simp only [Detector.tell, hread, Site.listener]
        rw [hclock] at hn
        refine hn.trans ?_
        rw [Inspector.mk.injEq]
        refine ⟨?_, rfl⟩
        simp only [Site.withInventory, Site.withScheduler]

/-- The steps of a detection, one right after the other, are the detection. -/
theorem run_proceeds {s : Site} (hr : s.scheduler.Registered) :
    ∃ n, (Inspector.mk s none).run (List.replicate n .proceed) = ⟨s.detect.2, none⟩ := by
  have hstep := proceed_listing s
  rcases hlist : s.backend.list with ⟨e | listing, backend⟩ <;> rw [hlist] at hstep
  · refine ⟨1, ?_⟩
    rw [run_replicate_succ, hstep]
    simp only [Site.detect, Detector.detect, hlist]
    rfl
  · obtain ⟨n, hn⟩ := run_walk listing
      (Change.between s.scheduler.inventory.entries listing.entries) {} (s := { s with backend }) hr
    refine ⟨n + 1, ?_⟩
    rw [run_replicate_succ, hstep, hn]
    simp only [Site.detect, Detector.detect, hlist]
    -- a detection that fails leaves the inventory as it was, and so does whatever is told
    have hinv := Site.Chores.inventory (Site.tell_edits
      (Change.between s.scheduler.inventory.entries listing.entries) {} { s with backend } hr).chores hr
    dsimp only at hinv ⊢
    generalize Detector.tell (Site.listener s.clock)
      (Change.between s.scheduler.inventory.entries listing.entries) {} s.scheduler backend = told
      at hinv ⊢
    obtain ⟨_ | total, q, b⟩ := told
    · dsimp only at hinv ⊢
      rw [← hinv]
      rfl
    · rfl

/-! ## What is told was read -/

/-- A step after which the value of a checkpoint is held has read it. -/
theorem read_of_held {name : String} {v : Option String}
    (h : y.proceed.held? = some (.checkpointChanged name v)) :
    y.site.backend.store.checkpoint? name = v := by
  obtain ⟨s, _ | ⟨listing, left, n | n⟩⟩ := y
  · rw [proceed_listing] at h
    split at h <;> cases h
  · cases left with
    | nil => cases h
    | cons c left =>
      rw [proceed_reading] at h
      split at h
      · cases h
      · next held backend hread =>
        exact (Change.told?_eq_checkpointChanged.1 ((Change.read_eq_ok hread).1.symm.trans h)).2
  · cases h

/-- The value of a checkpoint that is about to be told was read by the last step of the detection, and no
administrative call has come since. -/
theorem held_read {s : Site} {name : String} {v : Option String}
    (hev : (Inspector.mk s none).Allowed events)
    (h : ((Inspector.mk s none).run events).held? = some (.checkpointChanged name v)) :
    ∃ before after, events = before ++ .proceed :: after ∧
      (∀ e ∈ after, e ≠ .proceed ∧ ∀ a, e = .act a → ¬ a.IsCall) ∧
      ((Inspector.mk s none).run before).site.backend.store.checkpoint? name = v := by
  induction events using List.reverseRecOn with
  | nil => cases h
  | append_singleton events e ih =>
    obtain ⟨hev, hnow, -⟩ := allowed_append.1 hev
    rw [run_concat] at h
    -- an event that is no step of the detection leaves what is held
    have hlater (hheld : ((Inspector.mk s none).run events).held? = some (.checkpointChanged name v))
        (hother : e ≠ .proceed ∧ ∀ a, e = .act a → ¬ a.IsCall) : ∃ before after,
        events ++ [e] = before ++ .proceed :: after ∧
          (∀ e ∈ after, e ≠ .proceed ∧ ∀ a, e = .act a → ¬ a.IsCall) ∧
          ((Inspector.mk s none).run before).site.backend.store.checkpoint? name = v := by
      obtain ⟨before, after, rfl, hafter, hread⟩ := ih hev hheld
      refine ⟨before, after ++ [e], by simp, fun e' he' => ?_, hread⟩
      rcases List.mem_append.1 he' with he' | he'
      · exact hafter e' he'
      · exact List.mem_singleton.1 he' ▸ hother
    cases e with
    | proceed => exact ⟨events, [], rfl, fun _ he => (nomatch he), read_of_held h⟩
    | act a =>
      refine hlater h ⟨nofun, fun a' he hcall => ?_⟩
      cases he
      have hnone := (hnow.2 hcall).1
      rw [held?, step, hnone] at h
      cases h
    | setClock clock => exact hlater h ⟨nofun, nofun⟩

end Inspector

end BatchTraversal
