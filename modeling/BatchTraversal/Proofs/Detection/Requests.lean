import BatchTraversal.Proofs.Detection.Announcements

/-!
# Detections while others write

A detection makes one request to the store after the other: it lists the store, and then reads the value of
every change that the listing shows. Others may write between any two of these requests. `Patrol` is a
detector at such a moment, and `Patrol.run` a history of its requests and the others' edits. As long as
nobody else writes, the requests of one detection do what `Detector.detect` does (`Patrol.run_requests`).
-/

namespace BatchTraversal

/-- A detection under way. -/
structure Round where
  /-- The store at the moment at which it was listed. -/
  listed : Store
  /-- The changes that are still to be read and told. -/
  left : List Change
  deriving DecidableEq

/-- A notification, with the store that the detection which sent it had listed. -/
structure Report where
  notification : Notification
  listed : Store

/-- A change detector on a store that others write to, before its next request. -/
structure Patrol (σ : Type) where
  backend : Backend
  inventory : NameMap TaskStamps := .empty
  /-- The detection under way, if there is one. -/
  round : Option Round := none
  reports : List Report := []
  listener : σ

/-- Whether a listener does not make the store fail. -/
def Detector.Harmless {σ : Type} (hear : Listener σ) : Prop :=
  ∀ n s b, b.Reliable → (hear n s b).2.2.Reliable

namespace Patrol

variable {σ : Type}

/-- Something that happens to the store or to the detector. -/
inductive Event where
  /-- Another client writes. -/
  | edit (edit : Store.Edit)
  /-- The detector goes on, or begins a detection. -/
  | request
  deriving DecidableEq

/-- The next request of the detector, and what it tells the listener because of the answer. A detection
begins with the listing. It ends when all changes are read, and the listing becomes the inventory, or when
a request fails. -/
def request (hear : Detector.Listener σ) (p : Patrol σ) : Patrol σ :=
  match p.round with
  | none =>
    match p.backend.list with
    | (.error _, b) => { p with backend := b }
    | (.ok listing, b) =>
      let round := ⟨p.backend.store, Change.between p.inventory.entries listing.entries⟩
      { p with backend := b, round := some round }
  | some ⟨listed, []⟩ => { p with inventory := listed.list, round := none }
  | some ⟨listed, c :: left⟩ =>
    match c.read p.backend with
    | (.error _, b) => { p with backend := b, round := none }
    | (.ok none, b) => { p with backend := b, round := some ⟨listed, left⟩ }
    | (.ok (some n), b) =>
      let (_, listener, b) := hear n p.listener b
      { p with
        backend := b
        round := some ⟨listed, left⟩
        reports := p.reports ++ [⟨n, listed⟩]
        listener }

/-- A patrol after a request of its own or an edit by somebody else. -/
def step (hear : Detector.Listener σ) (p : Patrol σ) : Event → Patrol σ
  | .edit e => { p with backend := { p.backend with store := e.apply p.backend.store } }
  | .request => p.request hear

/-- A patrol after some events. -/
def run (hear : Detector.Listener σ) (p : Patrol σ) (events : List Event) : Patrol σ :=
  events.foldl (step hear) p

/-- Whether nothing was listed or told yet. -/
structure Fresh (p : Patrol σ) : Prop where
  inventory : p.inventory = .empty
  round : p.round = none
  reports : p.reports = []

/-- What the listener was told. -/
def told (p : Patrol σ) : List Notification := p.reports.map (·.notification)

/-- The detector and the store, without regard to a detection under way. -/
def watch (p : Patrol σ) : Watch σ where
  backend := p.backend
  inventory := p.inventory
  told := p.told
  listener := p.listener

/-- What is left of the detection under way. -/
def left (p : Patrol σ) : List Change := p.round.elim [] (·.left)

/-- A detector that has just been made, over an empty store. -/
def started : Patrol Unit := { backend := {}, listener := () }

theorem harmless_idle : Detector.Harmless Watch.idle := fun _ _ _ => id

theorem fresh_started : started.Fresh := ⟨rfl, rfl, rfl⟩

variable {hear : Detector.Listener σ} {p : Patrol σ} {events : List Event} {listed : Store}

/-- In a round, what is left of it is left. -/
theorem left_of_round {left : List Change} (hp : p.round = some ⟨listed, left⟩) :
    p.left = left := by
  rw [Patrol.left, hp]
  rfl

/-- Between two rounds nothing is left. -/
theorem left_of_rest (hp : p.round = none) : p.left = [] := by
  rw [Patrol.left, hp]
  rfl

theorem run_append (hear : Detector.Listener σ) (p : Patrol σ) (events later : List Event) :
    p.run hear (events ++ later) = (p.run hear events).run hear later := List.foldl_append

theorem run_replicate_succ (hear : Detector.Listener σ) (p : Patrol σ) (n : Nat) :
    p.run hear (List.replicate (n + 1) .request) =
      (p.request hear).run hear (List.replicate n .request) := rfl

/-! ## The three kinds of requests -/

/-- A detection begins with the listing. -/
theorem request_listing (hear : Detector.Listener σ) (hp : p.round = none) : p.request hear =
    match p.backend.list with
    | (.error _, b) => { p with backend := b }
    | (.ok listing, b) => { p with
        backend := b
        round := some ⟨p.backend.store, Change.between p.inventory.entries listing.entries⟩ } := by
  rw [request, hp]

/-- A detection ends when nothing is left. -/
theorem request_done (hear : Detector.Listener σ) (hp : p.round = some ⟨listed, []⟩) :
    p.request hear = { p with inventory := listed.list, round := none } := by
  rw [request, hp]

/-- In between, the next change is read and told. -/
theorem request_reading (hear : Detector.Listener σ) {c : Change} {left : List Change}
    (hp : p.round = some ⟨listed, c :: left⟩) : p.request hear = match c.read p.backend with
      | (.error _, b) => { p with backend := b, round := none }
      | (.ok none, b) => { p with backend := b, round := some ⟨listed, left⟩ }
      | (.ok (some n), b) =>
        { p with
          backend := (hear n p.listener b).2.2
          round := some ⟨listed, left⟩
          reports := p.reports ++ [⟨n, listed⟩]
          listener := (hear n p.listener b).2.1 } := by
  rw [request, hp]

/-! ## Requests one right after the other -/

/-- The requests of a detection under way, one right after the other, tell what there is left to tell. -/
theorem run_walk (hear : Detector.Listener σ) (listed : Store) (left : List Change)
    (summary : ChangeSummary) (p : Patrol σ) (hp : p.round = some ⟨listed, left⟩) :
    ∃ n, let q := p.run hear (List.replicate n .request)
      let r := Detector.tell (Detector.noting hear) left summary (p.told, p.listener) p.backend
      q.round = none ∧ q.backend = r.2.2 ∧ q.told = r.2.1.1 ∧ q.listener = r.2.1.2 ∧
        q.inventory = if r.1.toOption.isSome then listed.list else p.inventory := by
  induction left generalizing summary p with
  | nil =>
    refine ⟨1, ?_⟩
    rw [run_replicate_succ, request_done hear hp]
    exact ⟨rfl, rfl, rfl, rfl, rfl⟩
  | cons c left ih =>
    -- one more request comes before those of the rest, and it is the last one if it fails
    have hstep := request_reading hear hp
    rcases hread : c.read p.backend with ⟨e | n, b⟩
    · rw [hread] at hstep
      refine ⟨1, ?_⟩
      rw [run_replicate_succ, hstep]
      simp only [Detector.tell, hread]
      exact ⟨rfl, rfl, rfl, rfl, rfl⟩
    · cases n with
      | none =>
        rw [hread] at hstep
        obtain ⟨n, hn⟩ := ih summary (p.request hear) (by rw [hstep])
        refine ⟨n + 1, ?_⟩
        rw [run_replicate_succ]
        simp only [Detector.tell, hread]
        rw [hstep] at hn ⊢
        exact hn
      | some n =>
        rw [hread] at hstep
        obtain ⟨k, hk⟩ := ih (summary.count n) (p.request hear) (by rw [hstep])
        refine ⟨k + 1, ?_⟩
        rw [run_replicate_succ]
        simp only [Detector.tell, hread, Detector.noting]
        have htold : (p.request hear).told = p.told ++ [n] := by
          rw [hstep]
          exact List.map_append
        rw [htold] at hk
        rw [hstep] at hk ⊢
        exact hk

end Patrol

/-- A detection whose listing is answered tells the differences, and takes the listing over unless a read
fails. -/
theorem Detector.detect_of_listing {σ : Type} {hear : Listener σ} {inventory : NameMap TaskStamps} {s : σ}
    {b b' : Backend} {listing : NameMap TaskStamps} (h : b.list = (.ok listing, b')) :
    detect hear inventory s b =
      let r := tell hear (Change.between inventory.entries listing.entries) {} s b'
      (r.1, if r.1.toOption.isSome then listing else inventory, r.2) := by
  simp only [detect, h]
  split <;> next he => rw [he]; rfl

namespace Patrol

variable {σ : Type} {hear : Detector.Listener σ} {p : Patrol σ}

/-- Requests one right after the other, from the listing on, do what a detection does. -/
theorem run_requests (hear : Detector.Listener σ) (hp : p.round = none) :
    ∃ n, let q := p.run hear (List.replicate (n + 1) .request)
      q.round = none ∧ q.watch = { (p.watch.detect hear).2 with failed := false } := by
  have hstep := request_listing hear hp
  have hwatch : p.watch.backend.list = p.backend.list := rfl
  rcases hl : p.backend.list with ⟨e | listing, b⟩ <;> rw [hl] at hstep hwatch
  · refine ⟨0, ?_⟩
    rw [run_replicate_succ, hstep]
    refine ⟨hp, ?_⟩
    simp only [Watch.detect, Detector.detect, hwatch]
    rfl
  · obtain ⟨rfl, -⟩ := Backend.call_eq_ok hl
    obtain ⟨n, hround, hbackend, htold, hlistener, hinventory⟩ :=
      run_walk hear p.backend.store _ {} (p.request hear) (by rw [hstep])
    refine ⟨n, hround, ?_⟩
    rw [run_replicate_succ, watch, hbackend, htold, hlistener, hinventory, hstep, Watch.detect,
      Detector.detect_of_listing hwatch]
    rfl

/-! ## The requests of a reliable store -/

/-- What a request of a store that does not fail leads to. -/
inductive Proceeds (hear : Detector.Listener σ) (p q : Patrol σ) : Prop where
  /-- The store is listed. -/
  | listing (hp : p.round = none) (hstore : q.backend.store = p.backend.store)
      (hinv : q.inventory = p.inventory) (hreports : q.reports = p.reports)
      (hround : q.round = some ⟨p.backend.store,
        Change.between p.inventory.entries p.backend.store.list.entries⟩)
  /-- The listing becomes the inventory. -/
  | done {listed : Store} (hp : p.round = some ⟨listed, []⟩)
      (hstore : q.backend.store = p.backend.store) (hinv : q.inventory = listed.list)
      (hreports : q.reports = p.reports) (hround : q.round = none)
  /-- The next change is read, and told if there is something to tell. -/
  | reading {listed : Store} {c : Change} {left : List Change}
      (hp : p.round = some ⟨listed, c :: left⟩)
      (hstore : q.backend.store = p.backend.store ∨ ∃ n b, b.store = p.backend.store ∧
        q.backend.store = (hear n p.listener b).2.2.store)
      (hinv : q.inventory = p.inventory)
      (hreports : q.reports =
        p.reports ++ ((c.told? p.backend.store).map (Report.mk · listed)).toList)
      (hround : q.round = some ⟨listed, left⟩)

/-- A request lists the store, tells the next change or ends the round, and lets the store work. -/
theorem request_proceeds (hh : Detector.Harmless hear) (hb : p.backend.Reliable) :
    (p.request hear).backend.Reliable ∧ p.Proceeds hear (p.request hear) := by
  rcases hround : p.round with _ | ⟨listed, _ | ⟨c, left⟩⟩
  · have hlist : p.backend.list = (.ok p.backend.store.list, p.backend.used .listTasks) :=
      hb.call .listTasks (·.list) id
    rw [request_listing hear hround, hlist]
    exact ⟨hb.used .listTasks, .listing hround rfl rfl rfl rfl⟩
  · rw [request_done hear hround]
    exact ⟨hb, .done hround rfl rfl rfl rfl⟩
  · obtain ⟨hval, hrel, hstore⟩ := c.read_reliable hb
    rw [request_reading hear hround]
    rcases hread : c.read p.backend with ⟨result, b⟩
    rw [hread] at hval hrel hstore
    obtain rfl : result = .ok (c.told? p.backend.store) := hval
    cases htold : c.told? p.backend.store with
    | none =>
      refine ⟨hrel, .reading hround (.inl hstore) rfl ?_ rfl⟩
      rw [htold]
      exact (List.append_nil _).symm
    | some n =>
      refine ⟨hh n p.listener b hrel, .reading hround (.inr ⟨n, b, hstore, rfl⟩) rfl ?_ rfl⟩
      rw [htold]
      rfl

/-- A store that works goes on working along a run. -/
theorem run_reliable (hh : Detector.Harmless hear) (hb : p.backend.Reliable) (events : List Event) :
    (p.run hear events).backend.Reliable := by
  induction events generalizing p with
  | nil => exact hb
  | cons e rest ih =>
    cases e with
    | edit e => exact ih (p := p.step hear (.edit e)) hb
    | request => exact ih (p := p.step hear .request) (request_proceeds hh hb).1

/-- Whether the listing that a detector goes by is that of a store: of a detection under way, or the
inventory that the last one has left. -/
def GoesBy (p : Patrol σ) (st : Store) : Prop :=
  p.round = none ∧ p.inventory = st.list ∨ ∃ left, p.round = some ⟨st, left⟩

variable {st : Store}

/-- Between two rounds a patrol goes by its inventory. -/
theorem GoesBy.inventory_eq (h : p.GoesBy st) (hp : p.round = none) : p.inventory = st.list := by
  rcases h with ⟨-, hinv⟩ | ⟨left, hround⟩
  · exact hinv
  · rw [hp] at hround
    cases hround

/-- In a round a patrol goes by its listing. -/
theorem GoesBy.store_eq (h : p.GoesBy st) {left : List Change} (hp : p.round = some ⟨listed, left⟩) :
    st = listed := by
  rcases h with ⟨hnone, -⟩ | ⟨left, hsome⟩
  · rw [hp] at hnone
    cases hnone
  · rw [hp] at hsome
    cases hsome
    rfl

end Patrol

end BatchTraversal
