import BatchTraversal.Proofs.Detection.Agreement
import Mathlib.Data.List.Infix

/-!
# What the listener of a detector has been told

A listener that keeps to the additions and removals it is told of knows a set of names
(`Notification.announced`). After a detection that succeeds these should be the names of its listing. A
detection that fails has told some of the changes already and leaves the inventory as it was, so that the
next one looks for the differences to the old listing. That finds the rest as long as the store stays as
it is, but not if what was told has been undone by then. `Watch.InStep` is the exact condition
(`Watch.announced_iff`), it holds as long as the store is not written between a detection that fails and
the next one that does not, and `Watch.announced_stays_wrong` shows how it comes to fail.
-/

namespace BatchTraversal

/-! ## Announced names -/

namespace Notification

/-- The known names after a notification. -/
def mark (known : NameMap Unit) : Notification → NameMap Unit
  | added name _ => known.insert name ()
  | removed name => known.erase name
  | checkpointChanged .. | configurationChanged .. | scheduleChanged .. => known

/-- The names that were added and have not been removed since. -/
def announced (told : List Notification) : NameMap Unit := told.foldl mark .empty

theorem announced_append (told l : List Notification) :
    announced (told ++ l) = l.foldl mark (announced told) := List.foldl_append

/-- Whether a name is known after some notifications depends on those about it. -/
theorem find?_foldl_mark (l : List Notification) (name : String) {m m' : NameMap Unit}
    (h : m.find? name = m'.find? name) : (l.foldl mark m).find? name =
      ((l.filter fun n => n.name = name).foldl mark m').find? name := by
  induction l generalizing m m' with
  | nil => exact h
  | cons n rest ih =>
    rw [List.foldl_cons, List.filter_cons]
    by_cases hn : n.name = name
    · rw [if_pos (decide_eq_true hn), List.foldl_cons]
      refine ih ?_
      cases n with
      | added other config => simp only [mark, NameMap.find?_insert, h]
      | removed other => simp only [mark, NameMap.find?_erase, h]
      | checkpointChanged | configurationChanged | scheduleChanged => exact h
    · rw [if_neg (by simpa using hn)]
      refine ih (Eq.trans ?_ h)
      cases n with
      | added other config => exact NameMap.find?_insert_of_ne m () (Ne.symm hn)
      | removed other => exact (m.find?_erase other name).trans (if_neg (Ne.symm hn))
      | checkpointChanged | configurationChanged | scheduleChanged => rfl

/-- Notifications of neither an addition nor a removal leave the known names. -/
theorem foldl_mark_eq {l : List Notification} {m : NameMap Unit}
    (h : ∀ n ∈ l, ∀ m, mark m n = m) : l.foldl mark m = m := by
  induction l with
  | nil => rfl
  | cons n rest ih =>
    rw [List.foldl_cons, h n List.mem_cons_self]
    exact ih fun n' hn' => h n' (List.mem_cons_of_mem n hn')

end Notification

namespace Change

/-- A facet that differs is no addition and no removal. -/
theorem mark_of_facets {store : Store} {name : String} {before after : TaskStamps} {c : Change}
    (hc : c ∈ facets name before after) {n : Notification} (hn : c.told? store = some n)
    (m : NameMap Unit) : n.mark m = m := by
  simp only [facets, List.mem_append] at hc
  rcases hc with (hc | hc) | hc <;> split at hc
  all_goals first
    | exact absurd hc List.not_mem_nil
    | rw [List.mem_singleton.1 hc] at hn
  · cases hn
    rfl
  · obtain ⟨config, -, rfl⟩ := Option.map_eq_some_iff.1 hn
    rfl
  · cases hn
    rfl

/-- The notifications about a name are those of the changes about it. -/
theorem filter_told (store : Store) (l : List Change) (name : String) :
    (l.filterMap (told? store)).filter (fun n => n.name = name) =
      (l.filter fun c => c.name = name).filterMap (told? store) := by
  rw [List.filter_filterMap, List.filterMap_filter]
  refine congrFun (congrArg List.filterMap (funext fun c => ?_)) l
  cases hn : c.told? store with
  | none => simp
  | some n =>
    rw [← name_told? hn]
    by_cases he : n.name = name <;> simp [he]

/-- Whatever part of the differences between two listings is told, a name that both of them have, or
neither, stays known or unknown. -/
theorem find?_mark_part {store : Store} {inventory : NameMap TaskStamps} {l : List Notification}
    (hl : l ⊆ (between inventory.entries store.list.entries).filterMap (told? store)) {name : String}
    (hsame : (inventory.find? name).isSome = (store.list.find? name).isSome) (known : NameMap Unit) :
    (l.foldl Notification.mark known).find? name = known.find? name := by
  rw [Notification.find?_foldl_mark l name rfl]
  refine congrArg (NameMap.find? · name) (Notification.foldl_mark_eq fun n hn m => ?_)
  obtain ⟨hn, hname⟩ := List.mem_filter.1 hn
  obtain ⟨c, hc, hcn⟩ := List.mem_filterMap.1 (hl hn)
  -- it tells a difference between the two entries of the name
  have habout := mem_about hc
  rw [← name_told? hcn, of_decide_eq_true hname] at habout
  cases hi : inventory.find? name <;> cases hs : store.list.find? name <;> rw [hi, hs] at habout hsame
  · cases habout
  · cases hsame
  · cases hsame
  · exact mark_of_facets habout hcn m

/-- What the walk through two listings tells makes the names of the present listing known that the last
one does not have, takes those away that only the last one has, and leaves the others. -/
theorem find?_mark_between (store : Store) (inventory : NameMap TaskStamps) (known : NameMap Unit)
    (name : String) :
    (((between inventory.entries store.list.entries).filterMap (told? store)).foldl
        Notification.mark known).find? name =
      match inventory.find? name, store.list.find? name with
      | some _, none => none
      | none, some _ => some ()
      | _, _ => known.find? name := by
  have hall := List.Subset.refl ((between inventory.entries store.list.entries).filterMap (told? store))
  have habout : (((between inventory.entries store.list.entries).filterMap (told? store)).foldl
      Notification.mark known).find? name =
        (((about name (inventory.find? name) (store.list.find? name)).filterMap (told? store)).foldl
          Notification.mark known).find? name := by
    rw [Notification.find?_foldl_mark _ name rfl, filter_told,
      between_about inventory.ascending store.list.ascending]
    rfl
  cases hi : inventory.find? name <;> cases hl : store.list.find? name
  · exact find?_mark_part hall (by rw [hi, hl]) known
  · -- what is listed has a configuration
    obtain ⟨hconfig, -⟩ := Store.find?_list_eq_some.1 hl
    obtain ⟨config, hc⟩ := Option.isSome_iff_exists.1 hconfig
    simp [habout, hi, hl, about, told?, hc, Notification.mark]
  · simp [habout, hi, hl, about, told?, Notification.mark]
  · exact find?_mark_part hall (by rw [hi, hl]; rfl) known

/-- A change whose value can be read is told with the value that is stored. -/
theorem read_eq_ok {c : Change} {b b' : Backend} {n : Option Notification}
    (h : c.read b = (.ok n, b')) : n = c.told? b.store ∧ b'.store = b.store := by
  have hcall {α : Type} {m : StoreMethod} {g : Store → α} {f : α → Option Notification}
      (h : ((b.call m g id).1.map f, (b.call m g id).2) = (.ok n, b')) :
      n = f (g b.store) ∧ b'.store = b.store := by
    unfold Backend.call at h
    split at h
    · cases h
    · cases h
      exact ⟨rfl, rfl⟩
  cases c with
  | removed name =>
    cases h
    exact ⟨rfl, rfl⟩
  | added name => exact hcall (m := .readConfiguration) (g := (·.configuration? name)) h
  | configuration name => exact hcall (m := .readConfiguration) (g := (·.configuration? name)) h
  | checkpoint name => exact hcall (m := .readCheckpoint) (g := (·.checkpoint? name)) h
  | schedule name => exact hcall (m := .readSchedule) (g := (·.schedule? name)) h

end Change

/-! ## Listeners that take notes -/

namespace Detector

variable {σ : Type}

/-- A listener that takes down what it is told. -/
def noting (hear : Listener σ) : Listener (List Notification × σ) := fun n s b =>
  let (r, s', b) := hear n s.2 b
  (r, (s.1 ++ [n], s'), b)

/-- Whether a listener leaves the store as it is. -/
def Quiet (hear : Listener σ) : Prop := ∀ n s b, (hear n s b).2.2.store = b.store

variable {hear : Listener σ} {told : List Notification} {s : σ} {b : Backend}

/-- What is told is part of what there is to tell, and all of it unless a read fails. -/
theorem tell_noting (hq : Quiet hear) (changes : List Change) (summary : ChangeSummary)
    (told : List Notification) (s : σ) (b : Backend) :
    let r := tell (noting hear) changes summary (told, s) b
    r.2.2.store = b.store ∧ ∃ l, r.2.1.1 = told ++ l ∧ l <+: changes.filterMap (Change.told? b.store) ∧
      ∀ total, r.1 = .ok total → l = changes.filterMap (Change.told? b.store) := by
  induction changes generalizing summary told s b with
  | nil => exact ⟨rfl, [], (List.append_nil told).symm, List.prefix_rfl, fun _ _ => rfl⟩
  | cons c rest ih =>
    rcases hread : c.read b with ⟨e | n, b'⟩
    · simp only [tell, hread]
      refine ⟨?_, [], (List.append_nil told).symm, List.nil_prefix, fun _ h => by cases h⟩
      obtain ⟨m, hm | hm⟩ := (c.read_cases b).1 <;> rw [hread] at hm
      · exact (congrArg Backend.store hm : b'.store = (b.used m).store)
      · exact (congrArg Backend.store hm : b'.store = b.store)
    · obtain ⟨rfl, hstore⟩ := Change.read_eq_ok hread
      cases hn : c.told? b.store with
      | none =>
        rw [hn] at hread
        rw [List.filterMap_cons_none hn]
        simp only [tell, hread]
        obtain ⟨hsame, l, hl⟩ := ih summary told s b'
        rw [hstore] at hsame hl
        exact ⟨hsame, l, hl⟩
      | some n =>
        rw [hn] at hread
        rw [List.filterMap_cons_some hn]
        have hheard : (hear n s b').2.2.store = b.store := (hq n s b').trans hstore
        simp only [tell, hread]
        obtain ⟨hsame, l, hl, hpre, hall⟩ := ih (summary.count n) (told ++ [n]) (hear n s b').2.1
          (hear n s b').2.2
        rw [hheard] at hsame hpre hall
        refine ⟨hsame, n :: l, ?_, List.cons_prefix_cons.2 ⟨rfl, hpre⟩, fun total h => ?_⟩
        · exact hl.trans (List.append_assoc told [n] l)
        · rw [hall total h]

end Detector

/-! ## Watching a store -/

/-- A change detector with a listener that takes notes, and the store it watches. -/
structure Watch (σ : Type) where
  backend : Backend
  inventory : NameMap TaskStamps := .empty
  told : List Notification := []
  listener : σ
  /-- Whether the last detection failed. -/
  failed : Bool := false

namespace Watch

/-- Something that happens to a watched store or to the one who watches it. -/
inductive Event where
  | write (edit : Store → Store)
  /-- It is decided which of the next calls of a method fail. -/
  | fate (method : StoreMethod) (fate : List Bool)
  | detect

variable {σ : Type}

/-- One detection. -/
def detect (hear : Detector.Listener σ) (w : Watch σ) : Except Error ChangeSummary × Watch σ :=
  let (r, inventory, (told, listener), backend) :=
    Detector.detect (Detector.noting hear) w.inventory (w.told, w.listener) w.backend
  (r, { backend, inventory, told, listener, failed := r.toOption.isNone })

def step (hear : Detector.Listener σ) (w : Watch σ) : Event → Watch σ
  | .write edit => { w with backend := { w.backend with store := edit w.backend.store } }
  | .fate m fate => { w with backend := w.backend.withFaults m fate }
  | .detect => (w.detect hear).2

def run (hear : Detector.Listener σ) (w : Watch σ) (events : List Event) : Watch σ :=
  events.foldl (step hear) w

/-- Whether nothing was listed or told yet. -/
structure Fresh (w : Watch σ) : Prop where
  inventory : w.inventory = .empty
  told : w.told = []
  failed : w.failed = false

/-- Whether the announced names are those of the last listing. -/
def Synced (w : Watch σ) : Prop := (Notification.announced w.told).keys = w.inventory.keys

/-- Whether the announced names agree with the inventory where the next detection will not look: a name
that is listed as before was announced, and one that was announced is listed now or was before. -/
structure InStep (w : Watch σ) : Prop where
  present : ∀ name, (w.inventory.find? name).isSome → (w.backend.store.list.find? name).isSome →
    ((Notification.announced w.told).find? name).isSome
  absent : ∀ name, w.inventory.find? name = none → w.backend.store.list.find? name = none →
    (Notification.announced w.told).find? name = none

/-- Whether the store is only written while the last detection has not failed. -/
def Undisturbed (hear : Detector.Listener σ) : Watch σ → List Event → Prop
  | _, [] => True
  | w, .write edit :: rest => w.failed = false ∧ Undisturbed hear (w.step hear (.write edit)) rest
  | w, e :: rest => Undisturbed hear (w.step hear e) rest

variable {hear : Detector.Listener σ} {w : Watch σ}

/-- A detection leaves the store as it is and tells some of the differences between the inventory and the
listing. If it succeeds it has told them all, and the listing becomes the inventory. -/
theorem detect_cases (hq : Detector.Quiet hear) (w : Watch σ) :
    (w.detect hear).2.backend.store = w.backend.store ∧ ∃ l,
      (w.detect hear).2.told = w.told ++ l ∧
      l <+: (Change.between w.inventory.entries w.backend.store.list.entries).filterMap
        (Change.told? w.backend.store) ∧
      ((∃ e, (w.detect hear).1 = .error e) ∧ (w.detect hear).2.failed = true ∧
          (w.detect hear).2.inventory = w.inventory ∨
        (∃ total, (w.detect hear).1 = .ok total) ∧ (w.detect hear).2.failed = false ∧
          (w.detect hear).2.inventory = w.backend.store.list ∧
          l = (Change.between w.inventory.entries w.backend.store.list.entries).filterMap
            (Change.told? w.backend.store)) := by
  unfold detect
  rcases Detector.detect_cases (Detector.noting hear) w.inventory (w.told, w.listener) w.backend with
    ⟨e, -, he⟩ | ⟨-, r, ⟨t, s⟩, b, inventory, ht, he, hinv⟩ <;> rw [he]
  · exact ⟨rfl, [], (List.append_nil w.told).symm, List.nil_prefix, .inl ⟨⟨e, rfl⟩, rfl, rfl⟩⟩
  · have htell := Detector.tell_noting hq
      (Change.between w.inventory.entries w.backend.store.list.entries) {} w.told w.listener
      (w.backend.used .listTasks)
    rw [ht] at htell
    obtain ⟨hstore, l, htold, hpre, hall⟩ := htell
    refine ⟨hstore, l, htold, hpre, ?_⟩
    rcases hinv with ⟨⟨e, rfl⟩, rfl⟩ | ⟨⟨total, rfl⟩, rfl⟩
    · exact .inl ⟨⟨e, rfl⟩, rfl, rfl⟩
    · exact .inr ⟨⟨total, rfl⟩, rfl, rfl, hall total rfl⟩

/-- After a detection that succeeds, the announced names are the listed ones exactly if they agreed with
the inventory where it did not look. -/
theorem synced_detect_iff (hq : Detector.Quiet hear) {total : ChangeSummary}
    (h : (w.detect hear).1 = .ok total) : (w.detect hear).2.Synced ↔ w.InStep := by
  obtain ⟨-, l, htold, -, ⟨⟨e, he⟩, -⟩ | ⟨-, -, hinv, rfl⟩⟩ := detect_cases hq w
  · rw [h] at he
    cases he
  rw [Synced, NameMap.keys_eq_iff, hinv, htold, Notification.announced_append]
  have hname (name : String) := Change.find?_mark_between w.backend.store w.inventory
    (Notification.announced w.told) name
  simp only [hname]
  constructor
  · intro hsync
    refine ⟨fun name hi hl => ?_, fun name hi hl => ?_⟩ <;> have hk := hsync name
    · obtain ⟨before, hi⟩ := Option.isSome_iff_exists.1 hi
      obtain ⟨after, hl⟩ := Option.isSome_iff_exists.1 hl
      rw [hi, hl] at hk
      exact hk.2 rfl
    · rw [hi, hl] at hk
      exact Option.not_isSome_iff_eq_none.1 fun hsome => Bool.false_ne_true (hk.1 hsome)
  · intro hstep name
    have hpresent := hstep.present name
    have habsent := hstep.absent name
    cases hi : w.inventory.find? name <;> cases hl : w.backend.store.list.find? name <;>
      rw [hi, hl] at hpresent habsent
    · simp [habsent rfl rfl]
    · simp
    · simp
    · simp [hpresent rfl rfl]

/-- Whatever the store becomes, the announced names agree with the inventory if they are its names. -/
theorem inStep_of_synced (h : w.Synced) : w.InStep := by
  rw [Synced, NameMap.keys_eq_iff] at h
  refine ⟨fun name hi _ => (h name).2 hi, fun name hi _ => ?_⟩
  exact Option.not_isSome_iff_eq_none.1 fun hsome => by
    have hin := (h name).1 hsome
    rw [hi] at hin
    cases hin

/-- A detection that fails leaves the announced names in agreement with the inventory: what it told is
among the differences between the two listings. -/
theorem InStep.detect (h : w.InStep) (hq : Detector.Quiet hear)
    (hfail : (w.detect hear).2.failed = true) : (w.detect hear).2.InStep := by
  obtain ⟨hstore, l, htold, hpre, ⟨-, -, hinv⟩ | ⟨-, hok, -⟩⟩ := detect_cases hq w
  · have hname {name : String}
        (hsame : (w.inventory.find? name).isSome = (w.backend.store.list.find? name).isSome) :
        (Notification.announced (w.detect hear).2.told).find? name =
          (Notification.announced w.told).find? name := by
      rw [htold, Notification.announced_append]
      exact Change.find?_mark_part hpre.subset hsame _
    refine ⟨fun name hi hl => ?_, fun name hi hl => ?_⟩ <;> rw [hinv] at hi <;> rw [hstore] at hl
    · rw [hname (hi.trans hl.symm)]
      exact h.present name hi hl
    · rw [hname (by rw [hi, hl])]
      exact h.absent name hi hl
  · rw [hok] at hfail
    cases hfail

/-- What holds at every moment of a run in which the store is left alone while the last detection has
failed. -/
structure Steady (w : Watch σ) : Prop where
  inStep : w.InStep
  synced : w.failed = false → w.Synced

theorem Fresh.steady (h : w.Fresh) : w.Steady := by
  have hsync : w.Synced := by
    rw [Synced, h.told, h.inventory]
    rfl
  exact ⟨inStep_of_synced hsync, fun _ => hsync⟩

theorem Steady.detect (h : w.Steady) (hq : Detector.Quiet hear) : (w.detect hear).2.Steady := by
  obtain ⟨-, l, -, -, ⟨-, hfail, -⟩ | ⟨⟨total, hok⟩, -, -⟩⟩ := detect_cases hq w
  · refine ⟨h.inStep.detect hq hfail, fun hn => ?_⟩
    rw [hfail] at hn
    cases hn
  · have hsync := (synced_detect_iff hq hok).2 h.inStep
    exact ⟨inStep_of_synced hsync, fun _ => hsync⟩

theorem run_steady (hq : Detector.Quiet hear) (h : w.Steady) {events : List Event}
    (hcalm : w.Undisturbed hear events) : (w.run hear events).Steady := by
  induction events generalizing w with
  | nil => exact h
  | cons e rest ih =>
    cases e with
    | write edit =>
      have hsync := h.synced hcalm.1
      exact ih (w := w.step hear (.write edit)) ⟨inStep_of_synced hsync, fun _ => hsync⟩ hcalm.2
    | fate m fate =>
      exact ih (w := w.step hear (.fate m fate)) ⟨⟨h.inStep.present, h.inStep.absent⟩, h.synced⟩ hcalm
    | detect => exact ih (h.detect hq) hcalm

/-- Whatever is written to the store and whichever reads fail, a detection that succeeds takes its listing
over as the inventory, and its listener then knows exactly the listed names if and only if the names it
knew before agreed with the inventory where the detection did not look. They always do if the store was
never written between a detection that failed and the next one that did not. -/
theorem announced_iff (hq : Detector.Quiet hear) (hw : w.Fresh) (events : List Event)
    {total : ChangeSummary} (h : ((w.run hear events).detect hear).1 = .ok total) :
    let v := w.run hear events
    let names := (Notification.announced (v.detect hear).2.told).keys
    (v.detect hear).2.inventory = v.backend.store.list ∧
      (names = v.backend.store.list.keys ↔ v.InStep) ∧
      (w.Undisturbed hear events → names = v.backend.store.list.keys) := by
  obtain ⟨-, l, -, -, ⟨⟨e, he⟩, -⟩ | ⟨-, -, hinv, -⟩⟩ := detect_cases hq (w.run hear events)
  · rw [h] at he
    cases he
  have hiff := synced_detect_iff hq h
  rw [Synced, hinv] at hiff
  exact ⟨hinv, hiff, fun hcalm => hiff.2 (run_steady hq hw.steady hcalm).inStep⟩

/-- A listener that does nothing. -/
def idle : Detector.Listener Unit := fun _ s b => (.ok (), s, b)

/-- A detector that has just been made, over an empty store. -/
def started : Watch Unit := { backend := {}, listener := () }

theorem quiet_idle : Detector.Quiet idle := fun _ _ _ => rfl

theorem fresh_started : started.Fresh := ⟨rfl, rfl, rfl⟩

/-- A connector is added and found. Another one is added and the first one saves a checkpoint; the next
detection tells the addition and fails to read the checkpoint. -/
def interrupted : List Event :=
  [.write (·.storeConfiguration "b" { kind := "fs" }), .detect,
    .write (·.storeConfiguration "a" { kind := "fs" }), .write (·.storeCheckpoint "b" (some "1")),
    .fate .readCheckpoint [true], .detect]

/-- If nothing else is written, the next detection finds the rest. -/
theorem announced_interrupted : started.Undisturbed idle interrupted ∧
    (∃ total, ((started.run idle interrupted).detect idle).1 = .ok total) ∧
    (Notification.announced ((started.run idle interrupted).detect idle).2.told).keys = ["a", "b"] := by
  have hcalm : started.Undisturbed idle interrupted :=
    ⟨rfl, by decide +kernel, by decide +kernel, trivial⟩
  obtain ⟨total, hok⟩ : ∃ total, ((started.run idle interrupted).detect idle).1 = .ok total :=
    ⟨{ added := 1, changed := 1 }, by decide +kernel⟩
  refine ⟨hcalm, ⟨total, hok⟩, ?_⟩
  rw [(announced_iff quiet_idle fresh_started interrupted hok).2.2 hcalm]
  decide +kernel

/-- If the connector that was told of is removed by then, the next detection does not miss it, and the
listener goes on knowing it. -/
theorem announced_stays_wrong : ¬ ∀ (σ : Type) (hear : Detector.Listener σ) (w : Watch σ)
    (events : List Event) (total : ChangeSummary), Detector.Quiet hear → w.Fresh →
    ((w.run hear events).detect hear).1 = .ok total →
    (Notification.announced ((w.run hear events).detect hear).2.told).keys =
      (w.run hear events).backend.store.list.keys := by
  intro h
  have hkeys := h Unit idle started (interrupted ++ [.write (·.removeTask "a")])
    { changed := 1 } quiet_idle fresh_started (by decide +kernel)
  have hshown : (Notification.announced
      ((started.run idle (interrupted ++ [.write (·.removeTask "a")])).detect idle).2.told).keys =
      ["a", "b"] := by decide +kernel
  rw [hshown] at hkeys
  revert hkeys
  decide +kernel

end Watch

end BatchTraversal
