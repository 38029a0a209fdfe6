import BatchTraversal.Proofs.Detection.Listings
import BatchTraversal.Proofs.Process.Accounts
import Mathlib.Algebra.GroupWithZero.Nat
import Mathlib.Data.List.Basic

/-!
# The figures of a connector

The metrics have two writers. A batch whose result counts there has it recorded when it is delivered to the sink
of the scheduling loop (`Scheduler.sunk`), and a pass drops what is noted of connectors that are not registered.
`Metrics.Sums` says that what is noted of the batches of a connector is what some results come to. Recording one
more result adds it (`Metrics.Sums.record`), and a pass keeps the results of a registered connector and has
those of any other one begin anew (`Scheduler.sums_measure`), though it looks for connectors to drop in only one
of the maps: `Metrics.Sums` has a connector in all of them or in none. Nothing else touches them.
-/

namespace BatchTraversal

namespace Metrics

/-- The results of one connector among those of all. -/
def resultsOf (name : String) (deliveries : List (String × BatchResult)) : List BatchResult :=
  deliveries.filterMap fun d => if d.1 = name then some d.2 else none

/-- Records the results of some connectors. -/
def recordAll (m : Metrics) (deliveries : List (String × BatchResult)) : Metrics :=
  deliveries.foldl (fun m d => m.record d.1 d.2) m

/-- Whether what is noted of the batches of a connector is what some results come to, if there are any: how many
they are and how many items, by 64 bits, and the last of them. -/
structure Sums (m : Metrics) (name : String) (results : List BatchResult) : Prop where
  completed : m.completed.find? name =
    if results.isEmpty then none else some (results.length % Numeral.size64)
  items : m.items.find? name =
    if results.isEmpty then none else some ((results.map (·.count)).sum % Numeral.size64)
  average : (m.average.find? name).isSome = !results.isEmpty
  last : m.last.find? name = results.getLast?

/-- Whether something is noted of a connector besides its batches. -/
def Observes (m : Metrics) (name : String) : Prop :=
  (m.throughput.find? name).isSome ∨ (m.delayedUntil.find? name).isSome ∨ (m.hoursUntilOpen.find? name).isSome

variable {m m' : Metrics} {name other : String} {results : List BatchResult}

/-- Where nothing is noted, there are no results. -/
theorem sums_empty (name : String) : ({} : Metrics).Sums name [] := ⟨rfl, rfl, rfl, rfl⟩

/-- What the results come to is a matter of four maps. -/
theorem Sums.congr (h : m.Sums name results) (hc : m'.completed.find? name = m.completed.find? name)
    (hi : m'.items.find? name = m.items.find? name) (ha : m'.average.find? name = m.average.find? name)
    (hl : m'.last.find? name = m.last.find? name) : m'.Sums name results :=
  ⟨hc.trans h.completed, hi.trans h.items, ha ▸ h.average, hl.trans h.last⟩

/-- A result that is recorded is one more. -/
theorem Sums.record (h : m.Sums name results) (result : BatchResult) :
    (m.record name result).Sums name (results ++ [result]) := by
  have hnonempty : (results ++ [result]).isEmpty = false := by simp
  refine ⟨?_, ?_, ?_, ?_⟩
  · rw [Metrics.record, NameMap.find?_insert_self, h.completed, hnonempty, List.length_append]
    cases results with
    | nil => rfl
    | cons r rest => exact congrArg some (Nat.mod_add_mod _ _ 1)
  · rw [Metrics.record, NameMap.find?_insert_self, h.items, hnonempty, List.map_append, List.sum_append]
    cases results with
    | nil => simp
    | cons r rest => simp
  · rw [Metrics.record, NameMap.find?_insert_self, hnonempty]
    rfl
  · rw [Metrics.record, NameMap.find?_insert_self, List.getLast?_concat]

/-- A result of one connector is none of another one. -/
theorem Sums.record_of_ne (h : m.Sums name results) (hne : name ≠ other) (result : BatchResult) :
    (m.record other result).Sums name results :=
  h.congr (NameMap.find?_insert_of_ne _ _ hne) (NameMap.find?_insert_of_ne _ _ hne)
    (NameMap.find?_insert_of_ne _ _ hne) (NameMap.find?_insert_of_ne _ _ hne)

/-- Of several results that are recorded a connector has its own, in their order. -/
theorem Sums.recordAll (h : m.Sums name results) (deliveries : List (String × BatchResult)) :
    (m.recordAll deliveries).Sums name (results ++ resultsOf name deliveries) := by
  induction deliveries generalizing m results with
  | nil => exact (List.append_nil results).symm ▸ h
  | cons d rest ih =>
    by_cases hd : d.1 = name
    · have hrest := ih (h.record d.2)
      rw [List.append_assoc] at hrest
      simpa [resultsOf, hd, Metrics.recordAll] using hrest
    · have hrest := ih (h.record_of_ne (Ne.symm hd) d.2)
      simpa [resultsOf, hd, Metrics.recordAll] using hrest

/-- Nothing is left of a connector that is dropped, and everything of the others. -/
theorem Sums.forget (h : m.Sums name results) (other : String) :
    (m.forget other).Sums name (if name = other then [] else results) := by
  split
  · next he =>
    subst he
    exact ⟨NameMap.find?_erase_self .., NameMap.find?_erase_self .., by simp [Metrics.forget],
      NameMap.find?_erase_self ..⟩
  · next hne =>
    have hkept {α : Type} (l : NameMap α) : (l.erase other).find? name = l.find? name := by
      rw [NameMap.find?_erase, if_neg hne]
    exact h.congr (hkept _) (hkept _) (hkept _) (hkept _)

/-- Of several connectors that are dropped nothing is left, and everything of the others. -/
theorem Sums.forgetAll (h : m.Sums name results) (gone : List String) :
    (gone.foldl Metrics.forget m).Sums name (if name ∈ gone then [] else results) := by
  induction gone generalizing m results with
  | nil => exact h
  | cons other rest ih =>
    have hrest := ih (h.forget other)
    by_cases he : name = other <;> by_cases hm : name ∈ rest <;> simpa [he, hm] using hrest

/-- A connector of which some results are noted has an entry for them. -/
theorem Sums.mem_keys (h : m.Sums name results) (hne : results.isEmpty = false) : name ∈ m.completed.keys := by
  rw [NameMap.mem_keys_iff, h.completed, hne]
  rfl

/-- What is observed of a connector was observed before, or it is the connector that was looked at. -/
theorem Observes.of_observe {rate : Option Float} {stop : Option Instant} {hours : Option Nat}
    (h : (m.observe other rate stop hours).Observes name) : name = other ∨ m.Observes name := by
  by_cases he : name = other
  · exact .inl he
  · have hkept {α : Type} (l : NameMap α) (v : Option α) :
        (v.elim l (l.insert other)).find? name = l.find? name := by
      cases v with
      | none => rfl
      | some v => exact NameMap.find?_insert_of_ne l v he
    simp only [Observes, observe, hkept] at h
    exact .inr h

/-- Looking at some connectors leaves the results, and observes no others. -/
theorem foldl_observe {look : Metrics → String × CoordinatorId → Metrics}
    (hlook : ∀ m d, ∃ rate stop hours, look m d = m.observe d.1 rate stop hours)
    (known : List (String × CoordinatorId)) (m : Metrics) :
    ((known.foldl look m).completed = m.completed ∧ (known.foldl look m).items = m.items ∧
      (known.foldl look m).average = m.average ∧ (known.foldl look m).last = m.last) ∧
    ∀ name, (known.foldl look m).Observes name → name ∈ known.map (·.1) ∨ m.Observes name := by
  induction known generalizing m with
  | nil => exact ⟨⟨rfl, rfl, rfl, rfl⟩, fun _ => .inr⟩
  | cons d rest ih =>
    obtain ⟨rate, stop, hours, he⟩ := hlook m d
    have hrest := ih (m.observe d.1 rate stop hours)
    rw [List.foldl_cons, he]
    refine ⟨hrest.1, fun name h => ?_⟩
    rcases hrest.2 name h with hmem | hobserved
    · exact .inl (List.mem_cons_of_mem _ hmem)
    · rcases hobserved.of_observe with rfl | hm
      · exact .inl List.mem_cons_self
      · exact .inr hm

/-- Dropping a connector observes none. -/
theorem Observes.of_forget (h : (m.forget other).Observes name) : m.Observes name := by
  have hback {α : Type} {l : NameMap α} (hl : ((l.erase other).find? name).isSome) : (l.find? name).isSome := by
    rw [NameMap.find?_erase] at hl
    split at hl
    · cases hl
    · exact hl
  exact h.imp hback (Or.imp hback hback)

/-- Dropping several connectors observes none. -/
theorem Observes.of_forgetAll {gone : List String} (h : (gone.foldl forget m).Observes name) :
    m.Observes name := by
  induction gone generalizing m with
  | nil => exact h
  | cons other rest ih => exact (ih h).of_forget

/-- Nothing is noted of a connector of which there are no results and nothing else is observed. -/
theorem Sums.notMem_names (h : m.Sums name []) (hno : ¬ m.Observes name) : name ∉ m.names := by
  have haverage := h.average
  simp only [names, List.mem_append, NameMap.mem_keys_iff, h.completed, h.items, h.last, haverage]
  rintro ((((((h | h) | h) | h) | h) | h) | h)
  · cases h
  · cases h
  · cases h
  · cases h
  · exact hno (.inl h)
  · exact hno (.inr (.inl h))
  · exact hno (.inr (.inr h))

end Metrics

namespace Scheduler

variable {p : Scheduler} {name : String} {results : List BatchResult}

/-! ## A pass -/

/-- Taking the metrics looks at the known connectors and then drops those that have results and are not known. -/
theorem metrics_measure (p : Scheduler) (clock : Clock) (known : List (String × CoordinatorId)) (started : Nat) :
    ∃ m : Metrics, (m.completed = p.metrics.completed ∧ m.items = p.metrics.items ∧
        m.average = p.metrics.average ∧ m.last = p.metrics.last) ∧
      (∀ name, m.Observes name → name ∈ known.map (·.1)) ∧
      (p.measure clock known started).metrics =
        (m.completed.keys.filter fun name => !(known.map (·.1)).contains name).foldl Metrics.forget m := by
  have hcount (l : List CoordinatorId) : (p.countRunning clock.now l).2.metrics = p.metrics :=
    (Site.countRunning_visits l { scheduler := p, backend := {}, clock }).metrics
  unfold measure
  dsimp only
  rw [← hcount (known.map (·.2))]
  generalize (p.countRunning clock.now (known.map (·.2))).2 = q
  refine ⟨_, ?_, fun name h => ?_, rfl⟩
  · exact (Metrics.foldl_observe (fun m d => ⟨_, _, _, rfl⟩) known _).1
  · refine ((Metrics.foldl_observe (fun m d => ⟨_, _, _, rfl⟩) known _).2 name h).resolve_right ?_
    rintro (hnone | hnone | hnone) <;> cases hnone

/-- A pass over some connectors keeps the results of each of them, and those of any other one begin anew. -/
theorem sums_measure (h : p.metrics.Sums name results) (clock : Clock) (known : List (String × CoordinatorId))
    (started : Nat) : (p.measure clock known started).metrics.Sums name
      (if name ∈ known.map (·.1) then results else []) := by
  obtain ⟨m, ⟨hc, hi, ha, hl⟩, -, he⟩ := p.metrics_measure clock known started
  have hm : m.Sums name results :=
    h.congr (by rw [hc]) (by rw [hi]) (by rw [ha]) (by rw [hl])
  have hgone := hm.forgetAll (m.completed.keys.filter fun name => !(known.map (·.1)).contains name)
  rw [he]
  by_cases hknown : name ∈ known.map (·.1)
  · rw [if_neg (by simp [List.mem_filter, hknown])] at hgone
    rwa [if_pos hknown]
  · rw [if_neg hknown]
    cases hresults : results.isEmpty with
    | true =>
      rw [List.isEmpty_iff.1 hresults, ite_self] at hgone
      exact hgone
    | false =>
      have hmem : name ∈ m.completed.keys.filter fun name => !(known.map (·.1)).contains name := by
        rw [List.mem_filter]
        exact ⟨hm.mem_keys hresults, by simp [hknown]⟩
      rwa [if_pos hmem] at hgone

/-- After a pass over some connectors nothing is observed of any other one. -/
theorem observes_measure {clock : Clock} {known : List (String × CoordinatorId)} {started : Nat}
    (h : (p.measure clock known started).metrics.Observes name) : name ∈ known.map (·.1) := by
  obtain ⟨m, -, hobserves, he⟩ := p.metrics_measure clock known started
  rw [he] at h
  exact hobserves name h.of_forgetAll

/-- A process that has just started has no metrics. -/
theorem metrics_start (h : ∃ settings pool kinds, Scheduler.start settings pool kinds = .ok p) :
    p.metrics = {} := by
  obtain ⟨settings, pool, kinds, h⟩ := h
  rw [(start_eq_ok h).2]

/-! ## What goes to the sink -/

/-- Whether the result of a batch counts in the metrics. -/
def metered? (p : Scheduler) (t : TaskId) : Option Bool := (p.batch? t).map (·.metered)

/-- The result that an occurrence hands over to the sink of the scheduling loop, and its connector. -/
def sinkOf? (p : Scheduler) : Occurrence → Option (String × BatchResult)
  | .delivered t name result => if p.metered? t = some true then some (name, result) else none
  | _ => none

/-- The results that were delivered to the sink of the scheduling loop, each with its connector, in their order. -/
def sunk (p : Scheduler) : List (String × BatchResult) := p.journal.filterMap p.sinkOf?

/-- Whether an occurrence tells of a delivery, if it does, of a batch that there is. -/
def Knows (p : Scheduler) (o : Occurrence) : Prop :=
  ∀ t name result, o = .delivered t name result → (p.metered? t).isSome

/-- Whether in `q`, compared with `p`, what was delivered to the sink of the scheduling loop is some results
more. -/
structure Delivers (p q : Scheduler) (deliveries : List (String × BatchResult)) : Prop where
  metered? : ∀ t counts, p.metered? t = some counts → q.metered? t = some counts
  journal : ∃ l, q.journal = p.journal ++ l ∧ l.filterMap q.sinkOf? = deliveries ∧ ∀ o ∈ l, q.Knows o

variable {q r : Scheduler} {deliveries deliveries' : List (String × BatchResult)} {o : Occurrence}

/-- A delivery of a known batch counts later if it counts now. -/
theorem Knows.of_metered? (h : p.Knows o)
    (hq : ∀ t counts, p.metered? t = some counts → q.metered? t = some counts) :
    q.Knows o ∧ q.sinkOf? o = p.sinkOf? o := by
  constructor
  · intro t name result he
    obtain ⟨counts, hcounts⟩ := Option.isSome_iff_exists.1 (h t name result he)
    exact Option.isSome_iff_exists.2 ⟨counts, hq t counts hcounts⟩
  · cases o with
    | delivered t name result =>
      obtain ⟨counts, hcounts⟩ := Option.isSome_iff_exists.1 (h t name result rfl)
      rw [sinkOf?, sinkOf?, hcounts, hq t counts hcounts]
    | _ => rfl

/-- What known batches have delivered to the sink stays the same, whatever batches are added. -/
theorem filterMap_sinkOf? {l : List Occurrence} (h : ∀ o ∈ l, p.Knows o)
    (hq : ∀ t counts, p.metered? t = some counts → q.metered? t = some counts) :
    l.filterMap q.sinkOf? = l.filterMap p.sinkOf? :=
  List.filterMap_congr fun o ho => ((h o ho).of_metered? hq).2

theorem Delivers.refl (p : Scheduler) : p.Delivers p [] :=
  ⟨fun _ _ => id, [], (List.append_nil _).symm, rfl, fun _ ho => nomatch ho⟩

/-- Deliveries come one after the other. -/
theorem Delivers.trans (h : p.Delivers q deliveries) (h' : q.Delivers r deliveries') :
    p.Delivers r (deliveries ++ deliveries') := by
  obtain ⟨l, hj, hl, hknown⟩ := h.journal
  obtain ⟨l', hj', hl', hknown'⟩ := h'.journal
  refine ⟨fun t counts ht => h'.metered? t counts (h.metered? t counts ht), l ++ l', ?_, ?_, ?_⟩
  · rw [hj', hj, List.append_assoc]
  · rw [List.filterMap_append, filterMap_sinkOf? hknown h'.metered?, hl, hl']
  · rw [List.forall_mem_append]
    exact ⟨fun o ho => ((hknown o ho).of_metered? h'.metered?).1, hknown'⟩

/-- What is delivered is added to what was. -/
theorem Delivers.sunk (h : p.Delivers q deliveries) (hp : ∀ o ∈ p.journal, p.Knows o) :
    q.sunk = p.sunk ++ deliveries := by
  obtain ⟨l, hj, hl, -⟩ := h.journal
  rw [Scheduler.sunk, hj, List.filterMap_append, filterMap_sinkOf? hp h.metered?, hl]
  rfl

/-- Whatever is delivered, it is delivered by a batch that there is. -/
theorem Delivers.knows (h : p.Delivers q deliveries) (hp : ∀ o ∈ p.journal, p.Knows o) :
    ∀ o ∈ q.journal, q.Knows o := by
  obtain ⟨l, hj, -, hknown⟩ := h.journal
  rw [hj, List.forall_mem_append]
  exact ⟨fun o ho => ((hp o ho).of_metered? h.metered?).1, hknown⟩

/-- What enters no delivery into the journal delivers nothing. -/
theorem Delivers.of_quiet (hm : ∀ t counts, p.metered? t = some counts → q.metered? t = some counts)
    {l : List Occurrence} (hj : q.journal = p.journal ++ l)
    (hl : ∀ o ∈ l, ∀ t name result, o ≠ .delivered t name result) : p.Delivers q [] := by
  refine ⟨hm, l, hj, List.filterMap_eq_nil_iff.2 fun o ho => ?_, fun o ho t name result he => ?_⟩
  · cases o with
    | delivered t name result => exact absurd rfl (hl _ ho t name result)
    | _ => rfl
  · exact absurd he (hl o ho t name result)

/-- Whether a result counts is settled when the batch is submitted. -/
theorem metered?_of_batch? {t : TaskId} {b : Batch} (h : p.batch? t = some b) :
    p.metered? t = some b.metered := by
  rw [metered?, h]
  rfl

/-- A batch that has ended counts as before. -/
theorem metered?_finish {t : TaskId} (hq : q.pool = p.pool.finish t) (u : TaskId) :
    q.metered? u = p.metered? u := by
  rw [metered?, metered?, batch?, batch?, hq]
  exact congrArg _ (Pool.payload?_markDone p.pool t u)

/-- A batch whose run goes on counts as before. -/
theorem metered?_withStage {t : TaskId} {stage : RunStage} (hq : q.pool = (p.withStage t stage).pool)
    (u : TaskId) : q.metered? u = p.metered? u := by
  have hbatch : q.batch? u = (p.withStage t stage).batch? u := by rw [batch?, batch?, hq]
  rw [metered?, hbatch, batch?_withStage]
  split
  · exact Option.map_map ..
  · rfl

/-- Whether in `q`, compared with `p`, some results more were delivered to the sink of the scheduling loop, and the
metrics have recorded them and nothing else. -/
def Records (p q : Scheduler) : Prop :=
  ∃ deliveries, p.Delivers q deliveries ∧ q.metrics = p.metrics.recordAll deliveries

theorem Records.refl (p : Scheduler) : p.Records p := ⟨[], .refl p, rfl⟩

/-- The result of a batch that has ended is delivered, and recorded if it counts in the metrics. -/
theorem Records.of_delivery {t : TaskId} {b : Batch} {name : String} {count : Nat} {result : BatchResult}
    (hb : p.batch? t = some b) (hpool : q.pool = p.pool.finish t)
    (hj : q.journal = p.journal ++ [.folded t name count, .delivered t name result])
    (hm : q.metrics = if b.metered then p.metrics.record name result else p.metrics) : p.Records q := by
  have hmetered := metered?_finish hpool
  have hown : q.metered? t = some b.metered := (hmetered t).trans (metered?_of_batch? hb)
  have hsink : q.sinkOf? (.delivered t name result) = if b.metered then some (name, result) else none := by
    rw [sinkOf?, hown]
    cases b.metered <;> rfl
  refine ⟨if b.metered then [(name, result)] else [],
    ⟨fun u counts hu => (hmetered u).trans hu, _, hj, ?_, ?_⟩, ?_⟩
  · rw [List.filterMap_cons_none rfl, List.filterMap_cons, hsink]
    cases b.metered <;> rfl
  · intro o ho u name' result' he
    subst he
    obtain ⟨rfl, -, -⟩ : u = t ∧ name' = name ∧ result' = result := by simpa using ho
    rw [hown]
    rfl
  · rw [hm]
    cases b.metered <;> rfl

/-- What is recorded one after the other is recorded in that order. -/
theorem Records.trans (h : p.Records q) (h' : q.Records r) : p.Records r := by
  obtain ⟨deliveries, hd, hm⟩ := h
  obtain ⟨deliveries', hd', hm'⟩ := h'
  refine ⟨_, hd.trans hd', ?_⟩
  rw [hm', hm, Metrics.recordAll, Metrics.recordAll, Metrics.recordAll, List.foldl_append]

end Scheduler

namespace Site

open Scheduler

variable {s s' : Site} {t : TaskId}

/-- A chore delivers nothing. -/
theorem Chore.delivers (h : Chore s s') : s.scheduler.Delivers s'.scheduler [] := by
  obtain ⟨l, hj, hl⟩ := h.journal
  refine .of_quiet (fun u counts hu => ?_) hj fun o ho t name result he => ?_
  · rcases h.pool with hcurbs | ⟨b, t, hsubmit, -⟩
    · exact (congrArg (Option.map Batch.metered) (hcurbs.payload? u)).trans hu
    · obtain ⟨b', hb', -⟩ := Option.map_eq_some_iff.1 hu
      have hne : u ≠ t :=
        Nat.ne_of_lt ((Pool.submit_eq_some hsubmit).1 ▸ lt_of_order? (order?_of_batch? hb'))
      rw [metered?, batch?, Pool.payload?_submit hsubmit, if_neg hne]
      exact hu
  · rcases hl o ho with ⟨_, _, _, rfl⟩ | ⟨_, _, rfl⟩ <;> cases he

/-- Several chores deliver nothing. -/
theorem Chores.delivers (h : Chores s s') : s.scheduler.Delivers s'.scheduler [] := by
  induction h with
  | refl => exact .refl _
  | tail _ h ih => exact ih.trans h.delivers

/-- An edit leaves the metrics. -/
theorem Edit.metrics (h : Edit s s') : s'.scheduler.metrics = s.scheduler.metrics := by
  cases h with
  | amend a _ hk =>
    show (s.scheduler.interrupt _ a.apply).metrics = _
    rw [interrupt_eq hk]
    rfl
  | @detach c k _ hk hlive =>
    show (s.scheduler.detach k.name c).metrics = _
    rw [detach_eq hk hlive, interrupt_eq hk]
    rfl
  | enlist | look | storeConfiguration | storeSchedule | removeTask | clearCheckpoint => rfl

/-- Several edits leave the metrics. -/
theorem Edits.metrics (h : Edits s s') : s'.scheduler.metrics = s.scheduler.metrics := by
  induction h with
  | refl => rfl
  | tail _ h ih => exact h.metrics.trans ih

/-- A turn of a batch records the result that it delivers, if that counts in the metrics. -/
theorem Turn.records (h : Turn t s s') : s.scheduler.Records s'.scheduler := by
  have hquiet {q : Scheduler} (hm : ∀ u, q.metered? u = s.scheduler.metered? u) {l : List Occurrence}
      (hj : q.journal = s.scheduler.journal ++ l)
      (hl : ∀ o ∈ l, ∀ t name result, o ≠ .delivered t name result)
      (hmetrics : q.metrics = s.scheduler.metrics) : s.scheduler.Records q :=
    ⟨[], .of_quiet (fun u counts hu => (hm u).trans hu) hj hl, hmetrics⟩
  have hnone : ∀ o ∈ ([] : List Occurrence), ∀ t name result, o ≠ .delivered t name result :=
    fun _ ho => nomatch ho
  cases h with
  | take h =>
    obtain ⟨rest, -, rfl⟩ := Pool.take?_eq_some h
    exact hquiet (fun _ => rfl) (List.append_nil _).symm hnone rfl
  | move =>
    refine hquiet (metered?_withStage rfl) rfl (fun o ho t name result he => ?_) rfl
    obtain ⟨e, -, rfl⟩ := Option.map_eq_some_iff.1 (Option.mem_toList.1 ho)
    cases e <;> cases he
  | answer =>
    refine hquiet (metered?_withStage rfl) rfl (fun o ho t name result he => ?_) rfl
    cases (List.mem_singleton.1 ho).symm.trans he
  | crash | retire | choke =>
    exact hquiet (metered?_finish rfl) (List.append_nil _).symm hnone rfl
  | count =>
    refine hquiet (metered?_finish rfl) rfl (fun o ho t name result he => ?_) rfl
    cases (List.mem_singleton.1 ho).symm.trans he
  | @settle b k code hx hb =>
    rcases settleBatch_cases (s.counted t k (BatchResult.ofCode code).count) t b k (.ofCode code) with
      ⟨-, he⟩ | ⟨-, disabled, -, he⟩ <;> rw [he]
    · refine hquiet (metered?_finish rfl) rfl (fun o ho t name result he => ?_) rfl
      cases (List.mem_singleton.1 ho).symm.trans he
    · exact .of_delivery hb rfl (List.append_assoc ..) rfl

/-- Several turns of a batch record what they deliver, if that counts in the metrics. -/
theorem Turns.records (h : Turns t s s') : s.scheduler.Records s'.scheduler := by
  induction h with
  | refl => exact .refl _
  | tail _ h ih => exact ih.trans h.records

/-- Every action of a process but a pass records what it delivers, if that counts in the metrics, and nothing
else. -/
theorem act_records (hr : s.scheduler.Registered) {a : Action} (ha : ∀ order, a ≠ .pass order) :
    s.scheduler.Records (s.act a).scheduler := by
  have hkept {q : Scheduler} (hd : s.scheduler.Delivers q []) (hm : q.metrics = s.scheduler.metrics) :
      s.scheduler.Records q := ⟨[], hd, hm⟩
  have hcall (ha : a.IsCall) : s.scheduler.Records (s.act a).scheduler :=
    let hedits := call_edits hr ha
    hkept hedits.chores.delivers hedits.metrics
  have hvisits {s' : Site} (h : Visits s s') : s.scheduler.Records s'.scheduler :=
    hkept h.upkeeps.chores.delivers h.metrics
  have hworker {s' : Site} (h : s' = s ∨ ∃ t, Turns t s s') : s.scheduler.Records s'.scheduler := by
    rcases h with rfl | ⟨t, h⟩
    · exact .refl _
    · exact h.records
  cases a with
  | detect =>
    obtain ⟨s'', inventory, hedits, he⟩ := detect_edits hr
    rw [show s.act .detect = _ from he]
    have hd := hedits.chores.delivers
    exact hkept ⟨hd.metered?, hd.journal⟩ hedits.metrics
  | setConfig | setSchedule | remove | restart => exact hcall trivial
  | pass order => exact absurd rfl (ha order)
  | askPhase c => exact hvisits (phase_visits s c)
  | start c maxItems metered => exact hvisits (startBatch_visits s c maxItems metered)
  | tick d => exact hkept (s.upkeep_act (a := .tick d) trivial).chores.delivers rfl
  | scan => exact hkept (s.upkeep_act (a := .scan) trivial).chores.delivers rfl
  | revive w => exact hkept (s.upkeep_act (a := .revive w) trivial).chores.delivers rfl
  | shutDown interrupt => exact hkept (s.upkeep_act (a := .shutDown interrupt) trivial).chores.delivers rfl
  | fetch w => exact hworker (s.take_turns w)
  | take w => exact hworker (s.begin_turns w)
  | advance t => exact hworker (.inr ⟨t, s.advance_turns t⟩)
  | answer t x => exact hworker (.inr ⟨t, s.answer_turns t x⟩)
  | proceed t => exact hworker (.inr ⟨t, s.drive_turns t⟩)
  | conclude t x => exact hworker (.inr ⟨t, s.conclude_turns t x⟩)

/-- A pass delivers nothing. It keeps what is noted of the batches of a registered connector and has those of
any other one begin anew, and nothing is observed of a connector that is not registered. -/
theorem act_pass (s : Site) (order : List CoordinatorId) :
    s.scheduler.Delivers (s.act (.pass order)).scheduler [] ∧
    (∀ name results, s.scheduler.metrics.Sums name results → (s.act (.pass order)).scheduler.metrics.Sums name
      (if (s.scheduler.coordinator? name).isSome then results else [])) ∧
    (∀ name, (s.act (.pass order)).scheduler.metrics.Observes name →
      (s.scheduler.coordinator? name).isSome) ∧
    (s.act (.pass order)).scheduler.registry = s.scheduler.registry := by
  have hpass := pass_upkeep s order
  have hknown (name : String) : name ∈ s.scheduler.registry.entries.map (·.1) ↔
      (s.scheduler.coordinator? name).isSome := NameMap.mem_keys_iff
  refine ⟨hpass.chores.delivers, fun name results h => ?_, fun name h => ?_, hpass.registry⟩
  · have hsame : (s.scheduler.scheduleAll s.clock order).2.metrics = s.scheduler.metrics :=
      (scheduleAll_visits order s).metrics
    have hmeasure := Scheduler.sums_measure (hsame.symm ▸ h) s.clock s.scheduler.registry.entries
      (s.scheduler.scheduleAll s.clock order).1
    simp only [hknown] at hmeasure
    exact hmeasure
  · exact (hknown name).1 (observes_measure h)

/-- At the end of a pass something is noted of registered connectors only. -/
theorem names_pass (s : Site) (h : ∀ name, ∃ results, s.scheduler.metrics.Sums name results)
    (order : List CoordinatorId) :
    ∀ name ∈ (s.act (.pass order)).scheduler.metrics.names,
      name ∈ (s.act (.pass order)).scheduler.names := by
  intro name hname
  obtain ⟨-, hsums, hobserves, hregistry⟩ := s.act_pass order
  rw [Scheduler.names, hregistry, NameMap.mem_keys_iff]
  cases hreg : (s.scheduler.coordinator? name).isSome with
  | true => exact hreg
  | false =>
    obtain ⟨results, h⟩ := h name
    have hnone := hsums name results h
    rw [hreg] at hnone
    refine absurd hname (hnone.notMem_names fun hobserved => ?_)
    cases hreg.symm.trans (hobserves name hobserved)

end Site

end BatchTraversal
