import BatchTraversal.Proofs.Process.Enrolled
import BatchTraversal.Proofs.Process.Sources
import BatchTraversal.Proofs.Throttle.LoadAccount
import Mathlib.Algebra.GroupWithZero.Nat

/-!
# What is counted for a connector

The journal tells what was ever counted for a connector (`Scheduler.tally`), and with the throttle's entry
that makes its account (`Scheduler.account`). A chore counts nothing, and neither does a turn of a batch
unless it is the one by which the batch reports to a coordinator that is not removed (`Site.Turn.tally`).
What it counts then is no more than the batch was allowed, if the adapters hand over no more than they are
asked for (`Scheduler.Temperate`).
-/

namespace BatchTraversal

namespace Throttle

/-- The period of the throttle is the same for all hints. -/
theorem period_hint (t : Throttle) (name : String) (load : Nat) (now : Instant) :
    (t.hint name load now).2.period = t.period := by
  obtain ⟨e, he, -⟩ := t.hint_snd name load now
  rw [he]
  rfl

/-- The period of the throttle is the same after counting. -/
theorem period_fold (t : Throttle) (name : String) (count : Nat) (now : Instant) :
    (t.fold name count now).2.period = t.period := by
  obtain ⟨e, he, -⟩ := t.fold_snd name count now
  rw [he]
  rfl

/-- The period of the throttle is the same after the end of a batch. -/
theorem period_finish (t : Throttle) (name : String) (delay : Option Duration) (now : Instant) :
    (t.finish name delay now).2.period = t.period := by
  rw [finish_eq]
  rfl

end Throttle

/-- The documents that were counted for a connector. -/
def Occurrence.countOf? (name : String) : Occurrence → Option Nat
  | folded _ other count => if other = name then some count else none
  | _ => none

/-- The batch that called an adapter of a connector, and the items it asked for. -/
def Occurrence.askedOf? (name : String) : Occurrence → Option (TaskId × Nat)
  | called t other m _ => if other = name then some (t, m) else none
  | _ => none

/-- The batch that was handed a page, and the items of the page. -/
def Occurrence.handed? : Occurrence → Option (TaskId × Nat)
  | answered t _ (.page page) => some (t, page.count)
  | _ => none

/-- A call of an adapter tells how many items it asks for. -/
theorem Occurrence.askedOf?_eq_some {name : String} {o : Occurrence} {t : TaskId} {m : Nat} :
    o.askedOf? name = some (t, m) ↔ ∃ checkpoint, o = .called t name m checkpoint := by
  constructor
  · intro h
    unfold askedOf? at h
    split at h
    · split at h
      · next hname =>
        cases h
        exact ⟨_, by rw [hname]⟩
      · cases h
    · cases h
  · rintro ⟨checkpoint, rfl⟩
    exact if_pos rfl

/-- A page tells how many items it hands over. -/
theorem Occurrence.handed?_eq_some {o : Occurrence} {t : TaskId} {n : Nat} :
    o.handed? = some (t, n) ↔ ∃ name page, o = .answered t name (.page page) ∧ page.count = n := by
  constructor
  · intro h
    unfold handed? at h
    split at h
    · cases h
      exact ⟨_, _, rfl, rfl⟩
    · cases h
  · rintro ⟨name, page, rfl, rfl⟩
    rfl

/-- Whether a run with so many items, as far as it has any, stays within a bound. -/
def RunStage.Within (m : Nat) : RunStage → Prop
  | answered (.page page) => page.count ≤ m
  | saving count _ => count ≤ m
  | coded code => (BatchResult.ofCode code).count ≤ m
  | _ => True

/-- A code stands for no more items than it was made for. -/
theorem BatchResult.count_ofCode_le (n : Nat) : (BatchResult.ofCode (countCode n)).count ≤ n := by
  unfold BatchResult.ofCode
  split
  · next hpos =>
    unfold countCode Numeral.asSigned64 Numeral.size64 Int.bmod at hpos ⊢
    dsimp only at hpos ⊢
    omega
  · split <;> exact Nat.zero_le _

/-- A run that goes on stays within its bound. -/
theorem RunStage.Within.advance {m : Nat} {stage : RunStage} (h : stage.Within m) (token : TokenId)
    (tripped : Bool) (w : Workbench) : (stage.advance token tripped w).1.Within m := by
  have hcount {n : Nat} (hn : n ≤ m) : (BatchResult.ofCode (countCode n)).count ≤ m :=
    Nat.le_trans (BatchResult.count_ofCode_le n) hn
  have hadvances := stage.advances token tripped w
  generalize stage.advance token tripped w = a at hadvances ⊢
  cases hadvances with
  | withdraw | misread | poll | fail | missave => exact Nat.zero_le m
  | enter | read | call => trivial
  | count | save => exact hcount h
  | keep | stay => exact h

namespace Scheduler

variable {p q r : Scheduler} {c d : CoordinatorId} {k l : Coordinator} {t u : TaskId} {name : String}

/-! ## What lasts -/

/-- Whether every coordinator of `p` has in `q` the name it had, and is removed if it was, and nothing in
the journal is lost. -/
structure Lasts (p q : Scheduler) : Prop where
  coordinators : ∀ (c : CoordinatorId) (k : Coordinator), p.coordinators[c]? = some k →
    ∃ k', q.coordinators[c]? = some k' ∧ k'.name = k.name ∧ (k.removed → k'.removed)
  journal : p.journal ⊆ q.journal
  period : q.throttle.period = p.throttle.period

theorem Lasts.refl (p : Scheduler) : p.Lasts p := ⟨fun _ k hk => ⟨k, hk, rfl, id⟩, fun _ => id, rfl⟩

theorem Lasts.trans (h : p.Lasts q) (h' : q.Lasts r) : p.Lasts r := by
  refine ⟨fun c k hk => ?_, fun _ ho => h'.journal (h.journal ho), h'.period.trans h.period⟩
  obtain ⟨k', hk', hname, hremoved⟩ := h.coordinators c k hk
  obtain ⟨k'', hk'', hname', hremoved'⟩ := h'.coordinators c k' hk'
  exact ⟨k'', hk'', hname'.trans hname, fun hr => hremoved' (hremoved hr)⟩

/-- A process with the same coordinators lasts, as long as its journal only grows. -/
theorem Lasts.of_same (hc : q.coordinators = p.coordinators) (hj : p.journal ⊆ q.journal)
    (hp : q.throttle.period = p.throttle.period) : p.Lasts q :=
  ⟨fun _ k hk => ⟨k, hc ▸ hk, rfl, id⟩, hj, hp⟩

/-- A coordinator that is changed lasts if it keeps its name and does not come back. -/
theorem Lasts.modify {f : Coordinator → Coordinator}
    (hc : q.coordinators = p.coordinators.modify c f)
    (hf : ∀ k, p.coordinators[c]? = some k → (f k).name = k.name ∧ (k.removed → (f k).removed))
    (hj : p.journal ⊆ q.journal) (hp : q.throttle.period = p.throttle.period) : p.Lasts q := by
  refine ⟨fun d k hk => ?_, hj, hp⟩
  have hget := getElem?_modifyCoordinator p c d f
  rw [modifyCoordinator] at hget
  rw [hc, hget, hk]
  split
  · next hcd => exact ⟨f k, rfl, hf k (hcd ▸ hk)⟩
  · exact ⟨k, rfl, rfl, id⟩

/-- Whether a coordinator, as soon as it is there, has a name and is not removed. -/
def Stands (p : Scheduler) (c : CoordinatorId) (name : String) : Prop :=
  ∀ k, p.coordinators[c]? = some k → k.name = name ∧ k.removed = false

/-- A coordinator that still stands has stood before. -/
theorem Lasts.stands (h : p.Lasts q) (hq : q.Stands c name) : p.Stands c name := by
  intro k hk
  obtain ⟨k', hk', hname, hremoved⟩ := h.coordinators c k hk
  obtain ⟨hname', hlive⟩ := hq k' hk'
  refine ⟨hname.symm.trans hname', ?_⟩
  cases hr : k.removed with
  | false => rfl
  | true => exact (hremoved hr).symm.trans hlive

/-- A coordinator that stands is the only one of its name that is not removed. -/
theorem Enrolled.eq_of_stands (h : p.Enrolled) (hs : p.Stands c name)
    (hk : p.coordinators[c]? = some k) (hl : p.coordinators[d]? = some l) (hname : l.name = name)
    (hlive : l.removed = false) : d = c := by
  obtain ⟨hkname, hklive⟩ := hs k hk
  have hreg := h.registered d l hl hlive
  rw [hname, ← hkname, h.registered c k hk hklive] at hreg
  exact (Option.some.inj hreg).symm

/-! ## Tallies and accounts -/

/-- The documents ever counted for a connector. -/
def tally (p : Scheduler) (name : String) : Nat := (p.journal.filterMap (·.countOf? name)).sum

/-- The load account of a connector. -/
def account (p : Scheduler) (name : String) : LoadAccount := p.throttle.account name (p.tally name)

/-- What is new in the journal adds what it counts. -/
theorem tally_append (name : String) {new : List Occurrence} (hj : q.journal = p.journal ++ new) :
    q.tally name = p.tally name + (new.filterMap (·.countOf? name)).sum := by
  rw [tally, hj, List.filterMap_append, List.sum_append]
  rfl

/-- What is new in the journal may count nothing. -/
theorem tally_of_uncounted {new : List Occurrence} (hj : q.journal = p.journal ++ new)
    (hnew : ∀ o ∈ new, o.countOf? name = none) : q.tally name = p.tally name := by
  rw [tally_append name hj, List.filterMap_eq_nil_iff.2 hnew]
  rfl

/-- The account of a connector is its entry and its tally. -/
theorem account_congr (ht : q.throttle = p.throttle) (hn : q.tally name = p.tally name) :
    q.account name = p.account name := by
  rw [account, account, ht, hn]

/-- What is used grows by no more than the tally does. -/
theorem used_le_of_nexts {period : Duration} {now : Instant}
    (h : LoadAccount.Nexts period now (p.account name) (q.account name)) :
    q.throttle.used name + p.tally name ≤ p.throttle.used name + q.tally name := h.used_le

/-! ## What a batch may count -/

/-- The coordinator a batch was submitted for, and the most items it may have. -/
def share? (p : Scheduler) (t : TaskId) : Option (CoordinatorId × Nat) :=
  (p.batch? t).map fun b => (b.coordinator, b.maxItems)

/-- A batch has the share of the load that it was submitted with. -/
theorem share?_of_batch? {b : Batch} (h : p.batch? t = some b) :
    p.share? t = some (b.coordinator, b.maxItems) := by
  rw [share?, h]
  rfl

/-- Whether the adapters of a connector have handed over no more than they were asked for. -/
def Modest (p : Scheduler) (name : String) : Prop :=
  ∀ t other m checkpoint page, .called t name m checkpoint ∈ p.journal →
    .answered t other (.page page) ∈ p.journal → page.count ≤ m

/-- Modesty is a matter of the calls and the pages in the journal, in which finitely many pairs are compared. -/
theorem modest_iff : p.Modest name ↔ ∀ x ∈ p.journal.filterMap (·.askedOf? name),
    ∀ y ∈ p.journal.filterMap (·.handed?), y.1 = x.1 → y.2 ≤ x.2 := by
  refine ⟨fun h x hx y hy => ?_, fun h t other m checkpoint page hc ha => ?_⟩
  · obtain ⟨_, hc, hasked⟩ := List.mem_filterMap.1 hx
    obtain ⟨_, ha, hhanded⟩ := List.mem_filterMap.1 hy
    obtain ⟨checkpoint, rfl⟩ := Occurrence.askedOf?_eq_some.1 hasked
    obtain ⟨other, page, rfl, hcount⟩ := Occurrence.handed?_eq_some.1 hhanded
    intro ht
    rw [ht] at ha
    exact hcount ▸ h _ _ _ _ _ hc ha
  · exact h (t, m) (List.mem_filterMap.2 ⟨_, hc, Occurrence.askedOf?_eq_some.2 ⟨_, rfl⟩⟩)
      (t, page.count) (List.mem_filterMap.2 ⟨_, ha, rfl⟩) rfl

instance : Decidable (p.Modest name) := decidable_of_iff' _ modest_iff

/-- Adapters that are modest in the end have been modest all the time. -/
theorem Lasts.modest (h : p.Lasts q) (hq : q.Modest name) : p.Modest name :=
  fun t other m checkpoint page hc ha => hq t other m checkpoint page (h.journal hc) (h.journal ha)

/-- Whether every batch of a coordinator has at most the items it was asked for. -/
structure Temperate (p : Scheduler) (c : CoordinatorId) (name : String) : Prop where
  within : ∀ t b, p.batch? t = some b → b.coordinator = c → b.stage.Within b.maxItems
  called : ∀ t b checkpoint, p.batch? t = some b → b.coordinator = c → b.stage = .calling checkpoint →
    .called t name b.maxItems checkpoint ∈ p.journal

/-- A process that has just started has no batches. -/
theorem temperate_start (h : ∃ settings pool kinds, Scheduler.start settings pool kinds = .ok p) :
    p.Temperate c name := by
  have hnone (t : TaskId) : p.batch? t = none := Option.map_eq_none_iff.1 ((journal_start h).2 t)
  refine ⟨fun t b hb => ?_, fun t b checkpoint hb => ?_⟩ <;>
  · rw [hnone] at hb
    cases hb

/-- Batches stay temperate if each was there before, at the same stage, or has not begun. -/
theorem Temperate.of_batches (h : p.Temperate c name) (hj : p.journal ⊆ q.journal)
    (hb : ∀ t b, q.batch? t = some b → p.batch? t = some b ∨ b.stage = .entering) :
    q.Temperate c name := by
  refine ⟨fun t b hq hc => ?_, fun t b checkpoint hq hc hst => ?_⟩
  · rcases hb t b hq with hp | hen
    · exact h.within t b hp hc
    · rw [hen]
      trivial
  · rcases hb t b hq with hp | hen
    · exact hj (h.called t b checkpoint hp hc hst)
    · rw [hen] at hst
      cases hst

/-- Batches stay temperate if one of them goes on to a stage within its bound. -/
theorem Temperate.of_stage (h : p.Temperate c name) {stage : RunStage} (hj : p.journal ⊆ q.journal)
    (hq : q.pool = (p.withStage t stage).pool)
    (hw : ∀ b, p.batch? t = some b → b.coordinator = c → stage.Within b.maxItems)
    (hcall : ∀ b checkpoint, p.batch? t = some b → b.coordinator = c → stage = .calling checkpoint →
      .called t name b.maxItems checkpoint ∈ q.journal) : q.Temperate c name := by
  have hbatch (u : TaskId) : q.batch? u =
      if t = u then (p.batch? u).map fun b => { b with stage } else p.batch? u := by
    rw [batch?, hq]
    exact batch?_withStage p t u stage
  refine ⟨fun u b hu hc => ?_, fun u b checkpoint hu hc hst => ?_⟩ <;> rw [hbatch] at hu <;>
    split at hu
  · next htu =>
    subst htu
    obtain ⟨b, hb, rfl⟩ := Option.map_eq_some_iff.1 hu
    exact hw b hb hc
  · exact h.within u b hu hc
  · next htu =>
    subst htu
    obtain ⟨b, hb, rfl⟩ := Option.map_eq_some_iff.1 hu
    exact hcall b checkpoint hb hc hst
  · exact hj (h.called u b checkpoint hu hc hst)

/-- A batch runs on a traverser that was made for the name of its coordinator. -/
theorem Sourced.connector (h : p.Sourced) (hs : p.Stands c name) {b : Batch} {x : Traverser}
    (hb : p.batch? t = some b) (hc : b.coordinator = c) (hx : p.traversers[b.traverser]? = some x) :
    x.connector = name := by
  obtain ⟨k, config, hk, hsource⟩ := h.posted t _ _ (post?_of_batch? hb)
  rw [source?, hx, Option.map_some, Option.some.injEq] at hsource
  exact (congrArg Prod.fst hsource).trans (hs k (hc ▸ hk)).1

end Scheduler

namespace Site

open Scheduler LoadAccount

variable {s s' : Site} {t u : TaskId} {c : CoordinatorId} {name : String}

/-! ## Chores -/

/-- Upkeep forgets nothing of the coordinators, the journal and the period. -/
theorem Upkeep.lasts (h : Upkeep s s') : s.scheduler.Lasts s'.scheduler := by
  refine ⟨fun c k hk => ?_, ?_, ?_⟩
  · obtain ⟨k', hk', hb⟩ := h.coordinator hk
    have hname : k'.bare.name = k.bare.name := congrArg Coordinator.name hb
    have hremoved : k'.bare.removed = k.bare.removed := congrArg Coordinator.removed hb
    exact ⟨k', hk', hname, fun hr => hremoved.trans hr⟩
  · obtain ⟨new, hj, -⟩ := h.journal
    exact hj ▸ List.subset_append_left ..
  · cases h with
    | measure | curb => rfl
    | giveUp | backOff => exact Throttle.period_finish ..
    | hint => exact Throttle.period_hint ..
    | @equip c k _ _ hnone =>
      rcases s.scheduler.traverserFor_cases c hnone with ⟨e, he⟩ | ⟨_, _, -, -, he⟩ <;> rw [he] <;> rfl
    | @submit c k r maxItems metered =>
      rcases s.scheduler.submit_cases c k r maxItems metered with he | ⟨t, pool, -, he⟩ <;> rw [he] <;>
        rfl

/-- A chore may remove a coordinator, and forgets nothing else. -/
theorem Chore.lasts (h : Chore s s') : s.scheduler.Lasts s'.scheduler := by
  cases h with
  | upkeep h => exact h.lasts
  | edit h =>
    cases h with
    | @amend c k a _ hk =>
      show s.scheduler.Lasts (s.scheduler.interrupt c a.apply)
      rw [interrupt_eq hk]
      refine .modify (c := c) (f := .interrupted a.apply) rfl (fun l _ => ?_) (fun _ => id) rfl
      obtain ⟨hname, hremoved⟩ := a.apply_name_removed l
      exact ⟨hname, fun hr => hremoved.trans hr⟩
    | enlist => exact ⟨fun c k hk => ⟨k, getElem?_enlist hk, rfl, id⟩, fun _ => id, rfl⟩
    | @detach c k _ hk hlive =>
      show s.scheduler.Lasts (s.scheduler.detach k.name c)
      rw [detach_eq hk hlive, interrupt_eq hk]
      exact .modify rfl (fun _ _ => ⟨rfl, fun _ => rfl⟩) (fun _ => id) rfl
    | look | storeConfiguration | storeSchedule | removeTask => exact .refl s.scheduler
    | @clearCheckpoint c k hk =>
      refine .modify (c := c) rfl (fun l hl => ?_) (fun _ => id) rfl
      cases hk.symm.trans hl
      exact ⟨CheckpointCell.connector_write _ _ _, id⟩

/-- No chore counts items. -/
theorem Chore.tally (h : Chore s s') (name : String) :
    s'.scheduler.tally name = s.scheduler.tally name := by
  obtain ⟨new, hj, hnew⟩ := h.journal
  refine tally_of_uncounted hj fun o ho => ?_
  rcases hnew o ho with ⟨_, _, _, rfl⟩ | ⟨_, _, rfl⟩ <;> rfl

/-- A step of upkeep takes an account one step further: a hint may begin a period, and nothing is used. -/
theorem Upkeep.account (h : Upkeep s s') (name : String) :
    Nexts s.scheduler.throttle.period s.now (s.scheduler.account name) (s'.scheduler.account name) := by
  have htally := (Chore.upkeep h).tally name
  have hsame (ht : s'.scheduler.throttle = s.scheduler.throttle) :
      Nexts s.scheduler.throttle.period s.now (s.scheduler.account name)
        (s'.scheduler.account name) := by
    rw [account_congr ht htally]
  cases h with
  | measure | curb => exact hsame rfl
  | giveUp | backOff => exact Throttle.nexts_finish ..
  | hint => exact Throttle.nexts_hint ..
  | @equip c k _ _ hnone =>
    refine hsame ?_
    rcases s.scheduler.traverserFor_cases c hnone with ⟨e, he⟩ | ⟨_, _, -, -, he⟩ <;> rw [he] <;> rfl
  | @submit c k r maxItems metered =>
    refine hsame ?_
    rcases s.scheduler.submit_cases c k r maxItems metered with he | ⟨t, pool, -, he⟩ <;> rw [he] <;>
      rfl

/-- A chore counts nothing for a connector, or it removes the coordinator of the connector and nothing is
kept of what was counted. -/
theorem Chore.account (h : Chore s s') (name : String) :
    Nexts s.scheduler.throttle.period s.now (s.scheduler.account name) (s'.scheduler.account name) ∨
      s'.scheduler.throttle.used name = 0 ∧ ∃ c k, s.scheduler.coordinator? name = some c ∧
        s'.scheduler.coordinators[c]? = some k ∧ k.removed := by
  have htally := h.tally name
  have hsame (ht : s'.scheduler.throttle.entries.find? name = s.scheduler.throttle.entries.find? name) :
      Nexts s.scheduler.throttle.period s.now (s.scheduler.account name)
        (s'.scheduler.account name) := by
    rw [Scheduler.account, Scheduler.account, htally, Throttle.account_congr ht]
  cases h with
  | upkeep h => exact .inl (h.account name)
  | edit h =>
    cases h with
    | @amend c k a _ hk =>
      refine .inl (hsame ?_)
      show (s.scheduler.interrupt c a.apply).throttle.entries.find? name = _
      rw [interrupt_eq hk]
      rfl
    | enlist | look | storeConfiguration | storeSchedule | removeTask | clearCheckpoint =>
      exact .inl (hsame rfl)
    | @detach c k hreg hk hlive =>
      have he : (s.withScheduler (s.scheduler.detach k.name c)).scheduler.throttle =
          s.scheduler.throttle.remove k.name :=
        congrArg Scheduler.throttle (detach_eq hk hlive)
      rw [he] at hsame ⊢
      by_cases hname : name = k.name
      · subst hname
        have hgone : (s.scheduler.detach k.name c).coordinators[c]? = some (k.interrupted fun k =>
            { k with removed := true, config := none, schedule := none, traverser := none }) := by
          rw [detach_eq hk hlive]
          exact getElem?_interrupt_self hk _
        refine .inr ⟨?_, c, _, hreg, hgone, rfl⟩
        rw [Throttle.used, Throttle.remove, NameMap.find?_erase_self]
        rfl
      · refine .inl (hsame ?_)
        rw [Throttle.remove, NameMap.find?_erase, if_neg hname]

/-- A chore uses nothing of the load. It may begin a new period, or drop the entry. -/
theorem Chore.used_le (h : Chore s s') (name : String) :
    s'.scheduler.throttle.used name ≤ s.scheduler.throttle.used name := by
  rcases h.account name with hn | ⟨hzero, -⟩
  · have hle := used_le_of_nexts hn
    rw [h.tally name] at hle
    omega
  · exact hzero ▸ Nat.zero_le _

/-- A chore leaves the batches with the items they were asked for. -/
theorem Chore.temperate (h : Chore s s') (ht : s.scheduler.Temperate c name) :
    s'.scheduler.Temperate c name := by
  refine ht.of_batches h.lasts.journal fun t b hb => ?_
  rcases h.pool with hp | ⟨new, u, hs, hen⟩
  · exact .inl ((hp.payload? t).symm.trans hb)
  · rw [batch?, Pool.payload?_submit hs] at hb
    split at hb
    · cases hb
      exact .inr hen
    · exact .inl hb

/-! ## Turns -/

/-- A turn of a batch leaves every coordinator with its name, and adds to the journal. -/
theorem Turn.lasts (h : Turn t s s') : s.scheduler.Lasts s'.scheduler := by
  refine ⟨fun c k hk => ?_, h.relays.journal, ?_⟩
  · obtain ⟨k', hk', -, hremoved⟩ := h.alike.coordinator hk
    obtain ⟨l, hl, hname⟩ := h.relays.names c k hk
    cases hk'.symm.trans hl
    exact ⟨k', hk', hname, fun hr => hremoved.trans hr⟩
  · cases h with
    | take | move | answer | crash | retire => rfl
    | choke | count => exact Throttle.period_fold ..
    | @settle b k code =>
      rcases settleBatch_cases (s.counted t k (BatchResult.ofCode code).count) t b k (.ofCode code) with
        ⟨-, he⟩ | ⟨-, disabled, -, he⟩ <;> rw [he]
      all_goals exact (Throttle.period_finish ..).trans (Throttle.period_fold ..)

/-- A turn takes no time. -/
theorem Turn.clock (h : Turn t s s') : s'.clock = s.clock := by
  cases h with
  | @settle b k code =>
    rcases settleBatch_cases (s.counted t k (BatchResult.ofCode code).count) t b k (.ofCode code) with
      ⟨-, he⟩ | ⟨-, disabled, -, he⟩ <;> rw [he] <;> rfl
  | _ => rfl

/-- Several turns take no time. -/
theorem Turns.clock (h : Turns t s s') : s'.clock = s.clock := by
  induction h with
  | refl => rfl
  | tail _ h ih => exact h.clock.trans ih

/-- A batch registers no coordinator and removes none. -/
theorem Turn.registry (h : Turn t s s') : s'.scheduler.registry = s.scheduler.registry := by
  cases h with
  | @settle b k code =>
    rcases settleBatch_cases (s.counted t k (BatchResult.ofCode code).count) t b k (.ofCode code) with
      ⟨-, he⟩ | ⟨-, disabled, -, he⟩ <;> rw [he] <;> rfl
  | _ => rfl

/-- Whether a batch has reported so many items for a connector, and they were counted. -/
structure Collects (t : TaskId) (s s' : Site) (name : String) (count : Nat) : Prop where
  own : ∃ b k code, s.scheduler.batch? t = some b ∧ b.stage = .coded code ∧
    count = (BatchResult.ofCode code).count ∧
    s.scheduler.coordinators[b.coordinator]? = some k ∧ k.name = name ∧ k.removed = false
  executing : s.scheduler.pool.isExecuting t
  pool : s'.scheduler.pool = s.scheduler.pool.finish t
  noted : .folded t name count ∈ s'.scheduler.journal
  tally : s'.scheduler.tally name = s.scheduler.tally name + count
  account : s.scheduler.throttle.used name + count < Numeral.size64 →
    Nexts s.scheduler.throttle.period s.now (s.scheduler.account name) (s'.scheduler.account name)

/-- The items of a batch that were counted are counted for its connector and for no other one. -/
theorem collects_of_fold {b : Batch} {k : Coordinator} {code : Int}
    (hx : s.scheduler.pool.isExecuting t) (hb : s.scheduler.batch? t = some b)
    (hst : b.stage = .coded code) (hk : s.scheduler.coordinators[b.coordinator]? = some k)
    (hlive : k.removed = false)
    (hfold : (s.scheduler.throttle.fold k.name (BatchResult.ofCode code).count s.now).1 = true)
    (hpool : s'.scheduler.pool = s.scheduler.pool.finish t) {l : List Occurrence}
    (hj : s'.scheduler.journal =
      s.scheduler.journal ++ .folded t k.name (BatchResult.ofCode code).count :: l)
    (hl : ∀ o ∈ l, ∀ name, o.countOf? name = none)
    (hth : ∀ name total, Nexts s.scheduler.throttle.period s.now
      ((s.scheduler.throttle.fold k.name (BatchResult.ofCode code).count s.now).2.account name total)
      (s'.scheduler.throttle.account name total)) (name : String) :
    s'.scheduler.tally name = s.scheduler.tally name ∧
      Nexts s.scheduler.throttle.period s.now (s.scheduler.account name) (s'.scheduler.account name) ∨
    ∃ count, Collects t s s' name count := by
  have hnone : l.filterMap (·.countOf? name) = [] :=
    List.filterMap_eq_nil_iff.2 fun o ho => hl o ho name
  have htally := tally_append name hj
  rcases eq_or_ne k.name name with rfl | hne
  · rw [List.filterMap_cons_some (show Occurrence.countOf? k.name (.folded t k.name _) = some _ from
      if_pos rfl), hnone] at htally
    refine .inr ⟨_, ⟨b, k, code, hb, hst, rfl, hk, rfl, hlive⟩, hx, hpool, ?_, htally, fun hfit => ?_⟩
    · rw [hj]
      exact List.mem_append_right _ List.mem_cons_self
    · refine (Throttle.nexts_fold hfold hfit).trans ?_
      rw [Scheduler.account, htally]
      exact hth ..
  · rw [List.filterMap_cons_none (show Occurrence.countOf? name (.folded t k.name _) = none from
      if_neg hne), hnone] at htally
    refine .inl ⟨htally, ?_⟩
    have hsame : s'.scheduler.tally name = s.scheduler.tally name := htally
    rw [Scheduler.account, Scheduler.account, hsame,
      ← Throttle.account_fold_of_ne (t := s.scheduler.throttle) hne.symm]
    exact hth ..

/-- A turn of a batch counts nothing for a connector, or the batch reports by it to the coordinator of the
connector. -/
theorem Turn.tally (h : Turn t s s') (name : String) :
    s'.scheduler.tally name = s.scheduler.tally name ∧
      Nexts s.scheduler.throttle.period s.now (s.scheduler.account name) (s'.scheduler.account name) ∨
    ∃ count, Collects t s s' name count := by
  have hnothing {l : List Occurrence} (hj : s'.scheduler.journal = s.scheduler.journal ++ l)
      (hl : ∀ o ∈ l, o.countOf? name = none)
      (ht : s'.scheduler.throttle = s.scheduler.throttle) :
      s'.scheduler.tally name = s.scheduler.tally name ∧
        Nexts s.scheduler.throttle.period s.now (s.scheduler.account name)
          (s'.scheduler.account name) := by
    have htally := tally_of_uncounted hj hl
    exact ⟨htally, by rw [account_congr ht htally]⟩
  cases h with
  | take | crash | retire =>
    exact .inl (hnothing (l := []) (List.append_nil _).symm (fun _ ho => nomatch ho) rfl)
  | move =>
    refine .inl (hnothing rfl (fun o ho => ?_) rfl)
    obtain ⟨e, -, rfl⟩ := Option.map_eq_some_iff.1 (Option.mem_toList.1 ho)
    cases e <;> rfl
  | answer => exact .inl (hnothing rfl (fun o ho => by rw [List.mem_singleton.1 ho]; rfl) rfl)
  | @choke b k code _ _ _ _ _ hfold =>
    refine .inl ⟨rfl, ?_⟩
    rcases eq_or_ne k.name name with rfl | hne
    · exact Throttle.nexts_fold_false hfold
    · rw [Scheduler.account, ← Throttle.account_fold_of_ne (t := s.scheduler.throttle) hne.symm]
      exact .refl
  | count hx hb hst hk hlive hfold =>
    exact collects_of_fold hx hb hst hk hlive hfold rfl (l := []) rfl (fun _ ho => nomatch ho)
      (fun _ _ => .refl) name
  | @settle b k code hx hb hst hk hlive hfold =>
    have hfinish (delay : Option Duration) (name : String) (total : Nat) :
        Nexts s.scheduler.throttle.period s.now
          ((s.scheduler.throttle.fold k.name (BatchResult.ofCode code).count s.now).2.account name total)
          (((s.scheduler.throttle.fold k.name (BatchResult.ofCode code).count s.now).2.finish k.name
            delay s.now).2.account name total) := by
      rw [← Throttle.period_fold s.scheduler.throttle k.name (BatchResult.ofCode code).count s.now]
      exact Throttle.nexts_finish ..
    rcases settleBatch_cases (s.counted t k (BatchResult.ofCode code).count) t b k (.ofCode code) with
      ⟨-, he⟩ | ⟨-, disabled, -, he⟩ <;> rw [he]
    · exact collects_of_fold hx hb hst hk hlive hfold rfl (l := []) rfl (fun _ ho => nomatch ho)
        (hfinish _) name
    · refine collects_of_fold hx hb hst hk hlive hfold rfl (List.append_assoc ..) (fun o ho _ => ?_)
        (hfinish _) name
      rw [List.mem_singleton.1 ho]
      rfl

/-- A turn keeps the batches of a coordinator temperate as long as its adapters are modest. -/
theorem Turn.temperate (h : Turn t s s') (hp : s.scheduler.Sourced)
    (ht : s.scheduler.Temperate c name) (hs : s'.scheduler.Stands c name)
    (hm : s'.scheduler.Modest name) : s'.scheduler.Temperate c name := by
  have hsame {q : Scheduler} (hj : s.scheduler.journal ⊆ q.journal)
      (hb : ∀ u, q.batch? u = s.scheduler.batch? u) : q.Temperate c name :=
    ht.of_batches hj fun u b hu => .inl ((hb u).symm.trans hu)
  have hj := h.lasts.journal
  have hstands := h.lasts.stands hs
  cases h with
  | take h =>
    obtain ⟨rest, -, rfl⟩ := Pool.take?_eq_some h
    exact hsame hj fun _ => rfl
  | @move b k r hx hb hst hk hr =>
    have hown {x : Batch} (hx : s.scheduler.batch? t = some x) : b = x :=
      Option.some.inj (hb.symm.trans hx)
    obtain ⟨hconnector, -⟩ := RunStage.source_advance t (s.scheduler.pool.isTripped t)
      { traverser := r, cell := k.cell, backend := s.backend } b.stage
    refine ht.of_stage hj rfl (fun x hx hc => ?_) fun x checkpoint hx hc hcall => ?_ <;>
      cases hown hx
    · exact (ht.within t b hb hc).advance ..
    · rcases RunStage.calling_of_advance hcall with ⟨-, hevent⟩ | ⟨hbefore, -⟩
      · refine List.mem_append_right _ (Option.mem_toList.2 ?_)
        rw [hevent, Option.map_some, hconnector, hp.connector hstands hb hc hr]
        rfl
      · exact hj (ht.called t b checkpoint hb hc hbefore)
  | @answer b r checkpoint a hb hst hr =>
    have hown {x : Batch} (hx : s.scheduler.batch? t = some x) : b = x :=
      Option.some.inj (hb.symm.trans hx)
    refine ht.of_stage hj rfl (fun x hx hc => ?_) fun x checkpoint' hx hc hcall => ?_
    · cases hown hx
      cases a with
      | page page =>
        -- the adapter was asked for no more than the batch may have
        exact hm t _ b.maxItems checkpoint page (hj (ht.called t b checkpoint hb hc hst))
          (List.mem_append_right _ (List.mem_singleton_self _))
      | noContent | failed | crashed => trivial
    · cases a <;> cases hcall
  | crash | retire | choke | count =>
    exact hsame hj fun u => Pool.payload?_markDone s.scheduler.pool t u
  | @settle b k code =>
    rcases settleBatch_cases (s.counted t k (BatchResult.ofCode code).count) t b k (.ofCode code) with
      ⟨-, he⟩ | ⟨-, disabled, -, he⟩ <;> rw [he] at hj ⊢
    all_goals exact hsame hj fun u => Pool.payload?_markDone s.scheduler.pool t u

/-! ## Moves -/

/-- From one moment to a later one every coordinator keeps its name, and a removed one stays removed. -/
theorem Moves.lasts (h : Moves s s') : s.scheduler.Lasts s'.scheduler := by
  induction h with
  | refl => exact .refl _
  | tail _ h ih =>
    cases h with
    | chore h => exact ih.trans h.lasts
    | turn t h => exact ih.trans h.lasts

/-- Whatever a process does, its coordinators last. -/
theorem act_lasts (hr : s.scheduler.Registered) (a : Action) :
    s.scheduler.Lasts (s.act a).scheduler := by
  obtain ⟨s', inventory, h, e⟩ := act_moves hr a
  rw [e]
  exact (Moves.lasts h).trans (.of_same rfl (fun _ => id) rfl)

end Site

end BatchTraversal
