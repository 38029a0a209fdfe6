import BatchTraversal.Proofs.Throttle.Backoff
import Mathlib.Logic.Relation
import Mathlib.Tactic.Common

/-!
# The load account of a connector

What a throttle does for one connector is seen here as an account: the beginning of the present period,
the documents counted in it, and the documents ever counted. A call at some time begins a new period if
there is none or the present one is over, or adds documents to a period that is not over
(`LoadAccount.Next`); `Throttle.hint`, `Throttle.finish` and `Throttle.fold` are made of such steps. So
whatever was counted since a moment of the present period is in what was counted in that period
(`LoadAccount.Covers`).
-/

namespace BatchTraversal

/-- What was counted for a connector. -/
structure LoadAccount where
  /-- The beginning of the present period. -/
  start : Option Instant
  /-- The documents counted in the present period. -/
  used : Nat
  /-- The documents ever counted. -/
  total : Nat

namespace LoadAccount

/-- Whether the period that began at `start` is over. -/
def Over (start : Instant) (period : Duration) (now : Instant) : Prop :=
  ∃ stop, start.after? period = some stop ∧ stop.nanos ≤ now.nanos

/-- What a call at a time may do to an account. -/
inductive Next (period : Duration) (now : Instant) (a : LoadAccount) : LoadAccount → Prop
  /-- There is no period, or the present one is over: another one begins. -/
  | renew (hover : ∀ start, a.start = some start → Over start period now) :
      Next period now a { a with start := some now, used := 0 }
  /-- Documents are counted in a period that is not over. -/
  | add {start : Instant} (count : Nat) (hstart : a.start = some start)
      (hin : 0 < period.nanos → ¬ Over start period now) :
      Next period now a { a with used := a.used + count, total := a.total + count }

/-- What some calls at a time may do to an account. -/
abbrev Nexts (period : Duration) (now : Instant) : LoadAccount → LoadAccount → Prop :=
  Relation.ReflTransGen (Next period now)

variable {period : Duration} {now m : Instant} {a b : LoadAccount} {n : Nat}

/-- The documents counted in a period grow by no more than those ever counted. -/
theorem Nexts.used_le (h : Nexts period now a b) : b.used + a.total ≤ a.used + b.total := by
  induction h with
  | refl => exact Nat.le_refl _
  | tail _ h ih =>
    cases h with
    | renew => dsimp only; omega
    | add => dsimp only; omega

/-- Whether an account tells whatever was counted since a moment at which `n` documents had been counted:
if the moment is one of the present period, by what was counted in it, and if the moment is after its
end, or there is no period, nothing was. -/
structure Covers (period : Duration) (m : Instant) (n : Nat) (a : LoadAccount) : Prop where
  since : ∀ start, a.start = some start → start.nanos ≤ m.nanos → a.total ≤ n + a.used
  after : ∀ start, a.start = some start → Over start period m → a.total ≤ n
  unbegun : a.start = none → a.total ≤ n

theorem Covers.refl (a : LoadAccount) : Covers period m a.total a :=
  ⟨fun _ _ _ => Nat.le_add_right .., fun _ _ _ => Nat.le_refl _, fun _ => Nat.le_refl _⟩

theorem not_over_self (hperiod : 0 < period.nanos) : ¬ Over now period now := by
  rintro ⟨stop, hstop, hle⟩
  have := (Instant.after?_eq_some_iff.1 hstop).1
  omega

/-- What an account covers it covers after one more call, too. -/
theorem Next.covers (h : Next period now a b) (hperiod : 0 < period.nanos)
    (hm : m.nanos ≤ now.nanos) (hc : Covers period m n a) : Covers period m n b := by
  cases h with
  | renew hover =>
    refine ⟨fun start hs hle => ?_, fun start hs hov => ?_, fun hnone => (nomatch hnone)⟩
    · -- the moment is that of the call
      cases hs
      cases hstart : a.start with
      | none => exact hc.unbegun hstart
      | some start =>
        obtain ⟨stop, hstop, hle'⟩ := hover start hstart
        exact hc.after start hstart ⟨stop, hstop, Int.le_trans hle' hle⟩
    · cases hs
      obtain ⟨stop, hstop, hle⟩ := hov
      have hself : ¬ Over now period now := not_over_self hperiod
      exact absurd ⟨stop, hstop, Int.le_trans hle hm⟩ hself
  | add count hstart hin =>
    refine ⟨fun start hs hle => ?_, fun start hs hov => ?_, fun hnone => ?_⟩
    · have := hc.since start hs hle
      dsimp only
      omega
    · cases hstart.symm.trans hs
      obtain ⟨stop, hstop, hle⟩ := hov
      exact absurd ⟨stop, hstop, Int.le_trans hle hm⟩ (hin hperiod)
    · cases hstart.symm.trans hnone

theorem Nexts.covers (h : Nexts period now a b) (hperiod : 0 < period.nanos)
    (hm : m.nanos ≤ now.nanos) (hc : Covers period m n a) : Covers period m n b := by
  induction h with
  | refl => exact hc
  | tail _ h ih => exact h.covers hperiod hm ih

end LoadAccount

namespace Throttle

open LoadAccount

/-- The documents counted for a connector in its present period. -/
def used (t : Throttle) (name : String) : Nat := ((t.entries.find? name).map (·.documents)).getD 0

/-- The account of a connector for which `total` documents were ever counted. -/
def account (t : Throttle) (name : String) (total : Nat) : LoadAccount :=
  { start := (t.entries.find? name).map (·.periodStart), used := t.used name, total }

variable {t : Throttle} {name other : String} {now : Instant} {total count : Nat} {e r : LoadEntry}

theorem account_congr {t' : Throttle} (h : t'.entries.find? name = t.entries.find? name) :
    t'.account name total = t.account name total := by
  rw [account, account, used, used, h]

theorem account_withEntry_of_ne (h : name ≠ other) :
    (t.withEntry other e).account name total = t.account name total :=
  account_congr (NameMap.find?_insert_of_ne _ _ h)

theorem used_withEntry (t : Throttle) (name : String) (e : LoadEntry) :
    (t.withEntry name e).used name = e.documents := by
  rw [used, withEntry, NameMap.find?_insert_self]
  rfl

theorem account_withEntry (t : Throttle) (name : String) (e : LoadEntry) (total : Nat) :
    (t.withEntry name e).account name total =
      { start := some e.periodStart, used := e.documents, total } := by
  rw [account, used_withEntry, withEntry, NameMap.find?_insert_self]
  rfl

/-- An entry with the period of the connector's present one, a new one if there is none. -/
theorem nexts_entryAt (hs : e.periodStart = (t.entryAt name now).periodStart)
    (hd : e.documents = (t.entryAt name now).documents) :
    Nexts t.period now (t.account name total) ((t.withEntry name e).account name total) := by
  rw [account_withEntry, hs, hd]
  cases he : t.entries.find? name with
  | none =>
    have hnew : t.account name total = { start := none, used := 0, total } := by
      rw [account, used, he]
      rfl
    rw [entryAt, he, hnew]
    refine .single (.renew fun start h => ?_)
    cases h
  | some old =>
    have hold : t.account name total =
        { start := some old.periodStart, used := old.documents, total } := by
      rw [account, used, he]
      rfl
    rw [entryAt, he, hold]
    exact .refl

/-- An entry that is rolled begins another period if the present one is over, and is not over then. -/
theorem nexts_roll (hr : (t.entryAt name now).roll? now t.period = some r) :
    Nexts t.period now (t.account name total) ((t.withEntry name r).account name total) ∧
      (0 < t.period.nanos → ¬ Over r.periodStart t.period now) := by
  obtain ⟨stop, hstop, rfl⟩ := Option.map_eq_some_iff.1 hr
  split
  · next hin =>
    refine ⟨nexts_entryAt rfl rfl, fun _ ⟨stop', hstop', hle⟩ => ?_⟩
    cases hstop.symm.trans hstop'
    rw [Instant.before, decide_eq_true_eq] at hin
    omega
  · next hout =>
    rw [Instant.before, decide_eq_true_eq, Int.not_lt] at hout
    refine ⟨?_, not_over_self⟩
    rw [account_withEntry]
    refine .single (.renew fun start hs => ?_)
    cases he : t.entries.find? name with
    | none =>
      rw [account, he] at hs
      cases hs
    | some old =>
      rw [account, he] at hs
      cases hs
      rw [entryAt, he] at hstop
      exact ⟨stop, hstop, hout⟩

/-- A hint is what is left of the budget in the period that the call is in. -/
theorem hint_eq_some {load n : Nat} (h : (t.hint name load now).1 = some n) :
    ∃ r, (t.entryAt name now).roll? now t.period = some r ∧
      n = min (t.budget load - r.documents) t.maxBatch ∧
      (t.hint name load now).2 = t.withEntry name r := by
  unfold hint at h ⊢
  dsimp only at h ⊢
  cases hr : (t.entryAt name now).roll? now t.period with
  | none =>
    rw [hr] at h
    cases h
  | some r =>
    rw [hr] at h
    exact ⟨r, rfl, (Option.some.inj h).symm, rfl⟩

/-- Items are counted in the period that the call is in. -/
theorem fold_eq_true (h : (t.fold name count now).1 = true) :
    ∃ r, (t.entryAt name now).roll? now t.period = some r ∧
      (t.fold name count now).2 = t.withEntry name (r.add count now) := by
  unfold fold at h ⊢
  dsimp only at h ⊢
  cases hr : (t.entryAt name now).roll? now t.period with
  | none =>
    rw [hr] at h
    cases h
  | some r => exact ⟨r, rfl, rfl⟩

/-- Asking for a hint counts nothing. -/
theorem nexts_hint (t : Throttle) (other : String) (load : Nat) (now : Instant) :
    Nexts t.period now (t.account name total) ((t.hint other load now).2.account name total) := by
  rcases eq_or_ne name other with rfl | hne
  · unfold hint
    dsimp only
    cases hr : (t.entryAt name now).roll? now t.period with
    | none => exact nexts_entryAt rfl rfl
    | some r => exact (nexts_roll hr).1
  · rw [account_congr (t.alters_hint other load now name hne)]

/-- Arming a backoff counts nothing. -/
theorem nexts_finish (t : Throttle) (other : String) (delay : Option Duration) (now : Instant) :
    Nexts t.period now (t.account name total) ((t.finish other delay now).2.account name total) := by
  rw [finish_eq]
  rcases eq_or_ne name other with rfl | hne
  · exact nexts_entryAt rfl rfl
  · rw [account_withEntry_of_ne hne]

/-- What is counted for another connector does not concern this one. -/
theorem account_fold_of_ne (hne : name ≠ other) :
    (t.fold other count now).2.account name total = t.account name total :=
  account_congr (t.alters_fold other count now name hne)

/-- Items that cannot be counted are not. -/
theorem nexts_fold_false (h : (t.fold name count now).1 = false) :
    Nexts t.period now (t.account name total) ((t.fold name count now).2.account name total) := by
  unfold fold at h ⊢
  dsimp only at h ⊢
  cases hr : (t.entryAt name now).roll? now t.period with
  | none => exact nexts_entryAt rfl rfl
  | some r =>
    rw [hr] at h
    cases h

/-- Items are counted in a period that is not over, as long as the count fits. -/
theorem nexts_fold (h : (t.fold name count now).1 = true)
    (hfit : (t.account name total).used + count < Numeral.size64) :
    Nexts t.period now (t.account name total)
      ((t.fold name count now).2.account name (total + count)) := by
  obtain ⟨r, hr, he⟩ := fold_eq_true h
  obtain ⟨hroll, hin⟩ : Nexts t.period now (t.account name total) _ ∧ _ := nexts_roll hr
  have hused := hroll.used_le
  rw [account_withEntry] at hroll hused
  have hsmall : r.documents + count < Numeral.size64 := by
    change r.documents + total ≤ (t.account name total).used + total at hused
    omega
  rw [he, account_withEntry]
  refine hroll.tail ?_
  have hadd := Next.add (a := { start := some r.periodStart, used := r.documents, total })
    count rfl hin
  simpa only [LoadEntry.add, Nat.mod_eq_of_lt hsmall] using hadd

/-- A batch as large as the hint fits into the budget, if what was counted before does. -/
theorem used_add_hint_le {load n : Nat} {t' : Throttle} (h : t.hint name load now = (some n, t'))
    (hused : t'.used name ≤ t.budget load) : t'.used name + n ≤ t.budget load := by
  obtain ⟨r, -, hn, ht⟩ := hint_eq_some (congrArg Prod.fst h)
  rw [h] at ht
  subst ht
  rw [used_withEntry] at hused ⊢
  omega

theorem budget_congr {t' : Throttle} (h : t'.period = t.period) (load : Nat) :
    t'.budget load = t.budget load := by
  rw [budget, budget, h]

theorem budget_lt (t : Throttle) (load : Nat) : t.budget load < Numeral.size64 := by
  unfold budget Numeral.size64
  exact UInt64.toNat_lt _

end Throttle

end BatchTraversal
