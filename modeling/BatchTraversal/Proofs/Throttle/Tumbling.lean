import BatchTraversal.Proofs.Throttle.LoadAccount
import BatchTraversal.Proofs.Throttle.Window
import Mathlib.Algebra.GroupWithZero.Nat
import Mathlib.Algebra.Order.BigOperators.Group.List
import Mathlib.Algebra.Order.Group.Nat

/-!
# Load periods and windows of time

The documents of a connector are budgeted by periods, each of which begins with a call, and not by the windows
of time that somebody may look at. As long as no more is counted than hints have allowed, a period stays
within its budget, and since two periods begin at least a period's length apart, a window of that length
meets at most two of them: what is counted in it is at most twice the budget
(`Throttle.periods_bound_windows`). That much may well be counted within a moment
(`Throttle.periods_bound_windows_doubled`).

What is known of the periods so far is carried by three numbers for every point in time: what was counted since
then is nothing if the present period was over by then, no more than is counted in the present period if that
began before, and no more than a budget beyond that if it began less than a period later
(`Throttle.Bounds`).
-/

namespace BatchTraversal

namespace Throttle

/-! ## Sums over a time -/

/-- The documents counted at `m` or later. -/
def countedSince (m : Int) (counted : List (Instant × Nat)) : Nat :=
  ((counted.filter (m ≤ ·.1.nanos)).map (·.2)).sum

/-- The documents counted from `m` on and before `d` has passed. -/
def countedWithin (m : Int) (d : Duration) (counted : List (Instant × Nat)) : Nat :=
  ((counted.filter fun e => m ≤ e.1.nanos ∧ e.1.nanos < m + d.nanos).map (·.2)).sum

section
variable {m : Int} {d : Duration} {counted : List (Instant × Nat)} {now : Instant} {count : Nat}

/-- One more count is counted if it is not too early. -/
theorem countedSince_concat :
    countedSince m (counted ++ [(now, count)]) =
      countedSince m counted + if m ≤ now.nanos then count else 0 := by
  rw [countedSince, List.filter_append, List.map_append, List.sum_append, countedSince]
  split <;> simp [*]

/-- One more count is counted if it is within the window. -/
theorem countedWithin_concat :
    countedWithin m d (counted ++ [(now, count)]) =
      countedWithin m d counted +
        if m ≤ now.nanos ∧ now.nanos < m + d.nanos then count else 0 := by
  rw [countedWithin, List.filter_append, List.map_append, List.sum_append, countedWithin]
  split <;> simp [*]

/-- A window has no more than all that comes from its beginning on. -/
theorem countedWithin_le (m : Int) (d : Duration) (counted : List (Instant × Nat)) :
    countedWithin m d counted ≤ countedSince m counted := by
  have hsub : (counted.filter fun e => m ≤ e.1.nanos ∧ e.1.nanos < m + d.nanos).Sublist
      (counted.filter (m ≤ ·.1.nanos)) :=
    List.monotone_filter_right counted fun e he => by simp_all
  exact (hsub.map _).sum_le_sum fun _ _ => Nat.zero_le _

end

/-! ## Periods -/

/-- What a period of length `d` that began at `start`, and in which `used` documents were counted, tells of all
that was counted: since a time at which the period was over nothing was; since a time in the period at most
`used`; and since a time less than `d` before it at most another budget. -/
structure Bounds (d : Duration) (budget : Nat) (counted : List (Instant × Nat)) (start : Int)
    (used : Nat) : Prop where
  after : ∀ m, start + d.nanos ≤ m → countedSince m counted = 0
  present : ∀ m, start ≤ m → countedSince m counted ≤ used
  previous : ∀ m, start < m + d.nanos → countedSince m counted ≤ budget + used

section
variable {d : Duration} {budget used count : Nat} {counted : List (Instant × Nat)} {start : Int}
  {now : Instant}

/-- Where nothing was counted, everything is within bounds. -/
theorem bounds_nil : Bounds d budget [] start 0 := by
  constructor <;> simp [countedSince]

/-- The next period begins when the present one is over. -/
theorem Bounds.renew (h : Bounds d budget counted start used) (hused : used ≤ budget)
    (hover : start + d.nanos ≤ now.nanos) : Bounds d budget counted now.nanos 0 where
  after m hm := h.after m (by omega)
  present m hm := Nat.le_of_eq (h.after m (by omega))
  previous m hm := Nat.le_trans (h.present m (by omega)) (by omega)

/-- Documents are counted before the present period is over. -/
theorem Bounds.add (h : Bounds d budget counted start used) (hin : now.nanos < start + d.nanos) :
    Bounds d budget (counted ++ [(now, count)]) start (used + count) := by
  refine ⟨fun m hm => ?_, fun m hm => ?_, fun m hm => ?_⟩ <;> rw [countedSince_concat]
  · rw [h.after m hm, if_neg (by omega)]
  · have := h.present m hm
    split <;> omega
  · have := h.previous m hm
    split <;> omega

/-- Whether the entry of a connector is, after a call at a time, one of the period that it was of before, or of
one that begins with the call because there was none or it was over. -/
def Renews (d : Duration) (now : Instant) (e? : Option LoadEntry) (r : LoadEntry) : Prop :=
  (∃ e ∈ e?, r.periodStart = e.periodStart ∧ r.documents = e.documents) ∨
    (∀ e ∈ e?, e.periodStart.nanos + d.nanos ≤ now.nanos) ∧ r.periodStart = now ∧ r.documents = 0

variable {t : Throttle} {name : String} {r : LoadEntry}

/-- The entry of a connector is the one there was, unless its period is over or there was none. -/
theorem renews_entryAt (t : Throttle) (name : String) (now : Instant) :
    Renews d now (t.entries.find? name) (t.entryAt name now) := by
  cases he : t.entries.find? name with
  | none => exact .inr ⟨by simp, by rw [entryAt, he]; exact ⟨rfl, rfl⟩⟩
  | some e => exact .inl ⟨e, rfl, by rw [entryAt, he]; exact ⟨rfl, rfl⟩⟩

/-- A call that rolls an entry is in its period. -/
theorem renews_roll (hr : (t.entryAt name now).roll? now t.period = some r) :
    Renews t.period now (t.entries.find? name) r ∧
      (0 < t.period.nanos → now.nanos < r.periodStart.nanos + t.period.nanos) := by
  obtain ⟨stop, hstop, rfl⟩ := Option.map_eq_some_iff.1 hr
  obtain ⟨hnanos, -⟩ := Instant.after?_eq_some_iff.1 hstop
  split
  · next hin =>
    rw [Instant.before, decide_eq_true_eq] at hin
    exact ⟨renews_entryAt t name now, fun _ => by omega⟩
  · next hout =>
    rw [Instant.before, decide_eq_true_eq, Int.not_lt] at hout
    refine ⟨.inr ⟨fun e he => ?_, rfl, rfl⟩, fun hd => ?_⟩
    · rw [entryAt, Option.mem_def.1 he] at hnanos
      exact hnanos ▸ hout
    · show now.nanos < now.nanos + t.period.nanos
      omega

end

/-- The documents counted for a connector in the period that a call at a time is in, if that has an end. -/
def usedAt? (t : Throttle) (name : String) (now : Instant) : Option Nat :=
  ((t.entryAt name now).roll? now t.period).map (·.documents)

/-! ## Dealings with one connector -/

/-- A call, or the question whether a connector is delayed, which leaves the throttle as it is. -/
inductive Dealing where
  | call (c : Call)
  | delays (name : String)

/-- A throttle with what it allowed and what was counted for one connector. -/
structure Ledger where
  throttle : Throttle
  /-- When the throttle was last dealt with. -/
  last : Option Instant := none
  /-- The size of batch that the last hint allowed, as long as nothing was counted since. -/
  granted : Option Nat := none
  /-- The documents counted, with the times at which they were. -/
  counted : List (Instant × Nat) := []

namespace Ledger

/-- Whether a dealing at a time may come next: the clock has not gone back; hints for the connector are for one
load, and it is not dropped; documents are counted for it only once after a hint, and no more than that
allowed; and no call for it fails because its period has no end. -/
def Admits (b : Ledger) (name : String) (load : Nat) (now : Instant) (d : Dealing) : Prop :=
  (∀ last ∈ b.last, last.nanos ≤ now.nanos) ∧
    match d with
    | .call (.hint other load') =>
      other = name → load' = load ∧ (b.throttle.hint name load now).1.isSome
    | .call (.fold other count) => other = name →
      (∃ granted ∈ b.granted, count ≤ granted) ∧ (b.throttle.fold name count now).1
    | .call (.remove other) => other ≠ name
    | .call (.finish ..) | .delays _ => True

instance (b : Ledger) (name : String) (load : Nat) (now : Instant) (d : Dealing) :
    Decidable (b.Admits name load now d) := by
  unfold Admits
  rcases d with (_ | _ | _ | _) | _ <;> infer_instance

/-- The ledger of a connector after a dealing at a time. -/
def next (b : Ledger) (name : String) (now : Instant) : Dealing → Ledger
  | .delays _ => { b with last := some now }
  | .call c =>
    let b' := { b with throttle := b.throttle.call now c, last := some now }
    match c with
    | .hint other load =>
      if other = name then { b' with granted := (b.throttle.hint name load now).1 } else b'
    | .fold other count =>
      if other = name then { b' with granted := none, counted := b.counted ++ [(now, count)] } else b'
    | .finish .. | .remove _ => b'

/-- The ledger after some dealings, each at a time. -/
def after (b : Ledger) (name : String) (l : List (Instant × Dealing)) : Ledger :=
  l.foldl (fun b e => b.next name e.1 e.2) b

/-- Whether each of some dealings may come when it does. -/
def AdmitsAll (b : Ledger) (name : String) (load : Nat) : List (Instant × Dealing) → Prop
  | [] => True
  | (now, d) :: l => b.Admits name load now d ∧ (b.next name now d).AdmitsAll name load l

instance decidableAdmitsAll (name : String) (load : Nat) :
    (b : Ledger) → (l : List (Instant × Dealing)) → Decidable (b.AdmitsAll name load l)
  | _, [] => .isTrue trivial
  | b, (now, d) :: l =>
    have := decidableAdmitsAll name load (b.next name now d) l
    inferInstanceAs (Decidable (_ ∧ _))

/-- What holds along the dealings with a throttle that was `t`: the connector is within the budget of its load,
also if the batch that the last hint allowed is counted, what was counted is bounded by the present period,
and any window of a period's length has at most twice the budget. -/
structure Balanced (t : Throttle) (name : String) (load : Nat) (b : Ledger) : Prop where
  period : b.throttle.period = t.period
  maxBatch : b.throttle.maxBatch = t.maxBatch
  used : b.throttle.used name ≤ t.budget load
  granted : ∀ n ∈ b.granted, b.throttle.used name + n ≤ t.budget load
  unbegun : b.throttle.entries.find? name = none → b.counted = []
  begun : ∀ e ∈ b.throttle.entries.find? name, ∃ last ∈ b.last, e.periodStart.nanos ≤ last.nanos
  bounds : 0 < t.period.nanos → ∀ e ∈ b.throttle.entries.find? name,
    Bounds t.period (t.budget load) b.counted e.periodStart.nanos e.documents
  windows : ∀ m, countedWithin m t.period b.counted ≤ 2 * t.budget load

variable {t t' : Throttle} {name : String} {load count : Nat} {b : Ledger} {now : Instant}
  {e : LoadEntry} {d : Dealing} {l : List (Instant × Dealing)}

/-- A connector without an entry has nothing on its account. -/
theorem balanced_start (h : t.entries.find? name = none) : Balanced t name load { throttle := t } := by
  constructor <;> simp [Throttle.used, h, countedWithin]

/-- What is used is what the entry tells. -/
theorem used_of_find? (h : t.entries.find? name = some e) : t.used name = e.documents := by
  rw [used, h]
  rfl

/-- Only the entry of its connector counts for a ledger. -/
theorem Balanced.congr (h : Balanced t name load b) (hclock : ∀ last ∈ b.last, last.nanos ≤ now.nanos)
    (hp : t'.period = b.throttle.period) (hm : t'.maxBatch = b.throttle.maxBatch)
    (he : t'.entries.find? name = b.throttle.entries.find? name) :
    Balanced t name load { b with throttle := t', last := some now } := by
  have hused : t'.used name = b.throttle.used name := by rw [Throttle.used, Throttle.used, he]
  refine ⟨hp.trans h.period, hm.trans h.maxBatch, hused ▸ h.used, fun n hn => hused ▸ h.granted n hn,
    he ▸ h.unbegun, fun e hmem => ⟨now, rfl, ?_⟩, he ▸ h.bounds, h.windows⟩
  obtain ⟨last, hlast, hle⟩ := h.begun e (he ▸ hmem)
  exact Int.le_trans hle (hclock last hlast)

/-- A call that counts nothing leaves the period or begins the next one. -/
theorem Balanced.renew (h : Balanced t name load b) (hclock : ∀ last ∈ b.last, last.nanos ≤ now.nanos)
    (hr : Renews t.period now (b.throttle.entries.find? name) e) :
    Balanced t name load { b with throttle := b.throttle.withEntry name e, last := some now } := by
  have hfind : (b.throttle.withEntry name e).entries.find? name = some e :=
    NameMap.find?_insert_self ..
  have hused := used_withEntry b.throttle name e
  have hgrown : e.documents ≤ b.throttle.used name ∧ e.periodStart.nanos ≤ now.nanos := by
    rcases hr with ⟨old, hold, hstart, hdocuments⟩ | ⟨-, hstart, hdocuments⟩
    · obtain ⟨last, hlast, hle⟩ := h.begun old hold
      rw [hdocuments, hstart, used_of_find? hold]
      exact ⟨Nat.le_refl _, Int.le_trans hle (hclock last hlast)⟩
    · rw [hdocuments, hstart]
      exact ⟨Nat.zero_le _, Int.le_refl _⟩
  refine ⟨h.period, h.maxBatch, hused ▸ Nat.le_trans hgrown.1 h.used, fun n hn => ?_, fun hnone => ?_,
    fun e' he' => ⟨now, rfl, ?_⟩, fun hd e' he' => ?_, h.windows⟩
  · have := h.granted n hn
    dsimp only
    omega
  · cases hfind.symm.trans hnone
  · cases hfind.symm.trans he'
    exact hgrown.2
  · cases hfind.symm.trans he'
    rcases hr with ⟨old, hold, hstart, hdocuments⟩ | ⟨hover, hstart, hdocuments⟩ <;>
      rw [hstart, hdocuments]
    · exact h.bounds hd old hold
    · cases hold : b.throttle.entries.find? name with
      | none =>
        rw [h.unbegun hold]
        exact bounds_nil
      | some old =>
        have hfits : old.documents ≤ t.budget load := used_of_find? hold ▸ h.used
        exact (h.bounds hd old hold).renew hfits (hover old hold)

/-- The batch that a hint allows fits into what is left of the budget. -/
theorem Balanced.grant (h : Balanced t name load b) {n : Nat}
    (hn : n ≤ t.budget load - b.throttle.used name) :
    Balanced t name load { b with granted := some n } := by
  refine { h with granted := fun m hm => ?_ }
  cases Option.mem_some.1 hm
  have := h.used
  dsimp only
  omega

/-- Documents are counted in the period that the call is in, if no more than the last hint allowed. -/
theorem Balanced.addCount (h : Balanced t name load b) (he : e ∈ b.throttle.entries.find? name)
    (hlast : b.last = some now)
    (hin : 0 < t.period.nanos → now.nanos < e.periodStart.nanos + t.period.nanos)
    (hg : ∃ granted ∈ b.granted, count ≤ granted) :
    e.documents + count < Numeral.size64 ∧ ∀ t', t'.period = b.throttle.period →
      t'.maxBatch = b.throttle.maxBatch → t'.entries.find? name = some (e.add count now) →
      Balanced t name load
        { b with throttle := t', granted := none, counted := b.counted ++ [(now, count)] } := by
  -- no more is counted than was granted, and what was granted fits into the budget
  have hfits : e.documents + count ≤ t.budget load := by
    obtain ⟨granted, hmem, hle⟩ := hg
    have := h.granted granted hmem
    rw [used_of_find? he] at this
    omega
  have hsmall : e.documents + count < Numeral.size64 := Nat.lt_of_le_of_lt hfits (t.budget_lt load)
  refine ⟨hsmall, fun t' hp hm hfind => ?_⟩
  have hdocuments : (e.add count now).documents = e.documents + count := Nat.mod_eq_of_lt hsmall
  have hbounds (hd : 0 < t.period.nanos) :
      Bounds t.period (t.budget load) (b.counted ++ [(now, count)]) e.periodStart.nanos
        (e.documents + count) := (h.bounds hd e he).add (hin hd)
  have hbegun : e.periodStart.nanos ≤ now.nanos := by
    obtain ⟨last, hl, hle⟩ := h.begun e he
    cases hlast.symm.trans hl
    exact hle
  refine ⟨hp.trans h.period, hm.trans h.maxBatch, ?_, fun n hn => (nomatch hn), fun hnone => ?_,
    fun e' he' => ⟨now, hlast, ?_⟩, fun hd e' he' => ?_, fun m => ?_⟩
  · rw [used_of_find? hfind, hdocuments]
    exact hfits
  · cases hfind.symm.trans hnone
  · cases hfind.symm.trans he'
    exact hbegun
  · cases hfind.symm.trans he'
    rw [hdocuments]
    exact hbounds hd
  · by_cases hwindow : m ≤ now.nanos ∧ now.nanos < m + t.period.nanos
    · -- the present period began before the window is over
      have hprevious := (hbounds (by omega)).previous m (by omega)
      have hwithin := countedWithin_le m t.period (b.counted ++ [(now, count)])
      dsimp only
      omega
    · dsimp only
      rw [countedWithin_concat, if_neg hwindow]
      exact h.windows m

/-! ## Every dealing -/

/-- A call changes neither the length of a period nor the largest batch. -/
theorem settings_call (t : Throttle) (now : Instant) (c : Call) :
    (t.call now c).period = t.period ∧ (t.call now c).maxBatch = t.maxBatch := by
  cases c with
  | hint other load =>
    obtain ⟨e, he, -⟩ := t.hint_snd other load now
    rw [call, he]
    exact ⟨rfl, rfl⟩
  | fold other count =>
    obtain ⟨e, he, -⟩ := t.fold_snd other count now
    rw [call, he]
    exact ⟨rfl, rfl⟩
  | finish other delay =>
    rw [call, finish_eq]
    exact ⟨rfl, rfl⟩
  | remove other => exact ⟨rfl, rfl⟩

/-- What is done for another connector takes time and nothing else. -/
theorem Balanced.call_of_alters (h : Balanced t name load b)
    (hclock : ∀ last ∈ b.last, last.nanos ≤ now.nanos) {c : Call} {other : String}
    (ha : b.throttle.Alters other (b.throttle.call now c)) (hne : other ≠ name) :
    Balanced t name load { b with throttle := b.throttle.call now c, last := some now } :=
  h.congr hclock (settings_call ..).1 (settings_call ..).2 (ha name hne.symm)

/-- What a dealing that may come next leaves. -/
theorem Balanced.next (h : Balanced t name load b) (ha : b.Admits name load now d) :
    Balanced t name load (b.next name now d) := by
  obtain ⟨hclock, hd⟩ := ha
  cases d with
  | delays other => exact h.congr hclock rfl rfl rfl
  | call c =>
    cases c with
    | hint other load' =>
      by_cases hne : other = name
      -- a hint renews the period, if that is due, and grants what the budget leaves
      · obtain ⟨rfl, hsome⟩ := hd hne
        subst hne
        obtain ⟨n, hn⟩ := Option.isSome_iff_exists.1 hsome
        obtain ⟨r, hr, hmin, ht⟩ := hint_eq_some hn
        have hrolled := h.renew hclock (h.period ▸ (renews_roll hr).1)
        rw [← ht] at hrolled
        have hleft : n ≤ t.budget load' - (b.throttle.hint other load' now).2.used other := by
          rw [ht, used_withEntry, hmin, budget_congr h.period]
          exact Nat.min_le_left ..
        rw [Ledger.next, if_pos rfl, hn]
        exact hrolled.grant hleft
      · rw [Ledger.next, if_neg hne]
        exact h.call_of_alters hclock (b.throttle.alters_hint other load' now) hne
    | fold other count =>
      by_cases hne : other = name
      · obtain ⟨hgranted, hcounted⟩ := hd hne
        subst hne
        obtain ⟨r, hr, ht⟩ := fold_eq_true hcounted
        have hrolled := h.renew hclock (h.period ▸ (renews_roll hr).1)
        have hin := h.period ▸ (renews_roll hr).2
        -- a count is one of what was granted before
        have hcount := (hrolled.addCount (NameMap.find?_insert_self ..) rfl hin hgranted).2
          (b.throttle.call now (.fold other count)) (settings_call ..).1 (settings_call ..).2
          (by rw [call, ht]; exact NameMap.find?_insert_self ..)
        rwa [Ledger.next, if_pos rfl]
      · rw [Ledger.next, if_neg hne]
        exact h.call_of_alters hclock (b.throttle.alters_fold other count now) hne
    | finish other delay =>
      rcases eq_or_ne other name with rfl | hne
      · rw [Ledger.next, call, finish_eq]
        exact h.renew hclock (renews_entryAt b.throttle other now)
      · exact h.call_of_alters hclock (b.throttle.alters_finish other delay now) hne
    | remove other => exact h.call_of_alters hclock (b.throttle.alters_remove other) hd

/-- An account is balanced after any admitted dealings. -/
theorem Balanced.after (h : Balanced t name load b) (ha : b.AdmitsAll name load l) :
    Balanced t name load (b.after name l) := by
  induction l generalizing b with
  | nil => exact h
  | cons e l ih => exact ih (h.next ha.1) ha.2

end Ledger

/-- Along any dealings with a throttle that knew nothing of a connector, at times that do not go back, in which
what is counted for the connector was allowed by the hint before it: the documents in its entry never exceed
the budget of its load; a hint is within what the budget leaves, and within the largest batch; what is counted
is added to the documents of the period that the call is in, without wrapping around; and in any window of a
period's length no more than twice the budget is counted. -/
theorem periods_bound_windows {t : Throttle} {name : String} (hnew : t.entries.find? name = none)
    {load : Nat} {l : List (Instant × Dealing)} (hl : Ledger.AdmitsAll { throttle := t } name load l) :
    let b := Ledger.after { throttle := t } name l
    b.throttle.used name ≤ t.budget load ∧
    (∀ now, b.Admits name load now (.call (.hint name load)) → ∃ n,
      (b.throttle.hint name load now).1 = some n ∧
        (b.throttle.hint name load now).2.used name + n ≤ t.budget load ∧ n ≤ t.maxBatch) ∧
    (∀ now count, b.Admits name load now (.call (.fold name count)) → ∃ used,
      b.throttle.usedAt? name now = some used ∧
        (b.throttle.fold name count now).2.used name = used + count ∧ used + count ≤ t.budget load) ∧
    ∀ m, countedWithin m t.period b.counted ≤ 2 * t.budget load := by
  intro b
  have h : b.Balanced t name load := (Ledger.balanced_start hnew).after hl
  refine ⟨h.used, fun now ha => ?_, fun now count ha => ?_, h.windows⟩
  · obtain ⟨n, hn⟩ := Option.isSome_iff_exists.1 (ha.2 rfl).2
    obtain ⟨r, -, hmin, -⟩ := hint_eq_some hn
    have hnext := h.next ha
    rw [Ledger.next, if_pos rfl] at hnext
    exact ⟨n, hn, hnext.granted n hn, hmin ▸ h.maxBatch ▸ Nat.min_le_right ..⟩
  · obtain ⟨hgranted, hcounted⟩ := ha.2 rfl
    obtain ⟨r, hr, ht⟩ := fold_eq_true hcounted
    have hrolled := h.renew ha.1 (h.period ▸ (renews_roll hr).1)
    have hsmall := (hrolled.addCount (NameMap.find?_insert_self ..) rfl
      (h.period ▸ (renews_roll hr).2) hgranted).1
    have hused := (h.next ha).used
    rw [Ledger.next, if_pos rfl] at hused
    change (b.throttle.fold name count now).2.used name ≤ _ at hused
    have hadded : (b.throttle.fold name count now).2.used name = r.documents + count := by
      rw [ht, used_withEntry]
      exact Nat.mod_eq_of_lt hsmall
    exact ⟨r.documents, by rw [usedAt?, hr]; rfl, hadded, hadded ▸ hused⟩

/-- The budget of a minute is counted in its last second, and another one in the first second of the next
minute, after a backoff and other connectors' calls in between. -/
theorem periods_bound_windows_doubled :
    let t := make (.ofSeconds 60) 500
    let l : List (Instant × Dealing) := [(.of 1714564800 0, .call (.hint "a" 60)),
      (.of 1714564859 0, .call (.fold "a" 60)), (.of 1714564859 0, .call (.hint "b" 10)),
      (.of 1714564860 0, .call (.finish "a" (some .zero))), (.of 1714564860 0, .delays "a"),
      (.of 1714564860 0, .call (.hint "a" 60)), (.of 1714564860 0, .call (.fold "a" 60))]
    t.entries.find? "a" = none ∧ Ledger.AdmitsAll { throttle := t } "a" 60 l ∧
      countedWithin (Instant.of 1714564859 0).nanos t.period
        (Ledger.after { throttle := t } "a" l).counted = 120 ∧
      ∀ m, countedWithin m t.period (Ledger.after { throttle := t } "a" l).counted ≤ 120 := by
  intro t l
  have hl : Ledger.AdmitsAll { throttle := t } "a" 60 l := by decide +kernel
  have hbudget : t.budget 60 = 60 := by decide +kernel
  obtain ⟨-, -, -, hwindows⟩ := periods_bound_windows rfl hl
  exact ⟨rfl, hl, by decide +kernel, by simpa only [hbudget] using hwindows⟩

end Throttle

end BatchTraversal
