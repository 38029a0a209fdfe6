import Mathlib.Data.List.Sort
import BatchTraversal.Proofs.Schedule.RoundTrip

/-!
# Equal schedules from equal pairs

A list of intervals in ascending order is determined by its members (`HourInterval.eq_of_ascending`). What a
schedule keeps of the pairs of hours that it is built from is such a list, whose members are the pieces of all
pairs, cut at midnight. So neither the order of the pairs nor a repetition matters, and pieces that fall
together, of one pair or of different ones, are kept once. The intervals that are kept are pairs that allow
just themselves, so that building the schedule anew from them changes nothing (`Schedule.build_canonical`).
-/

namespace BatchTraversal

namespace HourInterval

variable {i j : HourInterval} {l l' : List HourInterval}

theorem eq_of_ascending (h : l.Pairwise fun i j => i.precedes j)
    (h' : l'.Pairwise fun i j => i.precedes j) (hsame : ∀ i, i ∈ l ↔ i ∈ l') : l = l' := by
  have hirrefl : Std.Irrefl fun i j : HourInterval => (i.precedes j : Prop) :=
    ⟨fun i hi => by rw [precedes_iff] at hi; omega⟩
  have hantisymm : Std.Antisymm fun i j : HourInterval => (i.precedes j : Prop) :=
    ⟨fun i j hij hji => absurd (precedes_trans hij hji) (hirrefl.irrefl i)⟩
  exact h.eq_of_mem_iff h' hsame

/-- Only the members of a list matter for its ascending order. -/
theorem sorted_congr (hsame : ∀ i, i ∈ l ↔ i ∈ l') : sorted l = sorted l' :=
  eq_of_ascending (ascending_sorted l) (ascending_sorted l') fun i => by
    rw [mem_sorted, mem_sorted, hsame]

end HourInterval

namespace Schedule

variable {name : String} {disabled : Bool} {load : Nat} {delay : RetryDelay}
  {pairs pairs' : List (Nat × Nat)} {l : List HourInterval} {s : Schedule} {t : HourInterval}

/-- The same pairs in another order, or repeated, allow the same intervals. -/
theorem intervalsOfPairs_congr (h : intervalsOfPairs pairs = .ok l)
    (hsame : ∀ p, p ∈ pairs' ↔ p ∈ pairs) :
    ∃ l', intervalsOfPairs pairs' = .ok l' ∧ ∀ i, i ∈ l' ↔ i ∈ l := by
  have hrange : ∀ p ∈ pairs', p.1 ≤ 23 ∧ p.2 ≤ 24 := by
    intro p hp
    obtain ⟨these, hthese⟩ := exists_intervalsOfPair h ((hsame p).1 hp)
    exact le_of_intervalsOfPair hthese
  obtain ⟨l', hl'⟩ := intervalsOfPairs_of_le hrange
  refine ⟨l', hl', fun i => ?_⟩
  simp only [mem_intervalsOfPairs hl', mem_intervalsOfPairs h, hsame]

/-- The same pairs in another order, or repeated, describe the same schedule. -/
theorem build_congr (h : build name disabled load delay pairs = .ok s)
    (hsame : ∀ p, p ∈ pairs' ↔ p ∈ pairs) : build name disabled load delay pairs' = .ok s := by
  obtain ⟨hname, l, hl, rfl⟩ := build_eq_ok_iff.1 h
  obtain ⟨l', hl', hmem⟩ := intervalsOfPairs_congr hl hsame
  have hany : (pairs'.any fun p => p.1 == p.2) = pairs.any fun p => p.1 == p.2 := by
    rw [Bool.eq_iff_iff]
    simp only [List.any_eq_true, hsame]
  refine build_eq_ok_iff.2 ⟨hname, l', hl', ?_⟩
  rw [hany, HourInterval.sorted_congr hmem]

/-- The interval of the next day is the earliest one, later by a day. -/
theorem tomorrow_eq_some_iff (h : HourInterval.Normal s.intervals) : s.tomorrow = some t ↔
    ∃ i rest, s.intervals = i :: rest ∧ (∀ j ∈ rest, i.precedes j) ∧
      t = ⟨i.start + 24, i.stop + 24⟩ := by
  have hascending := h.ascending
  rw [tomorrow]
  cases hi : s.intervals with
  | nil => simp
  | cons i rest =>
    rw [hi] at hascending
    have hfirst := (List.pairwise_cons.1 hascending).1
    constructor
    · intro h
      cases h
      exact ⟨i, rest, rfl, hfirst, rfl⟩
    · rintro ⟨j, rest', hj, -, rfl⟩
      cases hj
      rfl

/-- Pairs that are the same up to order and repetition are accepted together and give one and the same
schedule. However a schedule came about, its intervals are not empty, within one day and strictly ascending,
the one of the next day is the first of them, later by 24 hours, and the schedule is built from its own parts,
its intervals taken as pairs. -/
theorem build_canonical :
    (∀ (name : String) (disabled : Bool) (load : Nat) (delay : RetryDelay) (pairs pairs' : List (Nat × Nat))
      (s : Schedule), build name disabled load delay pairs = .ok s → (∀ p, p ∈ pairs' ↔ p ∈ pairs) →
        build name disabled load delay pairs' = .ok s) ∧
    ∀ s, Made s →
      (∀ i ∈ s.intervals, i.start < i.stop ∧ i.stop ≤ 24) ∧
      (s.intervals.Pairwise fun i j => i.start < j.start ∨ i.start = j.start ∧ i.stop < j.stop) ∧
      (∀ t, s.tomorrow = some t ↔ ∃ i rest, s.intervals = i :: rest ∧ (∀ j ∈ rest, i.precedes j) ∧
        t = ⟨i.start + 24, i.stop + 24⟩) ∧
      build s.name s.disabled s.load s.retryDelay (s.intervals.map HourInterval.pair) = .ok s := by
  refine ⟨fun _ _ _ _ _ _ _ => build_congr, fun s hs => ?_⟩
  have hwell := hs.wellFormed
  refine ⟨hwell.intervals.proper, ?_, fun t => tomorrow_eq_some_iff hwell.intervals,
    build_self hwell.name hwell.intervals⟩
  exact hwell.intervals.ascending.imp HourInterval.precedes_iff.1

/-- Two pieces, each of two pairs, and the schedule that was read from a text with a pair that disables it,
enabled again. -/
theorem build_canonical_overlapping :
    build "c" true 60 (.millis 300000) [(22, 2), (0, 2), (22, 0)] = .ok legacy ∧
    build "c" true 60 (.millis 300000) [(22, 0), (22, 2), (0, 2), (22, 2)] = .ok legacy ∧
    parse " c :+60:22-2: 5-5" = .ok legacy ∧
    build "c" false 60 (.millis 300000) [(0, 2), (22, 24)] = .ok (legacy.withDisabled false) := by
  have hbuilt : build "c" true 60 (.millis 300000) [(22, 2), (0, 2), (22, 0)] = .ok legacy := by rfl
  have hread : parse " c :+60:22-2: 5-5" = .ok legacy := by rfl
  refine ⟨hbuilt, ?_, hread, ?_⟩
  · exact build_canonical.1 _ _ _ _ _ _ _ hbuilt fun p => by
      simp only [List.mem_cons, List.not_mem_nil]
      tauto
  · exact (build_canonical.2 _ (.redisabled (.read hread) false)).2.2.2

end Schedule

end BatchTraversal
