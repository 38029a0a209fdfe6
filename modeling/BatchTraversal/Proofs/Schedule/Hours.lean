import BatchTraversal.Proofs.Schedule.Intervals

/-!
# The hours that pairs allow

A pair of hours says by itself which hours of the day it allows (`Schedule.PairAllows`): those from its
start up to its end, which may be past midnight. A schedule that is built from pairs keeps intervals
instead, cut at midnight, sorted and each once. `Schedule.allows_iff_pairs` says that this loses nothing and
adds nothing: the schedule allows just the hours that some pair allows, unless it is disabled, be it by its
flag or by a pair whose ends are equal. Pairs are refused exactly if one of their hours is out of range, and
for the first one that is (`Schedule.FirstOutOfRange`).
-/

namespace BatchTraversal.Schedule

variable {start stop hour : Nat} {p : Nat × Nat} {pairs : List (Nat × Nat)} {l : List HourInterval}
  {e : ScheduleError}

/-! ## What a pair says -/

/-- The hour at which a pair ends: an end of `0` is the midnight at the end of the day. -/
def endHour (stop : Nat) : Nat := if stop = 0 then 24 else stop

/-- Whether a pair with different ends allows an hour of the day. If it ends before it starts, it goes on
past midnight. -/
def PairAllows (p : Nat × Nat) (hour : Nat) : Prop :=
  p.1 < endHour p.2 ∧ p.1 ≤ hour ∧ hour < endHour p.2 ∨
    endHour p.2 < p.1 ∧ (p.1 ≤ hour ∨ hour < endHour p.2)

instance (p : Nat × Nat) (hour : Nat) : Decidable (PairAllows p hour) :=
  inferInstanceAs (Decidable (_ ∨ _))

/-- The intervals of a pair contain the hours of the day that it allows, none if its ends are equal. -/
theorem contains_of_intervalsOfPair (h : intervalsOfPair start stop = .ok l) (hhour : hour < 24) :
    (∃ i ∈ l, i.contains hour) ↔ start ≠ stop ∧ PairAllows (start, stop) hour := by
  rw [intervalsOfPair] at h
  split at h
  · cases h
  split at h
  · cases h
  split at h
  · next heq =>
    cases h
    simp [heq]
  next hne =>
  rw [PairAllows]
  -- the end that counts is the one of the pair's meaning
  change (if endHour stop < start then Except.ok [⟨start, 24⟩, ⟨0, endHour stop⟩]
    else .ok [⟨start, endHour stop⟩]) = Except.ok l at h
  have hend : endHour stop ≠ start := by
    rw [endHour]
    split <;> omega
  split at h <;> cases h <;> simp [HourInterval.contains_iff] <;> omega

/-- The intervals of several pairs contain the hours that one of them allows. -/
theorem contains_of_intervalsOfPairs (h : intervalsOfPairs pairs = .ok l) (hhour : hour < 24) :
    (∃ i ∈ l, i.contains hour) ↔ ∃ p ∈ pairs, p.1 ≠ p.2 ∧ PairAllows p hour := by
  constructor
  · rintro ⟨i, hi, hcontains⟩
    obtain ⟨p, hp, these, hthese, hmem⟩ := (mem_intervalsOfPairs h).1 hi
    exact ⟨p, hp, (contains_of_intervalsOfPair hthese hhour).1 ⟨i, hmem, hcontains⟩⟩
  · rintro ⟨p, hp, hallows⟩
    obtain ⟨these, hthese⟩ := exists_intervalsOfPair h hp
    obtain ⟨i, hmem, hcontains⟩ := (contains_of_intervalsOfPair hthese hhour).2 hallows
    exact ⟨i, (mem_intervalsOfPairs h).2 ⟨p, hp, these, hthese, hmem⟩, hcontains⟩

/-! ## Pairs that are refused -/

/-- Whether a pair has an hour out of range, and `hour` is the first one. A day starts at an hour up to `23`
and ends at one up to `24`. -/
def Oversteps (p : Nat × Nat) (hour : Nat) : Prop :=
  23 < p.1 ∧ hour = p.1 ∨ p.1 ≤ 23 ∧ 24 < p.2 ∧ hour = p.2

/-- Whether `hour` is the first one among all hours of the pairs that is out of range. -/
def FirstOutOfRange (pairs : List (Nat × Nat)) (hour : Nat) : Prop :=
  ∃ before p after, pairs = before ++ p :: after ∧ (∀ q ∈ before, q.1 ≤ 23 ∧ q.2 ≤ 24) ∧
    Oversteps p hour

theorem firstOutOfRange_cons : FirstOutOfRange (p :: pairs) hour ↔
    Oversteps p hour ∨ (p.1 ≤ 23 ∧ p.2 ≤ 24) ∧ FirstOutOfRange pairs hour := by
  constructor
  · rintro ⟨before, q, after, heq, hbefore, hq⟩
    cases before with
    | nil =>
      obtain ⟨rfl, -⟩ := List.cons.inj heq
      exact .inl hq
    | cons r before =>
      obtain ⟨rfl, htail⟩ := List.cons.inj heq
      obtain ⟨hp, hrest⟩ := List.forall_mem_cons.1 hbefore
      exact .inr ⟨hp, before, q, after, htail, hrest, hq⟩
  · rintro (hp | ⟨hp, before, q, after, rfl, hbefore, hq⟩)
    · exact ⟨[], p, pairs, rfl, List.forall_mem_nil _, hp⟩
    · exact ⟨p :: before, q, after, rfl, List.forall_mem_cons.2 ⟨hp, hbefore⟩, hq⟩

theorem Oversteps.not_le (h : Oversteps p hour) : ¬ (p.1 ≤ 23 ∧ p.2 ≤ 24) := by
  rcases h with ⟨hstart, -⟩ | ⟨-, hstop, -⟩ <;> omega

theorem intervalsOfPair_eq_error_iff : intervalsOfPair start stop = .error e ↔
    ∃ hour, e = .hourOutOfRange hour ∧ Oversteps (start, stop) hour := by
  by_cases hrange : start ≤ 23 ∧ stop ≤ 24
  · obtain ⟨l, hl⟩ := intervalsOfPair_of_le hrange.1 hrange.2
    rw [hl]
    exact iff_of_false (fun h => by cases h) fun ⟨_, _, hover⟩ => hover.not_le hrange
  · rw [intervalsOfPair]
    by_cases hstart : 23 < start
    · simp [Oversteps, hstart, Nat.not_le.2 hstart, eq_comm]
    · have hstop : 24 < stop := by omega
      simp [Oversteps, hstart, hstop, Nat.not_lt.1 hstart, eq_comm]

/-- Pairs are refused for the first of their hours that is out of range. -/
theorem intervalsOfPairs_eq_error_iff : intervalsOfPairs pairs = .error e ↔
    ∃ hour, e = .hourOutOfRange hour ∧ FirstOutOfRange pairs hour := by
  induction pairs with
  | nil => simp [intervalsOfPairs, FirstOutOfRange]
  | cons p rest ih =>
    simp only [firstOutOfRange_cons]
    rw [intervalsOfPairs]
    cases hthese : intervalsOfPair p.1 p.2 with
    | error e' =>
      -- the first pair is refused, and the others do not count
      obtain ⟨_, -, hover⟩ := intervalsOfPair_eq_error_iff.1 hthese
      have hsame : (Except.error e' : Except ScheduleError (List HourInterval)) = .error e ↔
          intervalsOfPair p.1 p.2 = .error e := by rw [hthese]
      simp only [hover.not_le, false_and, or_false]
      exact hsame.trans intervalsOfPair_eq_error_iff
    | ok these =>
      have hp := le_of_intervalsOfPair hthese
      have hover (hour : Nat) : ¬ Oversteps p hour := fun h => h.not_le hp
      simp only [hover, hp, false_or, and_self, true_and]
      rw [← ih]
      cases intervalsOfPairs rest <;> simp

/-! ## What a schedule says -/

/-- Whatever the pairs are, the schedule that is built from them allows an hour of the day exactly if it was
not to be disabled, no pair has equal ends, and some pair allows the hour. Under a valid name the pairs are
refused exactly if one of them is out of range, and then for the first of all their hours that is. -/
theorem allows_iff_pairs (name : String) (disabled : Bool) (load : Nat) (delay : RetryDelay)
    (pairs : List (Nat × Nat)) :
    (∀ s, build name disabled load delay pairs = .ok s → ∀ hour < 24,
      (s.allows hour ↔
        disabled = false ∧ (∀ p ∈ pairs, p.1 ≠ p.2) ∧ ∃ p ∈ pairs, PairAllows p hour)) ∧
    (validName name →
      ((∃ s, build name disabled load delay pairs = .ok s) ↔ ∀ p ∈ pairs, p.1 ≤ 23 ∧ p.2 ≤ 24) ∧
      ∀ e, build name disabled load delay pairs = .error e ↔
        ∃ hour, e = .hourOutOfRange hour ∧ FirstOutOfRange pairs hour) := by
  refine ⟨fun s hs hour hhour => ?_, fun hname => ⟨⟨fun ⟨s, hs⟩ p hp => ?_, ?_⟩, fun e => ?_⟩⟩
  · obtain ⟨-, l, hl, rfl⟩ := build_eq_ok_iff.1 hs
    have hnone : (pairs.any fun p => p.1 == p.2) = false ↔ ∀ p ∈ pairs, p.1 ≠ p.2 := by simp
    simp only [allows_iff, Bool.or_eq_false_iff, hnone, and_assoc, HourInterval.mem_sorted,
      contains_of_intervalsOfPairs hl hhour]
    -- with no equal ends among the pairs, none of them is left out
    refine and_congr_right fun _ => and_congr_right fun hne => exists_congr fun p => ?_
    exact and_congr_right fun hp => and_iff_right (hne p hp)
  · obtain ⟨-, l, hl, -⟩ := build_eq_ok_iff.1 hs
    obtain ⟨these, hthese⟩ := exists_intervalsOfPair hl hp
    exact le_of_intervalsOfPair hthese
  · exact exists_build disabled load delay hname
  · rw [← intervalsOfPairs_eq_error_iff, build, if_pos hname]
    cases intervalsOfPairs pairs <;> simp

/-- A pair that goes past midnight, one that overlaps with it and one that ends at midnight. Of two hours out
of range in one pair the start is named. -/
theorem allows_iff_pairs_overlapping :
    (∃ s, build "a" false 60 (.millis 1000) [(22, 2), (1, 3), (20, 0)] = .ok s ∧
      s.allows 2 ∧ s.allows 23 ∧ ¬ s.allows 3) ∧
    (∃ s, build "a" false 60 (.millis 1000) [(22, 2), (5, 5)] = .ok s ∧ ¬ s.allows 23) ∧
    build "a" false 60 (.millis 1000) [(22, 2), (24, 25), (30, 1)] = .error (.hourOutOfRange 24) := by
  have hname : validName "a" := by decide
  refine ⟨?_, ?_, ?_⟩
  · obtain ⟨hallows, hform⟩ := allows_iff_pairs "a" false 60 (.millis 1000) [(22, 2), (1, 3), (20, 0)]
    obtain ⟨s, hs⟩ := (hform hname).1.2 (by decide)
    refine ⟨s, hs, ?_, ?_, ?_⟩
    · exact (hallows s hs 2 (by decide)).2 (by decide)
    · exact (hallows s hs 23 (by decide)).2 (by decide)
    · exact mt (hallows s hs 3 (by decide)).1 (by decide)
  · obtain ⟨hallows, hform⟩ := allows_iff_pairs "a" false 60 (.millis 1000) [(22, 2), (5, 5)]
    obtain ⟨s, hs⟩ := (hform hname).1.2 (by decide)
    exact ⟨s, hs, mt (hallows s hs 23 (by decide)).1 (by decide)⟩
  · obtain ⟨-, hform⟩ := allows_iff_pairs "a" false 60 (.millis 1000) [(22, 2), (24, 25), (30, 1)]
    exact ((hform hname).2 _).2
      ⟨24, rfl, [(22, 2)], (24, 25), [(30, 1)], rfl, by decide, .inl ⟨by decide, rfl⟩⟩

end BatchTraversal.Schedule
