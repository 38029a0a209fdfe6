import Mathlib.Order.Bounds.Basic
import BatchTraversal.Proofs.Schedule.RoundTrip

/-!
# The next hour that is allowed

A schedule that does not allow the present hour is looked at for the first start of an interval after it,
be it today or, for the earliest interval alone, tomorrow (`Schedule.openings`). That is enough: between the
present hour and any later one that is allowed some interval starts (`Schedule.exists_opening_le`), at such a
start the hour is allowed (`Schedule.allows_of_mem_openings`), and the starts are ascending, so that the first
one after the present hour is the least. `Schedule.hoursUntilOpen_isLeast` puts this together.
-/

namespace BatchTraversal.Schedule

variable {s : Schedule} {hour n k : Nat}

/-! ## Where intervals start -/

/-- The starts of the intervals, and that of the earliest one on the next day. -/
def openings (s : Schedule) : List Nat := (s.intervals ++ s.tomorrow.toList).map (·.start)

theorem mem_openings : n ∈ s.openings ↔
    (∃ i ∈ s.intervals, i.start = n) ∨ ∃ i ∈ s.intervals.head?, i.start + 24 = n := by
  simp [openings, tomorrow, HourInterval.nextDay]

theorem ascending_openings (h : HourInterval.Normal s.intervals) : s.openings.Pairwise (· ≤ ·) := by
  have htoday : s.intervals.Pairwise fun i j => i.start ≤ j.start :=
    h.ascending.imp HourInterval.start_le_of_precedes
  have htomorrow : s.tomorrow.toList.Pairwise fun i j => i.start ≤ j.start := by
    cases s.tomorrow with
    | none => exact .nil
    | some i => exact List.pairwise_singleton ..
  refine List.pairwise_map.2 (List.pairwise_append.2 ⟨htoday, htomorrow, fun i hi j hj => ?_⟩)
  -- today's intervals start before the day is over
  obtain ⟨first, -, rfl⟩ := Option.map_eq_some_iff.1 (Option.mem_toList.1 hj)
  have hday := (h.proper i hi).start_lt
  show i.start ≤ first.start + 24
  omega

/-- At the start of an interval the hour is allowed. -/
theorem allows_of_mem_openings (h : HourInterval.Normal s.intervals) (hon : s.disabled = false)
    (hn : n ∈ s.openings) : s.allows (n % 24) := by
  have hstart {i : HourInterval} (hi : i ∈ s.intervals) : s.allows i.start :=
    allows_iff.2 ⟨hon, i, hi, HourInterval.contains_iff.2 ⟨Nat.le_refl _, (h.proper i hi).1⟩⟩
  rcases mem_openings.1 hn with ⟨i, hi, rfl⟩ | ⟨i, hi, rfl⟩
  · rw [Nat.mod_eq_of_lt (h.proper i hi).start_lt]
    exact hstart hi
  · have hi := List.mem_of_mem_head? hi
    rw [Nat.add_mod_right, Nat.mod_eq_of_lt (h.proper i hi).start_lt]
    exact hstart hi

/-- Between the present hour, if it is not allowed, and a later one that is, an interval starts. -/
theorem exists_opening_le (h : HourInterval.Normal s.intervals) (hhour : hour < 24)
    (hclosed : ¬ s.allows hour) (hle : hour ≤ n) (hn : s.allows (n % 24)) :
    ∃ m ∈ s.openings, hour < m ∧ m ≤ n := by
  obtain ⟨hon, i, hi, hcontains⟩ := allows_iff.1 hn
  obtain ⟨hstart, hstop⟩ := HourInterval.contains_iff.1 hcontains
  rcases Nat.lt_or_ge n 24 with htoday | hlater
  · rw [Nat.mod_eq_of_lt htoday] at hstart hstop
    refine ⟨i.start, mem_openings.2 (.inl ⟨i, hi, rfl⟩), Nat.lt_of_not_le fun hbefore => ?_, hstart⟩
    -- an interval that had started by now would allow the present hour as well
    refine hclosed (allows_iff.2 ⟨hon, i, hi, HourInterval.contains_iff.2 ⟨hbefore, ?_⟩⟩)
    omega
  · -- the earliest interval starts with or before any other one
    obtain ⟨first, hfirst⟩ : ∃ first, s.intervals.head? = some first :=
      Option.isSome_iff_exists.1 (List.isSome_head?.2 (List.ne_nil_of_mem hi))
    have hleast := h.start_head_le hfirst hi
    have hmod : n % 24 + 24 ≤ n := by omega
    exact ⟨first.start + 24, mem_openings.2 (.inr ⟨first, hfirst, rfl⟩), by omega, by omega⟩

/-! ## The first one after the present hour -/

/-- The first element of an ascending list that has a property is the least one. -/
theorem isLeast_of_find? {l : List Nat} {p : Nat → Bool} (h : l.Pairwise (· ≤ ·))
    (hfind : l.find? p = some n) : IsLeast {m | m ∈ l ∧ p m} n := by
  rw [← List.head?_filter] at hfind
  obtain ⟨rest, hrest⟩ := List.head?_eq_some_iff.1 hfind
  have hascending := h.filter p
  rw [hrest] at hascending
  refine ⟨List.mem_filter.1 (hrest ▸ List.mem_cons_self), fun m hm => ?_⟩
  rcases List.mem_cons.1 (hrest ▸ List.mem_filter.2 hm) with rfl | hm
  · exact Nat.le_refl _
  · exact (List.pairwise_cons.1 hascending).1 m hm

theorem hoursUntilOpen_of_disabled (hoff : s.disabled = true) : s.hoursUntilOpen hour = none := by
  rw [hoursUntilOpen, if_pos hoff]

theorem hoursUntilOpen_of_allows (hopen : s.allows hour) : s.hoursUntilOpen hour = some 0 := by
  rw [hoursUntilOpen, (allows_iff.1 hopen).1, if_neg Bool.false_ne_true, if_pos hopen]

theorem hoursUntilOpen_of_closed (hon : s.disabled = false) (hclosed : ¬ s.allows hour) :
    s.hoursUntilOpen hour = (s.openings.find? (· > hour)).map (· - hour) := by
  rw [hoursUntilOpen, hon, if_neg Bool.false_ne_true, if_neg hclosed, openings]

/-- If a wait is given, it is the shortest one. -/
theorem isLeast_of_hoursUntilOpen (h : HourInterval.Normal s.intervals) (hhour : hour < 24)
    (hk : s.hoursUntilOpen hour = some k) : IsLeast {k | s.allows ((hour + k) % 24)} k := by
  by_cases hoff : s.disabled = true
  · rw [hoursUntilOpen_of_disabled hoff] at hk
    cases hk
  have hon : s.disabled = false := Bool.eq_false_iff.2 hoff
  by_cases hopen : s.allows hour
  · rw [hoursUntilOpen_of_allows hopen] at hk
    cases hk
    refine ⟨?_, fun _ _ => Nat.zero_le _⟩
    show s.allows (hour % 24)
    rwa [Nat.mod_eq_of_lt hhour]
  rw [hoursUntilOpen_of_closed hon hopen] at hk
  obtain ⟨n, hfind, rfl⟩ := Option.map_eq_some_iff.1 hk
  obtain ⟨⟨hn, hafter⟩, hleast⟩ := isLeast_of_find? (ascending_openings h) hfind
  have hafter : hour < n := of_decide_eq_true hafter
  refine ⟨?_, fun k' hk' => ?_⟩
  · show s.allows ((hour + (n - hour)) % 24)
    rw [Nat.add_sub_cancel' (Nat.le_of_lt hafter)]
    exact allows_of_mem_openings h hon hn
  · obtain ⟨m, hm, hlt, hle⟩ := exists_opening_le h hhour hopen (Nat.le_add_right hour k') hk'
    have hnm : n ≤ m := hleast ⟨hm, decide_eq_true hlt⟩
    omega

/-- If no wait is given, there is nothing to wait for. -/
theorem not_allows_of_hoursUntilOpen (h : HourInterval.Normal s.intervals) (hhour : hour < 24)
    (hnone : s.hoursUntilOpen hour = none) (hn : n < 24) : ¬ s.allows n := by
  intro hopen
  have hon := (allows_iff.1 hopen).1
  by_cases hnow : s.allows hour
  · rw [hoursUntilOpen_of_allows hnow] at hnone
    cases hnone
  rw [hoursUntilOpen_of_closed hon hnow, Option.map_eq_none_iff, List.find?_eq_none] at hnone
  -- the hour comes again tomorrow
  have hagain : s.allows ((n + 24) % 24) := by rwa [Nat.add_mod_right, Nat.mod_eq_of_lt hn]
  obtain ⟨m, hm, hlt, -⟩ := exists_opening_le h hhour hnow (by omega) hagain
  exact hnone m hm (decide_eq_true hlt)

/-- However a schedule came about, the hours it gives until it opens are the least number of hours after which
the hour is allowed, on the same day or the next, and it gives none exactly if it allows no hour at all. -/
theorem hoursUntilOpen_isLeast (hs : Made s) (hhour : hour < 24) :
    (∀ k, s.hoursUntilOpen hour = some k ↔ IsLeast {k | s.allows ((hour + k) % 24)} k) ∧
    (s.hoursUntilOpen hour = none ↔ ∀ h < 24, ¬ s.allows h) := by
  have hnormal := hs.wellFormed.intervals
  have hday (k : Nat) : (hour + k) % 24 < 24 := Nat.mod_lt _ (by decide)
  refine ⟨fun k => ⟨isLeast_of_hoursUntilOpen hnormal hhour, fun hleast => ?_⟩,
    fun hnone h hh => not_allows_of_hoursUntilOpen hnormal hhour hnone hh, fun hclosed => ?_⟩
  · cases hk : s.hoursUntilOpen hour with
    | none => exact absurd hleast.1 (not_allows_of_hoursUntilOpen hnormal hhour hk (hday k))
    | some k' => rw [(isLeast_of_hoursUntilOpen hnormal hhour hk).unique hleast]
  · cases hk : s.hoursUntilOpen hour with
    | none => rfl
    | some k => exact absurd (isLeast_of_hoursUntilOpen hnormal hhour hk).1 (hclosed _ (hday k))

/-- Two windows before noon. -/
def mornings : Schedule where
  name := "c"
  disabled := false
  load := 60
  retryDelay := .millis 1000
  intervals := [⟨2, 4⟩, ⟨10, 12⟩]

/-- After noon the first of them opens on the next day, and never if the schedule is disabled. -/
theorem hoursUntilOpen_isLeast_afterNoon : parse "c:60:1000:10-12:2-4" = .ok mornings ∧
    IsLeast {k | mornings.allows ((13 + k) % 24)} 13 ∧
    ∀ h < 24, ¬ (mornings.withDisabled true).allows h := by
  have hread : parse "c:60:1000:10-12:2-4" = .ok mornings := by rfl
  have hmade : Made mornings := .read hread
  refine ⟨hread, ?_, ?_⟩
  · exact ((hoursUntilOpen_isLeast hmade (show 13 < 24 by decide)).1 13).1 rfl
  · exact (hoursUntilOpen_isLeast (.redisabled hmade true) (show 13 < 24 by decide)).2.1 rfl

end BatchTraversal.Schedule
