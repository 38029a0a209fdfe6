import BatchTraversal.Schedule.Basic

/-!
# Intervals in normal form

However the hours of a schedule were given, its intervals lie within one day, none is empty, and they are
strictly ascending (`HourInterval.Normal`). They are the intervals that each pair of hours allows by itself
(`Schedule.mem_intervalsOfPairs`). A schedule that is built from such intervals, given as pairs again, has
the same ones (`Schedule.intervalsOfPairs_proper`, `HourInterval.sorted_eq_self`), so building is a normal
form.
-/

namespace BatchTraversal

namespace HourInterval

variable {i j k : HourInterval} {l : List HourInterval}

/-- Whether an interval allows an hour, and none beyond the day. -/
def Proper (i : HourInterval) : Prop := i.start < i.stop ∧ i.stop ≤ 24

/-- A proper interval begins within the day. -/
theorem Proper.start_lt (h : i.Proper) : i.start < 24 := Nat.lt_of_lt_of_le h.1 h.2

/-- Whether intervals are in normal form: proper ones in strictly ascending order. -/
structure Normal (l : List HourInterval) : Prop where
  proper : ∀ i ∈ l, i.Proper
  ascending : l.Pairwise fun i j => i.precedes j

/-- Intervals are ordered by where they begin, and then by where they end. -/
theorem precedes_iff : i.precedes j ↔ i.start < j.start ∨ i.start = j.start ∧ i.stop < j.stop := by
  simp [precedes]

/-- The order of the intervals is transitive. -/
theorem precedes_trans (h : i.precedes j) (h' : j.precedes k) : i.precedes k := by
  rw [precedes_iff] at *
  omega

/-- An earlier interval does not begin later. -/
theorem start_le_of_precedes (h : i.precedes j) : i.start ≤ j.start := by
  rw [precedes_iff] at h
  omega

/-- Of two different intervals one precedes the other. -/
theorem precedes_of_not (h : ¬ i.precedes j) (hne : i ≠ j) : j.precedes i := by
  obtain ⟨a, b⟩ := i
  obtain ⟨c, d⟩ := j
  rw [precedes_iff] at *
  rw [ne_eq, mk.injEq] at hne
  dsimp only at *
  omega

/-- An insertion adds its interval and no other. -/
theorem mem_insertInto : i ∈ insertInto j l ↔ i = j ∨ i ∈ l := by
  induction l with
  | nil => simp [insertInto]
  | cons k rest ih =>
    rw [insertInto]
    split
    · exact List.mem_cons
    · split
      · next he => simp [he]
      · rw [List.mem_cons, ih, List.mem_cons]
        exact or_left_comm

/-- An insertion into an ascending list leaves it ascending. An interval that is there is not repeated. -/
theorem ascending_insertInto (h : l.Pairwise fun i j => i.precedes j) :
    (insertInto i l).Pairwise fun i j => i.precedes j := by
  induction l with
  | nil => exact List.pairwise_singleton ..
  | cons k rest ih =>
    obtain ⟨hhead, htail⟩ := List.pairwise_cons.1 h
    rw [insertInto]
    split
    · next hik =>
      refine List.pairwise_cons.2 ⟨fun m hm => ?_, h⟩
      rcases List.mem_cons.1 hm with rfl | hm
      · exact hik
      · exact precedes_trans hik (hhead m hm)
    · split
      · exact h
      · next hik hne =>
        refine List.pairwise_cons.2 ⟨fun m hm => ?_, ih htail⟩
        rcases mem_insertInto.1 hm with rfl | hm
        · exact precedes_of_not hik hne
        · exact hhead m hm

/-- Sorting keeps the intervals, up to repetitions. -/
theorem mem_sorted : i ∈ sorted l ↔ i ∈ l := by
  induction l with
  | nil => rfl
  | cons j rest ih => rw [sorted, List.foldr_cons, mem_insertInto, ← sorted, ih, List.mem_cons]

/-- Sorted intervals are strictly ascending, so none is repeated. -/
theorem ascending_sorted (l : List HourInterval) : (sorted l).Pairwise fun i j => i.precedes j := by
  induction l with
  | nil => exact .nil
  | cons j rest ih => exact ascending_insertInto ih

/-- Proper intervals have a normal form. -/
theorem normal_sorted (h : ∀ i ∈ l, i.Proper) : Normal (sorted l) :=
  ⟨fun i hi => h i (mem_sorted.1 hi), ascending_sorted l⟩

/-- What is in ascending order stays as it is. -/
theorem sorted_eq_self (h : l.Pairwise fun i j => i.precedes j) : sorted l = l := by
  induction l with
  | nil => rfl
  | cons i rest ih =>
    obtain ⟨hhead, htail⟩ := List.pairwise_cons.1 h
    rw [sorted, List.foldr_cons, ← sorted, ih htail]
    cases rest with
    | nil => rfl
    | cons j rest => rw [insertInto, if_pos (hhead j List.mem_cons_self)]

/-- The first of intervals in normal form starts with or before any other. -/
theorem Normal.start_head_le (h : Normal l) (hfirst : l.head? = some j) (hi : i ∈ l) :
    j.start ≤ i.start := by
  obtain ⟨rest, rfl⟩ := List.head?_eq_some_iff.1 hfirst
  rcases List.mem_cons.1 hi with rfl | hi
  · exact Nat.le_refl _
  · exact start_le_of_precedes ((List.pairwise_cons.1 h.ascending).1 i hi)

/-- An interval contains its first hour and not its last. -/
theorem contains_iff {hour : Nat} : i.contains hour ↔ i.start ≤ hour ∧ hour < i.stop := by
  simp [contains]

/-- The hours of an interval as a pair. -/
def pair (i : HourInterval) : Nat × Nat := (i.start, i.stop)

end HourInterval

namespace Schedule

variable {name : String} {disabled : Bool} {load start stop : Nat} {delay : RetryDelay}
  {pairs : List (Nat × Nat)} {l : List HourInterval} {s : Schedule}

/-! ## Pairs and intervals -/

/-- A pair within the hours of a day is not refused. -/
theorem intervalsOfPair_of_le (hstart : start ≤ 23) (hstop : stop ≤ 24) :
    ∃ l, intervalsOfPair start stop = .ok l := by
  rw [intervalsOfPair, if_neg (by omega), if_neg (by omega)]
  split
  · exact ⟨_, rfl⟩
  · dsimp only
    generalize (if stop = 0 then 24 else stop) = stop
    split <;> exact ⟨_, rfl⟩

/-- A pair that is not refused is in range. -/
theorem le_of_intervalsOfPair (h : intervalsOfPair start stop = .ok l) : start ≤ 23 ∧ stop ≤ 24 := by
  rw [intervalsOfPair] at h
  split at h
  · cases h
  split at h
  · cases h
  omega

/-- A pair that is accepted gives proper intervals, also where it goes over midnight. -/
theorem proper_of_intervalsOfPair (h : intervalsOfPair start stop = .ok l) : ∀ i ∈ l, i.Proper := by
  rw [intervalsOfPair] at h
  split at h
  · cases h
  split at h
  · cases h
  split at h
  · cases h
    exact fun i hi => absurd hi List.not_mem_nil
  dsimp only at h
  -- the end that counts is after the beginning of the day, also if midnight was meant
  have hend : (if stop = 0 then 24 else stop) ≤ 24 ∧ 0 < (if stop = 0 then 24 else stop) ∧
      (if stop = 0 then 24 else stop) ≠ start := by
    split <;> omega
  generalize (if stop = 0 then 24 else stop) = e at h hend
  split at h <;> cases h <;> simp [HourInterval.Proper] <;> omega

/-- The pair of a proper interval allows it alone. -/
theorem intervalsOfPair_proper {i : HourInterval} (h : i.Proper) :
    intervalsOfPair i.start i.stop = .ok [i] := by
  obtain ⟨hlt, hle⟩ := h
  rw [intervalsOfPair, if_neg (by omega), if_neg (by omega), if_neg (by omega)]
  dsimp only
  rw [if_neg (show i.stop ≠ 0 by omega), if_neg (by omega)]

/-- Pairs within a day are accepted. -/
theorem intervalsOfPairs_of_le (h : ∀ p ∈ pairs, p.1 ≤ 23 ∧ p.2 ≤ 24) :
    ∃ l, intervalsOfPairs pairs = .ok l := by
  induction pairs with
  | nil => exact ⟨[], rfl⟩
  | cons p rest ih =>
    obtain ⟨hstart, hstop⟩ := h p List.mem_cons_self
    obtain ⟨these, hthese⟩ := intervalsOfPair_of_le hstart hstop
    obtain ⟨those, hthose⟩ := ih fun q hq => h q (List.mem_cons_of_mem p hq)
    exact ⟨these ++ those, by rw [intervalsOfPairs, hthese, hthose]⟩

/-- Pairs are accepted one by one, and their intervals follow each other. -/
theorem intervalsOfPairs_cons {p : Nat × Nat} : intervalsOfPairs (p :: pairs) = .ok l ↔
    ∃ these those, intervalsOfPair p.1 p.2 = .ok these ∧ intervalsOfPairs pairs = .ok those ∧
      l = these ++ those := by
  rw [intervalsOfPairs]
  cases intervalsOfPair p.1 p.2 with
  | error e => simp
  | ok these =>
    cases intervalsOfPairs pairs with
    | error e => simp
    | ok those => simp [eq_comm]

/-- The intervals that pairs allow are those that each one allows by itself. -/
theorem mem_intervalsOfPairs {i : HourInterval} (h : intervalsOfPairs pairs = .ok l) :
    i ∈ l ↔ ∃ p ∈ pairs, ∃ these, intervalsOfPair p.1 p.2 = .ok these ∧ i ∈ these := by
  induction pairs generalizing l with
  | nil =>
    cases h
    simp
  | cons p rest ih =>
    obtain ⟨these, those, hthese, hthose, rfl⟩ := intervalsOfPairs_cons.1 h
    simp [hthese, ih hthose]

/-- Each of several accepted pairs is accepted by itself. -/
theorem exists_intervalsOfPair {p : Nat × Nat} (h : intervalsOfPairs pairs = .ok l) (hp : p ∈ pairs) :
    ∃ these, intervalsOfPair p.1 p.2 = .ok these := by
  induction pairs generalizing l with
  | nil => exact absurd hp List.not_mem_nil
  | cons q rest ih =>
    obtain ⟨these, those, hthese, hthose, -⟩ := intervalsOfPairs_cons.1 h
    rcases List.mem_cons.1 hp with rfl | hp
    · exact ⟨these, hthese⟩
    · exact ih hthose hp

/-- Pairs that are accepted give proper intervals. -/
theorem proper_of_intervalsOfPairs (h : intervalsOfPairs pairs = .ok l) : ∀ i ∈ l, i.Proper := by
  intro i hi
  obtain ⟨p, -, these, hthese, hmem⟩ := (mem_intervalsOfPairs h).1 hi
  exact proper_of_intervalsOfPair hthese i hmem

/-- The pairs of proper intervals allow these and no others. -/
theorem intervalsOfPairs_proper (h : ∀ i ∈ l, i.Proper) :
    intervalsOfPairs (l.map HourInterval.pair) = .ok l := by
  induction l with
  | nil => rfl
  | cons i rest ih =>
    rw [List.map_cons, HourInterval.pair, intervalsOfPairs,
      intervalsOfPair_proper (h i List.mem_cons_self), ih fun j hj => h j (List.mem_cons_of_mem i hj)]
    rfl

/-! ## Built schedules -/

/-- A schedule allows an hour if it is not disabled and some interval contains it. -/
theorem allows_iff {hour : Nat} :
    s.allows hour ↔ s.disabled = false ∧ ∃ i ∈ s.intervals, i.contains hour := by
  simp [allows]


/-- A schedule is built exactly from a valid name and pairs that allow intervals. -/
theorem build_eq_ok_iff : build name disabled load delay pairs = .ok s ↔
    validName name ∧ ∃ l, intervalsOfPairs pairs = .ok l ∧
      s = { name, load, retryDelay := delay
            disabled := disabled || pairs.any fun p => p.1 == p.2
            intervals := HourInterval.sorted l } := by
  rw [build]
  by_cases hname : validName name
  · rw [if_pos hname]
    cases intervalsOfPairs pairs with
    | error e => simp
    | ok l => simp [hname, eq_comm]
  · rw [if_neg hname]
    simp [hname]

/-- A schedule of a valid name and of pairs within a day is built. -/
theorem exists_build (disabled : Bool) (load : Nat) (delay : RetryDelay) (hname : validName name)
    (h : ∀ p ∈ pairs, p.1 ≤ 23 ∧ p.2 ≤ 24) : ∃ s, build name disabled load delay pairs = .ok s := by
  obtain ⟨l, hl⟩ := intervalsOfPairs_of_le h
  exact ⟨_, build_eq_ok_iff.2 ⟨hname, l, hl, rfl⟩⟩

/-- A schedule in normal form is built from its own parts. -/
theorem build_self (hname : validName s.name) (h : HourInterval.Normal s.intervals) :
    build s.name s.disabled s.load s.retryDelay (s.intervals.map HourInterval.pair) = .ok s := by
  refine build_eq_ok_iff.2 ⟨hname, s.intervals, intervalsOfPairs_proper h.proper, ?_⟩
  have hnone : (s.intervals.map HourInterval.pair).any (fun p => p.1 == p.2) = false := by
    refine List.any_eq_false.2 fun p hp => ?_
    obtain ⟨i, hi, rfl⟩ := List.mem_map.1 hp
    have := (h.proper i hi).1
    rw [HourInterval.pair, beq_iff_eq]
    omega
  rw [hnone, Bool.or_false, HourInterval.sorted_eq_self h.ascending]

end Schedule

end BatchTraversal
