import BatchTraversal.Proofs.Schedule.Versions

/-!
# Writing a schedule and reading it back

The text form of a schedule (`Schedule.render`) is a text with a delay, whose pairs of hours are the
intervals in normal form. Reading it gives the schedule back exactly if its name has no white space at its
ends, which reading takes off, and its delay is one of 63 bits (`RetryDelay.Fits`), since a greater one is
written as a negative number. What has been read from a text satisfies both, so for such schedules writing
is a normal form of all the texts that describe them (`Schedule.parse_render_iff`).
-/

namespace BatchTraversal

namespace RetryDelay

variable {d : RetryDelay} {ms : Nat}

/-- Whether the number of the delay stays what it is in 64 bits with a sign. -/
def Fits : RetryDelay → Prop
  | millis ms => ms ≤ Numeral.maxSigned64
  | pollingDisabled => True

theorem toWire_of_le (h : ms ≤ Numeral.maxSigned64) : toWire (millis ms) = ms := by
  rw [Numeral.maxSigned64] at h
  rw [toWire, Numeral.asSigned64, Numeral.size64]
  exact Int.bmod_eq_of_le_mul_two (by omega) (by omega)

/-- A delay that fits reads back from its number, which has 64 bits with a sign. -/
theorem ofWire_toWire (h : d.Fits) : ofWire d.toWire = .ok d ∧
    Numeral.minSigned64 ≤ d.toWire ∧ d.toWire ≤ Numeral.maxSigned64 := by
  cases d with
  | pollingDisabled => exact ⟨rfl, by decide, by decide⟩
  | millis ms =>
    have hms : ms ≤ Numeral.maxSigned64 := h
    rw [toWire_of_le hms, ofWire, if_neg (by omega), if_pos (by omega), Int.toNat_natCast,
      Numeral.minSigned64]
    exact ⟨rfl, by omega, hms⟩

theorem fits_of_ofWire {value : Int} (h : ofWire value = .ok d) (hmax : value ≤ Numeral.maxSigned64) :
    d.Fits := by
  rw [Numeral.maxSigned64] at hmax
  rw [ofWire] at h
  split at h
  · cases h
    trivial
  · split at h
    · cases h
      show (value.toNat : Int) ≤ Numeral.maxSigned64
      rw [Numeral.maxSigned64]
      omega
    · cases h

end RetryDelay

namespace Schedule

variable {s : Schedule} {text : String} {disabled : Bool} {delay : RetryDelay} {line : List Char}
  {fields rest : List (List Char)}

/-! ## Schedules that can come about -/

/-- Whether a schedule can come about: it is built from parts of the sizes that their fields have, it is read
from a text, or its flag is replaced. -/
inductive Made : Schedule → Prop
  | built {name : String} {disabled : Bool} {load : Nat} {delay : RetryDelay}
      {pairs : List (Nat × Nat)} {s : Schedule} (hload : load ≤ Numeral.max32)
      (hdelay : ∀ ms, delay = .millis ms → ms ≤ Numeral.max64)
      (h : build name disabled load delay pairs = .ok s) : Made s
  | read {text : String} {s : Schedule} (h : parse text = .ok s) : Made s
  | redisabled {s : Schedule} (h : Made s) (disabled : Bool) : Made (s.withDisabled disabled)

/-- What holds of a schedule however it came about. -/
structure WellFormed (s : Schedule) : Prop where
  name : validName s.name
  load : s.load ≤ Numeral.max32
  intervals : HourInterval.Normal s.intervals

theorem wellFormed_of_build {name : String} {load : Nat} {pairs : List (Nat × Nat)}
    (hload : load ≤ Numeral.max32) (h : build name disabled load delay pairs = .ok s) :
    s.WellFormed := by
  obtain ⟨hname, l, hl, rfl⟩ := build_eq_ok_iff.1 h
  exact ⟨hname, hload, HourInterval.normal_sorted (proper_of_intervalsOfPairs hl)⟩

/-! ## What has been read -/

theorem fits_of_delayOfFields (h : delayOfFields rest = .ok (delay, fields)) : delay.Fits := by
  have hdefault : RetryDelay.Fits (.millis RetryDelay.defaultMillis) := by
    show ((300000 : Nat) : Int) ≤ Numeral.maxSigned64
    decide
  cases rest with
  | nil =>
    cases h
    exact hdefault
  | cons field rest =>
    rw [delayOfFields] at h
    split at h
    · cases h
      exact hdefault
    · next value hvalue =>
      split at h
      · cases h
      · next d hd =>
        cases h
        exact RetryDelay.fits_of_ofWire hd (of_decide_eq_true (Option.filter_eq_some_iff.1 hvalue).2).2

/-- A schedule that the fields of a line describe is built from a trimmed name, a load within its bound and a
delay that fits. -/
theorem ofFields_eq_ok (h : ofFields line disabled fields = .ok s) :
    ∃ nameField load delay pairs, load ≤ Numeral.max32 ∧ delay.Fits ∧
      build (String.ofList (Text.trim nameField)) disabled load delay pairs = .ok s := by
  match fields, h with
  | nameField :: loadField :: rest, h =>
    rw [ofFields] at h
    split at h
    · cases h
    next load hload =>
    rw [ofRest] at h
    split at h
    · cases h
    next delay fields hdelay =>
    split at h
    · cases h
    next pairs hpairs =>
    exact ⟨nameField, load, delay, pairs, of_decide_eq_true (Option.filter_eq_some_iff.1 hload).2,
      fits_of_delayOfFields hdelay, h⟩

/-- So is a schedule that has been read from a text. -/
theorem parse_eq_ok (h : parse text = .ok s) : ∃ nameField disabled load delay pairs,
    load ≤ Numeral.max32 ∧ delay.Fits ∧
      build (String.ofList (Text.trim nameField)) disabled load delay pairs = .ok s := by
  rw [parse] at h
  split at h
  · cases h
  generalize Text.trim text.toList = line at h
  rcases Decidable.em (line.head? = some '#') with hhash | hhash
  · obtain ⟨body, rfl⟩ := List.head?_eq_some_iff.1 hhash
    rw [ofLine_marked] at h
    obtain ⟨nameField, hread⟩ := ofFields_eq_ok h
    exact ⟨nameField, true, hread⟩
  · rw [ofLine_unmarked hhash] at h
    obtain ⟨nameField, hread⟩ := ofFields_eq_ok h
    exact ⟨nameField, false, hread⟩

/-- A name that has been read has no white space at its ends, and a delay fits. -/
theorem trimmed_of_parse (h : parse text = .ok s) :
    s.WellFormed ∧ Text.Trimmed s.name.toList ∧ s.retryDelay.Fits := by
  obtain ⟨nameField, disabled, load, delay, pairs, hload, hfits, hbuild⟩ := parse_eq_ok h
  refine ⟨wellFormed_of_build hload hbuild, ?_⟩
  obtain ⟨-, l, -, rfl⟩ := build_eq_ok_iff.1 hbuild
  refine ⟨?_, hfits⟩
  rw [String.toList_ofList]
  exact Text.trimmed_trim nameField

theorem Made.wellFormed (h : Made s) : s.WellFormed := by
  induction h with
  | built hload _ h => exact wellFormed_of_build hload h
  | read h => exact (trimmed_of_parse h).1
  | redisabled _ _ ih => exact ⟨ih.name, ih.load, ih.intervals⟩

/-! ## What is written -/

/-- The text form gives the delay, and the intervals as pairs. -/
theorem render_eq (s : Schedule) : s.render =
    mark s.disabled ++ withDelay s.name s.load s.retryDelay.toWire (s.intervals.map HourInterval.pair) := by
  rw [render, withDelay, pairsText, List.map_map, mark]
  simp only [String.append_assoc]
  rfl

theorem parse_render (h : s.WellFormed) (htrim : Text.Trimmed s.name.toList)
    (hfits : s.retryDelay.Fits) : parse s.render = .ok s := by
  obtain ⟨hdelay, hmin, hmax⟩ := RetryDelay.ofWire_toWire hfits
  have hpairs : ∀ p ∈ s.intervals.map HourInterval.pair, p.1 ≤ Numeral.max32 ∧ p.2 ≤ Numeral.max32 := by
    intro p hp
    obtain ⟨i, hi, rfl⟩ := List.mem_map.1 hp
    obtain ⟨hlt, hle⟩ := h.intervals.proper i hi
    rw [HourInterval.pair, Numeral.max32]
    omega
  rw [render_eq, parse_withDelay s.disabled h.name htrim h.load hmin hmax hpairs, hdelay]
  exact build_self h.name h.intervals

/-- A schedule reads back from its text form exactly if its name has no white space at either end and its
delay is of 63 bits, or polling is turned off. All schedules that were read from a text are such, so writing
one loses nothing, and two texts describe one schedule exactly if what they describe has one text form. -/
theorem parse_render_iff :
    (∀ s, Made s → (parse s.render = .ok s ↔ Text.Trimmed s.name.toList ∧ s.retryDelay.Fits)) ∧
    (∀ text s, parse text = .ok s →
      Text.Trimmed s.name.toList ∧ s.retryDelay.Fits ∧ parse s.render = .ok s) ∧
    ∀ text text' s s', parse text = .ok s → parse text' = .ok s' → (s.render = s'.render ↔ s = s') := by
  have hread (text : String) (s : Schedule) (h : parse text = .ok s) :
      Text.Trimmed s.name.toList ∧ s.retryDelay.Fits ∧ parse s.render = .ok s := by
    obtain ⟨hwell, htrim, hfits⟩ := trimmed_of_parse h
    exact ⟨htrim, hfits, parse_render hwell htrim hfits⟩
  refine ⟨fun s hs => ⟨fun h => ?_, fun ⟨htrim, hfits⟩ => ?_⟩, hread, fun text text' s s' h h' => ?_⟩
  · obtain ⟨htrim, hfits, -⟩ := hread _ s h
    exact ⟨htrim, hfits⟩
  · exact parse_render hs.wellFormed htrim hfits
  · refine ⟨fun hsame => ?_, congrArg render⟩
    have hs := (hread text s h).2.2
    rw [hsame, (hread text' s' h').2.2] at hs
    exact (Except.ok.inj hs).symm

/-- A schedule whose name begins with a space. -/
def padded : Schedule where
  name := " a"
  disabled := false
  load := 60
  retryDelay := .millis 1000
  intervals := [⟨1, 3⟩]

/-- A schedule that was read from a text without a delay, with an interval that goes past midnight and a pair
that disables it. -/
def legacy : Schedule where
  name := "c"
  disabled := true
  load := 60
  retryDelay := .millis 300000
  intervals := [⟨0, 2⟩, ⟨22, 24⟩]

/-- The space is lost, and nothing of what was read. -/
theorem parse_render_iff_padded : Made padded ∧ parse padded.render ≠ .ok padded ∧
    parse " c :+60:22-2: 5-5" = .ok legacy ∧ parse legacy.render = .ok legacy := by
  have hbuilt : build " a" false 60 (.millis 1000) [(1, 3)] = .ok padded := rfl
  have hmade : Made padded := by
    refine .built (by decide) (fun ms hms => ?_) hbuilt
    cases hms
    decide
  have hread : parse " c :+60:22-2: 5-5" = .ok legacy := by rfl
  refine ⟨hmade, fun h => ?_, hread, (parse_render_iff.2.1 _ _ hread).2.2⟩
  have hblank := ((parse_render_iff.1 padded hmade).1 h).1.head ' ' rfl
  revert hblank
  decide

end Schedule

end BatchTraversal
