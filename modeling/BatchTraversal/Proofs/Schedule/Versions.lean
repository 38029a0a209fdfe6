import BatchTraversal.Proofs.Schedule.Fields
import BatchTraversal.Proofs.Schedule.Intervals

/-!
# The forms of a schedule text

A text gives a name, a load and pairs of hours, with a delay between the load and the pairs
(`Schedule.withDelay`) or without one (`Schedule.withoutDelay`), and the sign of a disabled schedule
before all that or not (`Schedule.mark`). Whatever stands in it, reading such a text builds the schedule of
just these parts (`Schedule.parse_withDelay`, `Schedule.parse_withoutDelay`), as long as the name is one
that a text can hold. So the three forms that have been in use are told apart (`Schedule.forms_told_apart`).
-/

namespace BatchTraversal.Schedule

/-! ## Writing -/

/-- The sign that a text begins with if the schedule is disabled. -/
def mark (disabled : Bool) : String := if disabled then "#" else ""

/-- Pairs of hours as they stand in a text. -/
def pairsText (pairs : List (Nat × Nat)) : String := ":".intercalate (pairs.map pairText)

/-- A text that gives no delay. -/
def withoutDelay (name : String) (load : Nat) (pairs : List (Nat × Nat)) : String :=
  name ++ ":" ++ toString load ++ ":" ++ pairsText pairs

/-- A text that gives a delay. -/
def withDelay (name : String) (load : Nat) (millis : Int) (pairs : List (Nat × Nat)) : String :=
  name ++ ":" ++ toString load ++ ":" ++ toString millis ++ ":" ++ pairsText pairs

variable {name text : String} {disabled : Bool} {load : Nat} {millis : Int} {pairs : List (Nat × Nat)}
  {f body : List Char} {rest : List (List Char)} {c : Char}

/-! ## The fields of a text -/

/-- The fields of the pairs of hours: a blank one if there are no pairs. -/
def pairFields : List (Nat × Nat) → List (List Char)
  | [] => [[]]
  | p :: rest => (p :: rest).map fun p => (pairText p).toList

/-- Whether a field has only the characters of integers and pairs of hours. -/
def Numeric (f : List Char) : Prop := ∀ c ∈ f, c.isDigit ∨ c = '-'

/-- A numeric field holds no colon. -/
theorem Numeric.colon (h : Numeric f) : ':' ∉ f := fun hc =>
  (h ':' hc).elim (absurd · (by decide)) (absurd · (by decide))

/-- A numeric field holds no white space. -/
theorem Numeric.isBlank (h : Numeric f) : ∀ c ∈ f, Text.isBlank c = false := by
  intro c hc
  rcases h c hc with hdigit | rfl
  · exact Text.isBlank_of_isDigit hdigit
  · decide

/-- A numeric field is trimmed. -/
theorem Numeric.trim_eq (h : Numeric f) : Text.trim f = f :=
  (Text.trimmed_of_forall h.isBlank).trim_eq

/-- The digits of a number are a numeric field. -/
theorem numeric_toDigits (n : Nat) : Numeric (Nat.toDigits 10 n) := fun _ hc =>
  .inl (Numeral.isDigit_of_mem hc)

/-- The pairs of hours are written in numeric fields. -/
theorem numeric_pairFields (h : f ∈ pairFields pairs) : Numeric f := by
  cases pairs with
  | nil =>
    rw [List.mem_singleton.1 h]
    exact fun c hc => absurd hc List.not_mem_nil
  | cons p rest =>
    obtain ⟨q, -, rfl⟩ := List.mem_map.1 h
    exact fun c => mem_pairText

/-- The text of the pairs is their fields with colons between them. -/
theorem toList_pairsText (pairs : List (Nat × Nat)) :
    (pairsText pairs).toList = [':'].intercalate (pairFields pairs) := by
  rw [pairsText, String.toList_intercalate, List.map_map]
  cases pairs with
  | nil => rfl
  | cons p rest => rfl

/-- There is a field even where there are no pairs. -/
theorem pairFields_ne_nil (pairs : List (Nat × Nat)) : pairFields pairs ≠ [] := by
  cases pairs <;> exact List.cons_ne_nil _ _

/-- The text of the pairs splits into their fields. -/
theorem splitOn_pairsText (pairs : List (Nat × Nat)) :
    (pairsText pairs).toList.splitOn ':' = pairFields pairs := by
  rw [toList_pairsText]
  exact List.splitOn_intercalate ':' (fun f hf => (numeric_pairFields hf).colon) (pairFields_ne_nil pairs)

/-- One more field in front. -/
theorem intercalate_cons (f : List Char) (h : rest ≠ []) :
    [':'].intercalate (f :: rest) = f ++ ':' :: [':'].intercalate rest := by
  cases rest with
  | nil => exact absurd rfl h
  | cons g rest => rw [List.intercalate_cons_cons, List.append_assoc]; rfl

/-- Numeric fields with colons between them hold no white space. -/
theorem isBlank_intercalate (h : ∀ f ∈ rest, Numeric f) :
    ∀ c ∈ [':'].intercalate rest, Text.isBlank c = false := by
  induction rest with
  | nil => exact fun c hc => absurd hc List.not_mem_nil
  | cons f rest ih =>
    have hf := (h f List.mem_cons_self).isBlank
    have hrest := ih fun g hg => h g (List.mem_cons_of_mem f hg)
    intro c hc
    rcases Decidable.em (rest = []) with rfl | hne
    · rw [List.intercalate_singleton] at hc
      exact hf c hc
    · rw [intercalate_cons f hne, List.mem_append, List.mem_cons] at hc
      rcases hc with hc | rfl | hc
      · exact hf c hc
      · decide
      · exact hrest c hc

/-! ## Reading the fields -/

/-- The field after the load is no delay if it is a pair of hours, or blank. -/
theorem delayOfFields_pairFields (pairs : List (Nat × Nat)) :
    delayOfFields (pairFields pairs) = .ok (.millis RetryDelay.defaultMillis, pairFields pairs) := by
  cases pairs with
  | nil => rfl
  | cons p rest =>
    have hnumeric : Numeric (pairText p).toList := fun c => mem_pairText
    rw [pairFields, List.map_cons, delayOfFields, hnumeric.trim_eq, signed64?_pairText]

/-- The field after the load is a delay if it is an integer. -/
theorem delayOfFields_toString (hmin : Numeral.minSigned64 ≤ millis) (hmax : millis ≤ Numeral.maxSigned64)
    (rest : List (List Char)) : delayOfFields ((toString millis).toList :: rest) =
      (RetryDelay.ofWire millis).map (·, rest) := by
  have hnumeric : Numeric (toString millis).toList := fun c => Numeral.mem_toString
  rw [delayOfFields, hnumeric.trim_eq, Numeral.signed64?_toString hmin hmax]
  dsimp only
  cases RetryDelay.ofWire millis <;> rfl

/-- The fields that are not blank are those of the pairs. -/
theorem filter_pairFields (pairs : List (Nat × Nat)) :
    ((pairFields pairs).map Text.trim).filter (· ≠ []) = pairs.map fun p => (pairText p).toList := by
  have htrim : (pairFields pairs).map Text.trim = pairFields pairs :=
    (List.map_congr_left fun f hf => (numeric_pairFields hf).trim_eq).trans (List.map_id _)
  rw [htrim]
  cases pairs with
  | nil => rfl
  | cons p rest =>
    refine List.filter_eq_self.2 fun f hf => ?_
    obtain ⟨q, -, rfl⟩ := List.mem_map.1 hf
    rw [toList_pairText]
    simp

/-- The pairs of hours read back from their fields. -/
theorem pairsOfFields_map (h : ∀ p ∈ pairs, p.1 ≤ Numeral.max32 ∧ p.2 ≤ Numeral.max32) :
    pairsOfFields (pairs.map fun p => (pairText p).toList) = .ok pairs := by
  induction pairs with
  | nil => rfl
  | cons p rest ih =>
    obtain ⟨hstart, hstop⟩ := h p List.mem_cons_self
    rw [List.map_cons, pairsOfFields, pairOfField_pairText hstart hstop,
      ih fun q hq => h q (List.mem_cons_of_mem p hq)]

/-! ## Reading a text -/

/-- What the fields behind the load describe, for a name and a load. -/
def ofRest (name : String) (disabled : Bool) (load : Nat) (rest : List (List Char)) :
    Except ScheduleError Schedule :=
  match delayOfFields rest with
  | .error e => .error e
  | .ok (delay, fields) =>
    match pairsOfFields ((fields.map Text.trim).filter (· ≠ [])) with
    | .error e => .error e
    | .ok pairs => build name disabled load delay pairs

/-- What the fields of a line describe. -/
def ofFields (line : List Char) (disabled : Bool) : List (List Char) → Except ScheduleError Schedule
  | nameField :: loadField :: rest =>
    match Numeral.natural? Numeral.max32 (Text.trim loadField) with
    | none => .error (.badLoad (String.ofList loadField))
    | some load => ofRest (String.ofList (Text.trim nameField)) disabled load rest
  | _ => .error (.missingFields (String.ofList line))

/-- A line with the sign of a disabled schedule is read behind the sign. -/
theorem ofLine_marked (body : List Char) :
    ofLine ('#' :: body) = ofFields ('#' :: body) true (body.splitOn ':') := by
  rw [ofLine]
  match body.splitOn ':' with
  | [] => rfl
  | [_] => rfl
  | _ :: _ :: _ => rfl

/-- A line without the sign is read from its beginning. -/
theorem ofLine_unmarked (h : body.head? ≠ some '#') :
    ofLine body = ofFields body false (body.splitOn ':') := by
  rw [ofLine]
  · match body.splitOn ':' with
    | [] => rfl
    | [_] => rfl
    | _ :: _ :: _ => rfl
  · rintro rest rfl
    exact h rfl

/-- Reading a line takes the sign off and looks at the fields. -/
theorem ofLine_mark (disabled : Bool) (h : body.head? ≠ some '#') :
    ofLine ((mark disabled).toList ++ body) =
      ofFields ((mark disabled).toList ++ body) disabled (body.splitOn ':') := by
  cases disabled with
  | true => exact ofLine_marked body
  | false => exact ofLine_unmarked h

/-- A text without white space around it is read as the line that it is. -/
theorem parse_of_trimmed (h : Text.Trimmed text.toList) (hne : text.toList ≠ []) :
    parse text = ofLine text.toList := by
  rw [parse, h.trim_eq]
  cases hcs : text.toList with
  | nil => exact absurd hcs hne
  | cons c cs => rfl

/-- A name is valid if it is not empty, holds no colon and does not begin with the sign of a disabled schedule.
-/
theorem validName_iff :
    validName name ↔ name ≠ "" ∧ ':' ∉ name.toList ∧ name.toList.head? ≠ some '#' := by
  rw [validName, ne_eq, ← String.toList_eq_nil_iff]
  cases name.toList with
  | nil => simp
  | cons c rest => simp [and_comm]

/-- Reading a text whose name has no white space at its ends and whose other fields are numeric. -/
theorem parse_fields (hname : validName name) (htrim : Text.Trimmed name.toList)
    (hload : load ≤ Numeral.max32) (hrest : ∀ f ∈ rest, Numeric f)
    (htext : text.toList = (mark disabled).toList ++
      [':'].intercalate (name.toList :: Nat.toDigits 10 load :: rest)) :
    parse text = ofRest name disabled load rest := by
  obtain ⟨hempty, hcolon, hhash⟩ := validName_iff.1 hname
  have hnil : name.toList ≠ [] := fun h => hempty (String.toList_eq_nil_iff.1 h)
  have hnumeric : ∀ f ∈ Nat.toDigits 10 load :: rest, Numeric f := by
    intro f hf
    rcases List.mem_cons.1 hf with rfl | hf
    · exact numeric_toDigits load
    · exact hrest f hf
  have hbody : [':'].intercalate (name.toList :: Nat.toDigits 10 load :: rest) =
      name.toList ++ ':' :: [':'].intercalate (Nat.toDigits 10 load :: rest) :=
    intercalate_cons _ (List.cons_ne_nil _ _)
  have hfields : ([':'].intercalate (name.toList :: Nat.toDigits 10 load :: rest)).splitOn ':' =
      name.toList :: Nat.toDigits 10 load :: rest := by
    refine List.splitOn_intercalate ':' (fun f hf => ?_) (List.cons_ne_nil _ _)
    rcases List.mem_cons.1 hf with rfl | hf
    · exact hcolon
    · exact (hnumeric f hf).colon
  have hsigned : (mark disabled).toList ++ name.toList ≠ [] :=
    List.append_ne_nil_of_right_ne_nil _ hnil
  have htrimmed : Text.Trimmed text.toList := by
    rw [htext, hbody, ← List.append_assoc]
    refine Text.Trimmed.append ?_ hsigned fun c hc => ?_
    · cases disabled with
      | true => exact htrim.cons (by decide)
      | false => exact htrim
    · rcases List.mem_cons.1 hc with rfl | hc
      · decide
      · exact isBlank_intercalate hnumeric c hc
  have hne : text.toList ≠ [] := by
    rw [htext, hbody, ← List.append_assoc]
    exact List.append_ne_nil_of_left_ne_nil hsigned _
  have hhead : ([':'].intercalate (name.toList :: Nat.toDigits 10 load :: rest)).head? ≠ some '#' := by
    rw [hbody, List.head?_append_of_ne_nil _ hnil]
    exact hhash
  rw [parse_of_trimmed htrimmed hne, htext, ofLine_mark disabled hhead, hfields, ofFields,
    (numeric_toDigits load).trim_eq, Numeral.natural?_toDigits hload, htrim.trim_eq,
    String.ofList_toList]

/-- A text without a delay describes a schedule with the usual one. -/
theorem parse_withoutDelay (disabled : Bool) (hname : validName name)
    (htrim : Text.Trimmed name.toList) (hload : load ≤ Numeral.max32)
    (hpairs : ∀ p ∈ pairs, p.1 ≤ Numeral.max32 ∧ p.2 ≤ Numeral.max32) :
    parse (mark disabled ++ withoutDelay name load pairs) =
      build name disabled load (.millis RetryDelay.defaultMillis) pairs := by
  have hnumeric : ∀ f ∈ pairFields pairs, Numeric f := fun f => numeric_pairFields
  rw [parse_fields hname htrim hload hnumeric, ofRest, delayOfFields_pairFields]
  · dsimp only
    rw [filter_pairFields, pairsOfFields_map hpairs]
  · rw [intercalate_cons _ (List.cons_ne_nil _ _), intercalate_cons _ (pairFields_ne_nil pairs),
      ← toList_pairsText, ← Nat.toList_repr]
    simp [withoutDelay]

/-- A text with a delay describes a schedule with it, if it is one. -/
theorem parse_withDelay (disabled : Bool) (hname : validName name)
    (htrim : Text.Trimmed name.toList) (hload : load ≤ Numeral.max32)
    (hmin : Numeral.minSigned64 ≤ millis) (hmax : millis ≤ Numeral.maxSigned64)
    (hpairs : ∀ p ∈ pairs, p.1 ≤ Numeral.max32 ∧ p.2 ≤ Numeral.max32) :
    parse (mark disabled ++ withDelay name load millis pairs) =
      (RetryDelay.ofWire millis).bind fun delay => build name disabled load delay pairs := by
  have hnumeric : ∀ f ∈ (toString millis).toList :: pairFields pairs, Numeric f := by
    intro f hf
    rcases List.mem_cons.1 hf with rfl | hf
    · exact fun c => Numeral.mem_toString
    · exact numeric_pairFields hf
  rw [parse_fields hname htrim hload hnumeric, ofRest, delayOfFields_toString hmin hmax]
  · cases RetryDelay.ofWire millis with
    | error e => rfl
    | ok delay =>
      show (match pairsOfFields (((pairFields pairs).map Text.trim).filter (· ≠ [])) with
        | .error e => _
        | .ok pairs => _) = _
      rw [filter_pairFields, pairsOfFields_map hpairs]
      rfl
  · rw [intercalate_cons _ (List.cons_ne_nil _ _), intercalate_cons _ (List.cons_ne_nil _ _),
      intercalate_cons _ (pairFields_ne_nil pairs), ← toList_pairsText, ← Nat.toList_repr]
    simp [withDelay]

/-! ## The delay -/

/-- The delay that a number from `-1` on means. -/
def delayOf (millis : Int) : RetryDelay :=
  if millis = -1 then .pollingDisabled else .millis millis.toNat

/-- A delay from -1 on is accepted. -/
theorem ofWire_of_le (h : -1 ≤ millis) : RetryDelay.ofWire millis = .ok (delayOf millis) := by
  rw [RetryDelay.ofWire, delayOf]
  split
  · rfl
  · rw [if_pos (by omega)]

/-- A delay below -1 is refused, with its value in the error. -/
theorem ofWire_of_lt (h : millis < -1) : RetryDelay.ofWire millis = .error (.badRetryDelay millis) := by
  rw [RetryDelay.ofWire, if_neg (by omega), if_neg (by omega)]

/-- Whatever the name, the load and the pairs of hours are, a text without a delay describes the schedule of
just these parts with the usual delay, a text with one from `-1` on the schedule with it, and a text with a
lesser one is refused for it, each with the sign of a disabled schedule or without. The field after the load
is taken for a delay if and only if it was written as one, also if there are no pairs. -/
theorem forms_told_apart {name : String} {load : Nat} {pairs : List (Nat × Nat)} (hname : name ≠ "")
    (htrim : Text.Trimmed name.toList) (hcolon : ':' ∉ name.toList)
    (hhash : name.toList.head? ≠ some '#') (hload : load ≤ Numeral.max32)
    (hpairs : ∀ p ∈ pairs, p.1 ≤ 23 ∧ p.2 ≤ 24) (disabled : Bool) :
    (∃ s, parse (mark disabled ++ withoutDelay name load pairs) = .ok s ∧
      build name disabled load (.millis RetryDelay.defaultMillis) pairs = .ok s) ∧
    (∀ millis, -1 ≤ millis → millis ≤ Numeral.maxSigned64 →
      ∃ s, parse (mark disabled ++ withDelay name load millis pairs) = .ok s ∧
        build name disabled load (delayOf millis) pairs = .ok s) ∧
    (∀ millis, Numeral.minSigned64 ≤ millis → millis < -1 →
      parse (mark disabled ++ withDelay name load millis pairs) = .error (.badRetryDelay millis)) ∧
    let intervals := (pairsText pairs).toList.splitOn ':'
    delayOfFields intervals = .ok (.millis RetryDelay.defaultMillis, intervals) ∧
      ∀ millis, -1 ≤ millis → millis ≤ Numeral.maxSigned64 →
        delayOfFields ((toString millis ++ ":" ++ pairsText pairs).toList.splitOn ':') =
          .ok (delayOf millis, intervals) := by
  have hvalid : validName name := validName_iff.2 ⟨hname, hcolon, hhash⟩
  have hbounds : ∀ p ∈ pairs, p.1 ≤ Numeral.max32 ∧ p.2 ≤ Numeral.max32 := by
    intro p hp
    obtain ⟨hstart, hstop⟩ := hpairs p hp
    exact ⟨Nat.le_trans hstart (by decide), Nat.le_trans hstop (by decide)⟩
  have hmin64 (millis : Int) (h : -1 ≤ millis) : Numeral.minSigned64 ≤ millis :=
    Int.le_trans (by decide) h
  refine ⟨?_, fun millis hmin hmax => ?_, fun millis hmin hlt => ?_, ?_, fun millis hmin hmax => ?_⟩
  · obtain ⟨s, hs⟩ := exists_build disabled load (.millis RetryDelay.defaultMillis) hvalid hpairs
    exact ⟨s, (parse_withoutDelay disabled hvalid htrim hload hbounds).trans hs, hs⟩
  · obtain ⟨s, hs⟩ := exists_build disabled load (delayOf millis) hvalid hpairs
    refine ⟨s, ?_, hs⟩
    rw [parse_withDelay disabled hvalid htrim hload (hmin64 millis hmin) hmax hbounds,
      ofWire_of_le hmin]
    exact hs
  · have hmax : millis ≤ Numeral.maxSigned64 :=
      Int.le_trans (Int.le_of_lt hlt) (by decide)
    rw [parse_withDelay disabled hvalid htrim hload hmin hmax hbounds, ofWire_of_lt hlt]
    rfl
  · rw [splitOn_pairsText]
    exact delayOfFields_pairFields pairs
  -- the first field behind the load is an integer here, which no pair of hours is
  · have hcolons : ∀ f ∈ (toString millis).toList :: pairFields pairs, ':' ∉ f := by
      intro f hf
      rcases List.mem_cons.1 hf with rfl | hf
      · exact Numeric.colon fun c => Numeral.mem_toString
      · exact (numeric_pairFields hf).colon
    have htext : (toString millis ++ ":" ++ pairsText pairs).toList =
        [':'].intercalate ((toString millis).toList :: pairFields pairs) := by
      rw [intercalate_cons _ (pairFields_ne_nil pairs), ← toList_pairsText]
      simp
    rw [htext, List.splitOn_intercalate ':' hcolons (List.cons_ne_nil _ _), splitOn_pairsText,
      delayOfFields_toString (hmin64 millis hmin) hmax, ofWire_of_le hmin]
    rfl

/-- Two intervals, of which the second one goes past midnight, in all three forms, and with a delay that is
refused. -/
theorem forms_told_apart_pastMidnight : (∀ p ∈ [(1, 3), (22, 2)], p.1 ≤ 23 ∧ p.2 ≤ 24) ∧
    (∃ s, parse "c:60:1-3:22-2" = .ok s ∧
      build "c" false 60 (.millis RetryDelay.defaultMillis) [(1, 3), (22, 2)] = .ok s) ∧
    (∃ s, parse "c:60:-1:1-3:22-2" = .ok s ∧
      build "c" false 60 .pollingDisabled [(1, 3), (22, 2)] = .ok s) ∧
    (∃ s, parse "#c:60:1000:1-3:22-2" = .ok s ∧
      build "c" true 60 (.millis 1000) [(1, 3), (22, 2)] = .ok s) ∧
    parse "c:60:-5:1-3:22-2" = .error (.badRetryDelay (-5)) := by
  have hpairs : ∀ p ∈ [(1, 3), (22, 2)], p.1 ≤ 23 ∧ p.2 ≤ 24 := by decide
  have htrim : Text.Trimmed "c".toList := Text.trimmed_of_forall (by simp [Text.isBlank])
  have hform := forms_told_apart (show "c" ≠ "" by decide) htrim (by decide)
    (by decide) (show 60 ≤ Numeral.max32 by decide) hpairs
  obtain ⟨hfirst, hsecond, hrefused, -⟩ := hform false
  obtain ⟨-, hthird, -⟩ := hform true
  have hbare : mark false ++ withoutDelay "c" 60 [(1, 3), (22, 2)] = "c:60:1-3:22-2" := by
    decide +kernel
  have hnever : mark false ++ withDelay "c" 60 (-1) [(1, 3), (22, 2)] = "c:60:-1:1-3:22-2" := by
    decide +kernel
  have hmarked : mark true ++ withDelay "c" 60 1000 [(1, 3), (22, 2)] = "#c:60:1000:1-3:22-2" := by
    decide +kernel
  have hbad : mark false ++ withDelay "c" 60 (-5) [(1, 3), (22, 2)] = "c:60:-5:1-3:22-2" := by
    decide +kernel
  refine ⟨hpairs, ?_, ?_, ?_, ?_⟩
  · rw [hbare] at hfirst
    exact hfirst
  · have h := hsecond (-1) (by decide) (by decide)
    rw [hnever] at h
    exact h
  · have h := hthird 1000 (by decide) (by decide)
    rw [hmarked] at h
    exact h
  · rw [← hbad]
    exact hrefused (-5) (by decide) (by decide)

end BatchTraversal.Schedule
