import Mathlib.Data.List.Basic
import BatchTraversal.Schedule.Wire

/-!
# The fields of a schedule text

A field is read without the white space around it (`Text.trim`), which leaves what has none at its ends
(`Text.Trimmed`). The numbers, delays and pairs of hours that a text writes have no white space and no
colon in them, and each reads back as what was written (`Numeral.signed64?_toString`,
`Schedule.pairOfField_pairText`). A pair of hours is never an integer (`Schedule.signed64?_pairText`),
which is how the delay of a text is told from its first interval.
-/

namespace BatchTraversal

/-! ## White space -/

namespace Text

variable {cs ds : List Char} {c : Char}

/-- Whether a text has no white space at either end. -/
structure Trimmed (cs : List Char) : Prop where
  head : ∀ c ∈ cs.head?, isBlank c = false
  last : ∀ c ∈ cs.getLast?, isBlank c = false

/-- Trimming leaves what is trimmed. -/
theorem Trimmed.trim_eq (h : Trimmed cs) : trim cs = cs := trim_eq_self h.head h.last

/-- A text of other characters than white space. -/
theorem trimmed_of_forall (h : ∀ c ∈ cs, isBlank c = false) : Trimmed cs :=
  ⟨fun c hc => h c (List.mem_of_mem_head? hc), fun c hc => h c (List.mem_of_mem_getLast? hc)⟩

/-- What is left of a text without its blanks in front begins with no blank. -/
theorem head?_dropWhile (cs : List Char) :
    ∀ c ∈ (cs.dropWhile isBlank).head?, isBlank c = false := by
  intro c hc
  have h := List.head?_dropWhile_not isBlank cs
  rw [Option.mem_def] at hc
  rw [hc] at h
  exact h

/-- Trimming leaves no white space at the ends. -/
theorem trimmed_trim (cs : List Char) : Trimmed (trim cs) := by
  refine ⟨fun c hc => ?_, fun c hc => ?_⟩
  · -- what is dropped at the end leaves the beginning, if it leaves anything
    rw [trim, List.head?_reverse, Option.mem_def, List.getLast?_eq_some_iff] at hc
    obtain ⟨init, hinit⟩ := hc
    have hsuffix := List.dropWhile_suffix (l := (cs.dropWhile isBlank).reverse) isBlank
    rw [hinit, ← List.reverse_prefix, List.reverse_append, List.reverse_reverse] at hsuffix
    obtain ⟨rest, hrest⟩ := hsuffix
    refine head?_dropWhile cs c ?_
    rw [← hrest]
    rfl
  · rw [trim, List.getLast?_reverse] at hc
    exact head?_dropWhile _ c hc

/-- One more character in front. -/
theorem Trimmed.cons (h : Trimmed cs) (hc : isBlank c = false) : Trimmed (c :: cs) := by
  refine ⟨fun d hd => ?_, fun d hd => ?_⟩
  · cases hd
    exact hc
  · cases cs with
    | nil =>
      cases hd
      exact hc
    | cons b bs => exact h.last d hd

/-- A text that begins without white space and goes on with other characters. -/
theorem Trimmed.append (h : Trimmed cs) (hne : cs ≠ []) (hd : ∀ c ∈ ds, isBlank c = false) :
    Trimmed (cs ++ ds) := by
  refine ⟨fun c hc => ?_, fun c hc => ?_⟩
  · rw [List.head?_append_of_ne_nil _ hne] at hc
    exact h.head c hc
  · rw [List.getLast?_append] at hc
    cases hlast : ds.getLast? with
    | none =>
      rw [hlast] at hc
      exact h.last c hc
    | some d =>
      rw [hlast] at hc
      exact hd c (List.mem_of_mem_getLast? (hlast.trans hc))

/-- A digit is no white space. -/
theorem isBlank_of_isDigit (h : c.isDigit) : isBlank c = false := by
  rw [Char.isDigit_iff_toNat] at h
  have hzero : '0'.toNat = 48 := rfl
  have hnine : '9'.toNat = 57 := rfl
  simp only [isBlank, Bool.or_eq_false_iff, Bool.and_eq_false_iff, decide_eq_false_iff_not,
    beq_eq_false_iff_ne]
  omega

end Text

/-! ## Numbers -/

namespace Numeral

variable {cs : List Char} {c : Char} {n : Nat}

/-- A number is written in digits. -/
theorem isDigit_of_mem (h : c ∈ Nat.toDigits 10 n) : c.isDigit :=
  Nat.isDigit_of_mem_toDigits (by decide) (by decide) h

/-- A text with another character than digits is no number. -/
theorem digits?_eq_none (h : c ∈ cs) (hc : c.isDigit = false) : digits? cs = none := by
  refine if_neg fun ⟨_, hall⟩ => ?_
  rw [List.all_eq_true.1 hall c h] at hc
  cases hc

/-- A text that begins with a digit has no sign. -/
theorem integer?_of_head {min max : Int} (h : ∀ c ∈ cs.head?, c.isDigit) :
    integer? min max cs = ((digits? cs).map fun n => (n : Int)).filter fun v => min ≤ v ∧ v ≤ max := by
  cases cs with
  | nil => rfl
  | cons c rest =>
    have hc : c.isDigit := h c rfl
    have hplus : c ≠ '+' := by
      rintro rfl
      exact absurd hc (by decide)
    have hminus : c ≠ '-' := by
      rintro rfl
      exact absurd hc (by decide)
    have hplain : unplus (c :: rest) = c :: rest := by
      unfold unplus
      split
      · next he => exact absurd (List.cons.inj he).1 hplus
      · rfl
    unfold integer?
    split
    · next he => exact absurd (List.cons.inj he).1 hminus
    · rw [hplain]

/-- A number that is not negative is written as its digits. -/
theorem toList_ofNat (n : Nat) : (toString (Int.ofNat n)).toList = Nat.toDigits 10 n := Nat.toList_repr

/-- A negative number is written with a sign before its digits. -/
theorem toList_negSucc (n : Nat) :
    (toString (Int.negSucc n)).toList = '-' :: Nat.toDigits 10 (n + 1) :=
  String.toList_append.trans (congrArg ('-' :: ·) Nat.toList_repr)

/-- An integer of 64 bits reads back from the text that writes it. -/
theorem signed64?_toString {d : Int} (hmin : minSigned64 ≤ d) (hmax : d ≤ maxSigned64) :
    signed64? (toString d).toList = some d := by
  cases d with
  | ofNat n =>
    have hhead : ∀ c ∈ (Nat.toDigits 10 n).head?, c.isDigit := fun c hc =>
      isDigit_of_mem (List.mem_of_mem_head? hc)
    rw [toList_ofNat, signed64?, integer?_of_head hhead, digits?_toDigits]
    exact Option.filter_eq_some_iff.2 ⟨rfl, by simpa using ⟨hmin, hmax⟩⟩
  | negSucc n =>
    rw [toList_negSucc, signed64?, integer?, digits?_toDigits]
    exact Option.filter_eq_some_iff.2 ⟨rfl, by simpa using ⟨hmin, hmax⟩⟩

/-- The characters of a written integer. -/
theorem mem_toString {d : Int} (h : c ∈ (toString d).toList) : c.isDigit ∨ c = '-' := by
  cases d with
  | ofNat n => exact .inl (isDigit_of_mem (toList_ofNat n ▸ h))
  | negSucc n =>
    rw [toList_negSucc] at h
    rcases List.mem_cons.1 h with rfl | h
    · exact .inr rfl
    · exact .inl (isDigit_of_mem h)

end Numeral

/-! ## Pairs of hours -/

namespace Schedule

variable {p : Nat × Nat} {c : Char}

/-- A pair of hours as it stands in a text. -/
def pairText (p : Nat × Nat) : String := toString p.1 ++ "-" ++ toString p.2

/-- A pair of hours is written with a dash between its two numbers. -/
theorem toList_pairText (p : Nat × Nat) :
    (pairText p).toList = Nat.toDigits 10 p.1 ++ '-' :: Nat.toDigits 10 p.2 := by
  rw [pairText, String.toList_append, String.toList_append,
    show (toString p.1).toList = _ from Nat.toList_repr,
    show (toString p.2).toList = _ from Nat.toList_repr, List.append_assoc]
  rfl

/-- A pair of hours is written in digits and a dash. -/
theorem mem_pairText (h : c ∈ (pairText p).toList) : c.isDigit ∨ c = '-' := by
  rw [toList_pairText, List.mem_append, List.mem_cons] at h
  rcases h with h | rfl | h
  · exact .inl (Numeral.isDigit_of_mem h)
  · exact .inr rfl
  · exact .inl (Numeral.isDigit_of_mem h)

/-- A pair of hours is no integer. -/
theorem signed64?_pairText (p : Nat × Nat) : Numeral.signed64? (pairText p).toList = none := by
  have hhead : ∀ c ∈ (pairText p).toList.head?, c.isDigit := by
    intro c hc
    rw [toList_pairText, List.head?_append_of_ne_nil _ Nat.toDigits_ne_nil] at hc
    exact Numeral.isDigit_of_mem (List.mem_of_mem_head? hc)
  have hmem : '-' ∈ (pairText p).toList := by
    rw [toList_pairText]
    exact List.mem_append_right _ List.mem_cons_self
  rw [Numeral.signed64?, Numeral.integer?_of_head hhead, Numeral.digits?_eq_none hmem (by decide)]
  rfl

/-- A pair of hours reads back from the text that writes it. -/
theorem pairOfField_pairText (hstart : p.1 ≤ Numeral.max32) (hstop : p.2 ≤ Numeral.max32) :
    pairOfField (pairText p).toList = .ok p := by
  have hdigits : ∀ c ∈ Nat.toDigits 10 p.1, (c != '-') = true := by
    intro c hc
    rw [bne_iff_ne]
    rintro rfl
    exact absurd (Numeral.isDigit_of_mem hc) (by decide)
  have htrim (n : Nat) : Text.trim (Nat.toDigits 10 n) = Nat.toDigits 10 n :=
    (Text.trimmed_of_forall fun c hc =>
      Text.isBlank_of_isDigit (Numeral.isDigit_of_mem hc)).trim_eq
  rw [toList_pairText, pairOfField, List.dropWhile_append_of_pos hdigits,
    List.takeWhile_append_of_pos hdigits]
  simp [htrim, Numeral.natural?_toDigits hstart, Numeral.natural?_toDigits hstop]

end Schedule

end BatchTraversal
