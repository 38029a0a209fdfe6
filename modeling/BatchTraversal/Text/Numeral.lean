/-!
# Decimal integers within bounds

A number in a schedule, a parameter or a setting is a decimal integer: ASCII digits, at least one,
with an optional plus sign, and a minus sign where negative numbers are allowed. A number outside the
range of its field is refused. There is no white space in a number, so its field is trimmed before.
-/

namespace BatchTraversal.Numeral

/-- The largest number of 32 bits. -/
def max32 : Nat := 4294967295

/-- The largest number of 64 bits. -/
def max64 : Nat := 18446744073709551615

/-- The count of the numbers of 64 bits, at which counting wraps around. -/
def size64 : Nat := 18446744073709551616

/-- The smallest number of 64 bits with a sign. -/
def minSigned64 : Int := -9223372036854775808

/-- The largest number of 64 bits with a sign. -/
def maxSigned64 : Int := 9223372036854775807

/-- The number written by digits alone. -/
def digits? (cs : List Char) : Option Nat :=
  if cs ≠ [] ∧ cs.all Char.isDigit then some (Nat.ofDigitChars 10 cs 0) else none

/-- Drops one plus sign. -/
def unplus : List Char → List Char
  | '+' :: rest => rest
  | cs => cs

/-- The number from `0` to `max` that the text writes. -/
def natural? (max : Nat) (cs : List Char) : Option Nat :=
  (digits? (unplus cs)).filter (· ≤ max)

/-- The number from `min` to `max` that the text writes. -/
def integer? (min max : Int) (cs : List Char) : Option Int :=
  let value : Option Int := match cs with
    | '-' :: rest => (digits? rest).map fun n => -(n : Int)
    | _ => (digits? (unplus cs)).map fun n => (n : Int)
  value.filter fun v => min ≤ v ∧ v ≤ max

/-- The number of 64 bits with a sign that the text writes. -/
def signed64? (cs : List Char) : Option Int := integer? minSigned64 maxSigned64 cs

/-- The integer of 64 bits with a sign that has the same bits as `n`. -/
def asSigned64 (n : Nat) : Int := Int.bmod n size64

/-- Whether digits, at least one, make up the text, with one point among them or none. -/
def isDecimalFraction (cs : List Char) : Bool :=
  let whole := cs.takeWhile Char.isDigit
  match cs.dropWhile Char.isDigit with
  | [] => !whole.isEmpty
  | '.' :: fraction => fraction.all Char.isDigit && !(whole.isEmpty && fraction.isEmpty)
  | _ => false

/-- Whether the text writes a number: with or without a sign, a point and an exponent, or one of the
words for infinity and for what is no number. -/
def isDecimal (cs : List Char) : Bool :=
  let unsigned : List Char → List Char
    | '+' :: rest | '-' :: rest => rest
    | cs => cs
  let isPlain (c : Char) : Bool := c != 'e' && c != 'E'
  let cs := unsigned cs
  ["inf", "infinity", "nan"].contains (String.ofList (cs.map Char.toLower)) ||
    (isDecimalFraction (cs.takeWhile isPlain) &&
      match cs.dropWhile isPlain with
      | [] => true
      | _ :: exponent => !(unsigned exponent).isEmpty && (unsigned exponent).all Char.isDigit)

/-- The digits of a natural number read back as that number. -/
theorem digits?_toDigits (n : Nat) : digits? (Nat.toDigits 10 n) = some n := by
  have hne : Nat.toDigits 10 n ≠ [] := Nat.toDigits_ne_nil
  have hall : (Nat.toDigits 10 n).all Char.isDigit = true :=
    List.all_eq_true.2 fun c hc => Nat.isDigit_of_mem_toDigits (by decide) (by decide) hc
  rw [digits?, if_pos ⟨hne, hall⟩, Nat.ofDigitChars_ten_toDigits]

/-- Digits have no sign. -/
theorem unplus_toDigits (n : Nat) : unplus (Nat.toDigits 10 n) = Nat.toDigits 10 n := by
  unfold unplus
  split
  · next rest he =>
    have hdigit := Nat.isDigit_of_mem_toDigits (b := 10) (n := n) (c := '+') (by decide) (by decide)
      (he ▸ List.mem_cons_self)
    exact absurd hdigit (by decide)
  · rfl

/-- A natural number within the bound reads back from its digits. -/
theorem natural?_toDigits {max n : Nat} (h : n ≤ max) : natural? max (Nat.toDigits 10 n) = some n := by
  rw [natural?, unplus_toDigits, digits?_toDigits]
  simp [h]

/-- A natural number within the bound reads back from the text that writes it. -/
theorem natural?_toString {max n : Nat} (h : n ≤ max) :
    natural? max (toString n).toList = some n := by
  rw [show (toString n).toList = Nat.toDigits 10 n from Nat.toList_repr, natural?_toDigits h]

end BatchTraversal.Numeral
