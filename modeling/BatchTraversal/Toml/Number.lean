import BatchTraversal.Document.Datum
import BatchTraversal.Toml.Text

/-!
# TOML numbers

Integers are decimal with an optional sign and without leading zeros, or hexadecimal, octal or binary;
they have 64 bits. A number with a fraction or an exponent is a float, and so are the infinities and
what is not a number. Between digits there may be single underscores. A float too large for a double is
refused, unless it is negative.
-/

namespace BatchTraversal.Toml

open Reader

/-- Digits of a class with single underscores between them. -/
def digits (isDigit : Char → Bool) : Reader (List Char) := do
  let first ← char isDigit
  let more ← many do
    let _ ← maybe (one '_')
    char isDigit
  return first :: more

def sign : Reader (Option Char) := maybe (char fun c => c == '+' || c == '-')

/-- A decimal integer as its sign and its digits. -/
def decimalInteger : Reader (Bool × List Char) := do
  let s ← sign
  let ds ← (do one '0'; return ['0']) <|> digits Char.isDigit
  return (s == some '-', ds)

/-- The value of decimal digits. -/
def decimalValue (ds : List Char) : Nat := Nat.ofDigitChars 10 ds 0

/-- The integers of 64 bits. -/
def integer64? (n : Int) : Option Datum :=
  if Numeral.minSigned64 ≤ n ∧ n ≤ Numeral.maxSigned64 then some (.integer n) else none

/-- An integer in base 16, 8 or 2. -/
def baseInteger (letter : Char) (base : Nat) : Reader Datum := do
  word ['0', letter]
  let isDigit (c : Char) : Bool := (hexDigit? c).any (· < base)
  refine (digits isDigit) fun ds =>
    integer64? (ds.foldl (fun n c => base * n + (hexDigit? c).getD 0) 0 : Nat)

def integer : Reader Datum :=
  baseInteger 'x' 16 <|> baseInteger 'o' 8 <|> baseInteger 'b' 2 <|>
    refine decimalInteger fun (negative, ds) =>
      integer64? (if negative then -decimalValue ds else decimalValue ds)

/-- Whether the double nearest to `m · 10 ^ e` is an infinity: the value is at least halfway between
the largest double and the next power of two. -/
def overflows (m : Nat) (e : Int) : Bool :=
  let size := (Nat.toDigits 10 m).length + e
  if m = 0 || size < 300 then false
  else if 320 < size then true
  else
    let limit := Nat.pow 2 1024 - Nat.pow 2 970
    decide (limit * Nat.pow 10 (-e).toNat ≤ m * Nat.pow 10 e.toNat)

def exponent : Reader Int := do
  let _ ← char fun c => c == 'e' || c == 'E'
  let s ← sign
  let n := decimalValue (← digits Char.isDigit)
  return if s == some '-' then -(n : Int) else n

def fraction : Reader (List Char) := do
  one '.'
  digits Char.isDigit

/-- A float written in digits. -/
def finiteFloat : Reader Datum := do
  let (negative, whole) ← decimalInteger
  let (part, e) ← (do return (([] : List Char), ← exponent)) <|> do
    let part ← fraction
    return (part, (← maybe exponent).getD 0)
  if !negative && overflows (decimalValue (whole ++ part)) (e - part.length) then failure
  else return .decimal

/-- An infinity, or what is not a number. -/
def specialFloat : Reader Datum := do
  let _ ← sign
  word ['i', 'n', 'f'] <|> word ['n', 'a', 'n']
  return .decimal

/-- A number. -/
def number : Reader Datum := finiteFloat <|> specialFloat <|> integer

end BatchTraversal.Toml
