import BatchTraversal.Document.Datum
import BatchTraversal.Text.Reader

/-!
# TOML dates and times

A date, a time of day, or both with a letter or a space between them, and then possibly with an offset.
A date has to be one of the calendar; a minute may have a leap second.
-/

namespace BatchTraversal.Toml

open Reader

/-- A number of so many digits within bounds. -/
def fixed (digits low high : Nat) : Reader Nat :=
  refine (exactly Char.isDigit digits) fun ds =>
    let n := Nat.ofDigitChars 10 ds 0
    if low ≤ n ∧ n ≤ high then some n else none

/-- The number of days of a month. -/
def daysIn (year month : Nat) : Nat :=
  if month = 2 then
    if year % 4 = 0 ∧ (year % 100 ≠ 0 ∨ year % 400 = 0) then 29 else 28
  else if month = 4 ∨ month = 6 ∨ month = 9 ∨ month = 11 then 30
  else 31

def date : Reader Unit := do
  let year ← fixed 4 0 9999
  one '-'
  let month ← fixed 2 1 12
  one '-'
  let _ ← fixed 2 1 (daysIn year month)

def timeOfDay : Reader Unit := do
  let _ ← fixed 2 0 23
  one ':'
  let _ ← fixed 2 0 59
  one ':'
  let _ ← fixed 2 0 60
  let _ ← maybe do
    one '.'
    span1 Char.isDigit

def offset : Reader Unit :=
  (do let _ ← char fun c => c == 'Z' || c == 'z') <|> do
    let _ ← char fun c => c == '+' || c == '-'
    let _ ← fixed 2 0 23
    one ':'
    let _ ← fixed 2 0 59

/-- A date, a time or both. -/
def moment : Reader Datum :=
  (do
    date
    let _ ← maybe do
      let _ ← char fun c => c == 'T' || c == 't' || c == ' '
      timeOfDay
      maybe offset
    return .moment) <|> do
    timeOfDay
    return .moment

end BatchTraversal.Toml
