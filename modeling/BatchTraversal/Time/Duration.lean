/-!
# Durations

A length of time, counted in nanoseconds. Settings give durations in milliseconds or seconds of 64
bits, so there is a longest one.
-/

namespace BatchTraversal

/-- A length of time in nanoseconds. -/
structure Duration where
  nanos : Nat
  deriving DecidableEq, Repr, Inhabited

namespace Duration

/-- No time at all. -/
def zero : Duration := ⟨0⟩

def ofSeconds (s : Nat) : Duration := ⟨s * 1000000000⟩
def ofMillis (ms : Nat) : Duration := ⟨ms * 1000000⟩

/-- The duration of whole seconds and nanoseconds. -/
def of (seconds nanos : Nat) : Duration := ⟨seconds * 1000000000 + nanos⟩

/-- The whole seconds. -/
def seconds (d : Duration) : Nat := d.nanos / 1000000000

/-- The nanoseconds beyond the whole seconds. -/
def subsecond (d : Duration) : Nat := d.nanos % 1000000000

/-- The whole milliseconds. -/
def millis (d : Duration) : Nat := d.nanos / 1000000

def isZero (d : Duration) : Bool := d.nanos == 0

/-- The longest duration a point in time can be moved by: `2 ^ 63 - 1` milliseconds. -/
def longestShift : Duration := ofMillis 9223372036854775807

/-- Whether a point in time can be moved by `d`. -/
def canShift (d : Duration) : Bool := d.nanos ≤ longestShift.nanos

end Duration

end BatchTraversal
