import BatchTraversal.Time.Duration

/-!
# Points in time and the clock

Time on the wall clock is counted in nanoseconds from the start of 1970 in universal time. The
calendar has a first and a last representable point; moving beyond them has no result. A process
reads a `Clock`: the present point in time and the distance of local time from universal time, which
together give the local hour a schedule is asked about.
-/

namespace BatchTraversal

/-- A point in time: nanoseconds from the start of 1970. -/
structure Instant where
  nanos : Int
  deriving DecidableEq, Repr, Inhabited

namespace Instant

/-- The point in time of whole seconds and nanoseconds. -/
def of (seconds : Int) (nanos : Nat) : Instant := ⟨seconds * 1000000000 + nanos⟩

/-- The whole seconds, rounded down. -/
def seconds (t : Instant) : Int := t.nanos / 1000000000

/-- The nanoseconds beyond the whole seconds. -/
def subsecond (t : Instant) : Nat := (t.nanos % 1000000000).toNat

/-- The last representable point in time. -/
def latest : Instant := of 8210266876799 999999999

/-- The first representable point in time. -/
def earliest : Instant := of (-8334601228800) 0

/-- The point in time `d` after `t`, if there is one. -/
def after? (t : Instant) (d : Duration) : Option Instant :=
  let shifted : Instant := ⟨t.nanos + d.nanos⟩
  if shifted.nanos ≤ latest.nanos then some shifted else none

/-- Whether `t` comes before `u`. -/
def before (t u : Instant) : Bool := t.nanos < u.nanos

/-- The milliseconds from `t` to `u`, toward zero; negative if `u` comes before `t`. -/
def millisTo (t u : Instant) : Int := Int.tdiv (u.nanos - t.nanos) 1000000

theorem after?_eq_some_iff {t u : Instant} {d : Duration} :
    t.after? d = some u ↔ u.nanos = t.nanos + d.nanos ∧ u.nanos ≤ latest.nanos := by
  obtain ⟨t⟩ := t
  obtain ⟨u⟩ := u
  simp only [after?]
  split
  · next h =>
    simp only [Option.some.injEq, mk.injEq]
    exact ⟨fun e => ⟨e.symm, e ▸ h⟩, fun e => e.1.symm⟩
  · next h =>
    simp only [reduceCtorEq, false_iff, not_and]
    exact fun e => e ▸ h

end Instant

/-- What a process sees of time: the present, and how far local time is ahead of universal time, in
seconds. -/
structure Clock where
  now : Instant
  offset : Int := 0
  deriving DecidableEq, Repr, Inhabited

namespace Clock

/-- The hour of local time, from 0 to 23. -/
def hour (c : Clock) : Nat := ((c.now.seconds + c.offset) % 86400 / 3600).toNat

/-- The clock set to `t`. -/
def set (c : Clock) (t : Instant) : Clock := { c with now := t }

/-- The clock `d` later; a duration too long to move a point in time by leaves the clock as it is.
There is no result if the present would pass the last representable point. -/
def advance? (c : Clock) (d : Duration) : Option Clock :=
  if d.canShift then (c.now.after? d).map c.set else some c

end Clock

end BatchTraversal
