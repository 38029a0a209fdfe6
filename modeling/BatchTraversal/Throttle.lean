import BatchTraversal.NameMap
import BatchTraversal.Text.Numeral
import BatchTraversal.Text.Quoted
import BatchTraversal.Time.Instant

/-!
# The load throttle

A schedule's load is a ceiling in documents per minute. The throttle spends it in periods: a period
starts with the first call for a connector, and the first call at or after its end starts the next
one. `Throttle.hint` turns what is left of the period's budget into the largest batch that may run
now, `Throttle.fold` counts the items of a batch that ended, and `Throttle.finish` arms the backoff
that the batch's outcome asks for.

A period that would end beyond the last point in time has no end; a call that needs it has no result,
after the connector's entry has been created.
-/

namespace BatchTraversal

/-- What the caller has to do after it reported a finished batch. -/
inductive FinishAction where
  | proceed
  /-- Polling is turned off: the schedule is to be disabled. -/
  | disableSchedule
  deriving DecidableEq, Repr

/-- What the throttle keeps of one connector. -/
structure LoadEntry where
  periodStart : Instant
  /-- The documents counted in the period, a number of 64 bits. -/
  documents : Nat := 0
  /-- The end of the backoff. -/
  delayUntil : Option Instant := none
  /-- Documents per minute over the period so far. -/
  throughput : Float := 0

namespace LoadEntry

/-- The entry with a new period begun if the present one is over; none if the present one has no
end. -/
def roll? (e : LoadEntry) (now : Instant) (period : Duration) : Option LoadEntry :=
  (e.periodStart.after? period).map fun stop =>
    if now.before stop then e else { e with periodStart := now, documents := 0 }

/-- Documents per minute if `documents` were counted in `millis` milliseconds; less than a second
counts as one. -/
def rate (documents : Nat) (millis : Int) : Float :=
  let elapsed := (UInt64.ofNat millis.toNat).toFloat / 1000.0
  (UInt64.ofNat documents).toFloat * 60.0 / (if elapsed < 1.0 then 1.0 else elapsed)

/-- The entry with `count` more documents in its period. -/
def add (e : LoadEntry) (count : Nat) (now : Instant) : LoadEntry :=
  let documents := (e.documents + count) % Numeral.size64
  { e with documents, throughput := rate documents (e.periodStart.millisTo now) }

end LoadEntry

/-- The load accounting of a process. -/
structure Throttle where
  period : Duration
  /-- The largest batch, whatever the budget. -/
  maxBatch : Nat
  entries : NameMap LoadEntry := .empty

namespace Throttle

/-- A throttle without entries. A period too long to move a point in time by is taken as one
minute. -/
def make (period : Duration) (maxBatch : Nat) : Throttle :=
  { period := if period.canShift then period else .ofSeconds 60, maxBatch }

/-- The documents that may be traversed in one period under a load per minute: a number of 64 bits,
without the fraction. -/
def budget (t : Throttle) (load : Nat) : Nat :=
  let seconds := (UInt64.ofNat t.period.millis).toFloat / 1000.0
  ((UInt64.ofNat load).toFloat * seconds / 60.0).toUInt64.toNat

/-- The entry of a connector, a new one if there is none. -/
def entryAt (t : Throttle) (connector : String) (now : Instant) : LoadEntry :=
  (t.entries.find? connector).getD { periodStart := now }

def withEntry (t : Throttle) (connector : String) (e : LoadEntry) : Throttle :=
  { t with entries := t.entries.insert connector e }

/-- Whether the backoff of a connector is still on. -/
def delays (t : Throttle) (connector : String) (now : Instant) : Bool :=
  match (t.entries.find? connector).bind (·.delayUntil) with
  | none => false
  | some stop => now.before stop

/-- The most items the next batch of a connector may have; `0` means that no batch may run now. -/
def hint (t : Throttle) (connector : String) (load : Nat) (now : Instant) :
    Option Nat × Throttle :=
  let entry := t.entryAt connector now
  match entry.roll? now t.period with
  | none => (none, t.withEntry connector entry)
  | some entry => (some (min (t.budget load - entry.documents) t.maxBatch),
      t.withEntry connector entry)

/-- Counts the items of an ended batch, and tells whether that could be done. -/
def fold (t : Throttle) (connector : String) (count : Nat) (now : Instant) : Bool × Throttle :=
  let entry := t.entryAt connector now
  match entry.roll? now t.period with
  | none => (false, t.withEntry connector entry)
  | some entry => (true, t.withEntry connector (entry.add count now))

/-- Arms the backoff of a connector. No delay at all means that polling is turned off, and a delay
that ends beyond the last point in time arms nothing. -/
def finish (t : Throttle) (connector : String) (delay : Option Duration) (now : Instant) :
    FinishAction × Throttle :=
  let entry := t.entryAt connector now
  match delay with
  | none => (.disableSchedule, t.withEntry connector { entry with delayUntil := none })
  | some d =>
    let delayUntil := if d.isZero then none else now.after? d
    (.proceed, t.withEntry connector { entry with delayUntil })

/-- The end of the backoff of a connector, if it is still on. -/
def delayedUntil? (t : Throttle) (connector : String) (now : Instant) : Option Instant :=
  ((t.entries.find? connector).bind (·.delayUntil)).filter now.before

/-- Documents per minute of a connector over its period. -/
def throughput? (t : Throttle) (connector : String) : Option Float :=
  (t.entries.find? connector).map (·.throughput)

/-- Drops what is kept of a connector. -/
def remove (t : Throttle) (connector : String) : Throttle :=
  { t with entries := t.entries.erase connector }

/-- The number of connectors something is kept of. -/
def tracked (t : Throttle) : Nat := t.entries.size

/-- The throttle in words. -/
def shown (t : Throttle) : String :=
  Text.labelled "HostLoadThrottle" [
    ("load_period", Text.labelled "TimeDelta" [("secs", toString t.period.seconds),
      ("nanos", toString t.period.subsecond)]),
    ("max_batch_size", toString t.maxBatch),
    ("tracked", toString t.tracked)]

end Throttle

end BatchTraversal
