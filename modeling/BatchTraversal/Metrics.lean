import BatchTraversal.Batch.Result
import BatchTraversal.NameMap
import BatchTraversal.Time.Instant

/-!
# Metrics of the scheduling loop

What an observer can read of the scheduler: the figures of the last pass, and per connector the
results delivered so far, the throughput, the backoff and the hours until the schedule opens.
-/

namespace BatchTraversal

/-- The figures of the scheduling loop. -/
structure Metrics where
  /-- Clock time of the last pass. -/
  now : Option Instant := none
  passes : Nat := 0
  /-- Connectors known at the last pass. -/
  known : Nat := 0
  /-- Batches in flight at the end of the last pass. -/
  running : Nat := 0
  /-- Batches the last pass started. -/
  started : Nat := 0
  liveWorkers : Nat := 0
  busyWorkers : Nat := 0
  /-- Busy workers over configured workers. -/
  utilization : Float := 0
  /-- Results delivered, by connector. -/
  completed : NameMap Nat := .empty
  /-- Items in the results delivered, by connector. -/
  items : NameMap Nat := .empty
  /-- Mean duration of the batches, by connector. -/
  average : NameMap Duration := .empty
  /-- The last result, by connector. -/
  last : NameMap BatchResult := .empty
  /-- Documents per minute, by connector. -/
  throughput : NameMap Float := .empty
  /-- End of the active backoff, by connector. -/
  delayedUntil : NameMap Instant := .empty
  /-- Hours until the schedule opens, by connector; those that never open are absent. -/
  hoursUntilOpen : NameMap Nat := .empty

namespace Metrics

instance : Inhabited Metrics := ⟨{}⟩

/-- The double nearest to a natural number, ties to even: the leading 64 bits decide, where the last
of them also stands for everything below. -/
def nearestFloat (n : Nat) : Float :=
  if n < Numeral.size64 then (UInt64.ofNat n).toFloat
  else
    let shift := n.log2 - 63
    let lead := n >>> shift
    let lead := if lead <<< shift = n then lead else lead ||| 1
    (UInt64.ofNat lead).toFloat.scaleB shift

/-- The mean after one more duration, when it is the `count`-th. -/
def nextAverage (previous : Duration) (elapsed : Duration) (count : Nat) : Duration :=
  if count = 1 then elapsed
  else
    let before := nearestFloat previous.nanos
    let mean := before + (nearestFloat elapsed.nanos - before) / nearestFloat count
    ⟨mean.toUInt64.toNat⟩

/-- Counts a delivered result. -/
def record (m : Metrics) (connector : String) (result : BatchResult) : Metrics :=
  let count := ((m.completed.find? connector).getD 0 + 1) % Numeral.size64
  { m with
    completed := m.completed.insert connector count
    items := m.items.insert connector
      (((m.items.find? connector).getD 0 + result.count) % Numeral.size64)
    last := m.last.insert connector result
    average := m.average.insert connector
      (nextAverage ((m.average.find? connector).getD .zero) result.elapsed count) }

/-- Notes the throughput, the backoff and the hours until the schedule opens of a connector. -/
def observe (m : Metrics) (connector : String) (rate : Option Float) (stop : Option Instant)
    (hours : Option Nat) : Metrics :=
  { m with
    throughput := rate.elim m.throughput (m.throughput.insert connector)
    delayedUntil := stop.elim m.delayedUntil (m.delayedUntil.insert connector)
    hoursUntilOpen := hours.elim m.hoursUntilOpen (m.hoursUntilOpen.insert connector) }

/-- Everything noted of one connector. -/
structure Row where
  completed : Option Nat
  items : Option Nat
  average : Option Duration
  last : Option BatchResult
  throughput : Option Float
  delayedUntil : Option Instant
  hoursUntilOpen : Option Nat

/-- Everything noted of a connector. -/
def row (m : Metrics) (connector : String) : Row where
  completed := m.completed.find? connector
  items := m.items.find? connector
  average := m.average.find? connector
  last := m.last.find? connector
  throughput := m.throughput.find? connector
  delayedUntil := m.delayedUntil.find? connector
  hoursUntilOpen := m.hoursUntilOpen.find? connector

/-- The connectors that something is noted of. -/
def names (m : Metrics) : List String :=
  m.completed.keys ++ m.items.keys ++ m.average.keys ++ m.last.keys ++ m.throughput.keys ++
    m.delayedUntil.keys ++ m.hoursUntilOpen.keys

/-- Everything noted, by connector. -/
def rows (m : Metrics) : NameMap Row := .ofList (m.names.map fun n => (n, m.row n))

/-- Drops everything noted of a connector. -/
def forget (m : Metrics) (connector : String) : Metrics :=
  { m with
    completed := m.completed.erase connector
    items := m.items.erase connector
    average := m.average.erase connector
    last := m.last.erase connector
    throughput := m.throughput.erase connector
    delayedUntil := m.delayedUntil.erase connector
    hoursUntilOpen := m.hoursUntilOpen.erase connector }

end Metrics

end BatchTraversal
