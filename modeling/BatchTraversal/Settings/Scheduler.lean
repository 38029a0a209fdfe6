import BatchTraversal.Document.Datum
import BatchTraversal.Pool.Settings

/-!
# Settings of the scheduler

The sizes, intervals and timeouts of one scheduling process, each with a default, as a manifest gives
them.
-/

namespace BatchTraversal

/-- The settings of one scheduling process. -/
structure SchedulerSettings where
  /-- The number of workers; `0` takes the number of processors. -/
  workerThreads : Nat := 0
  /-- How long a batch may take, in seconds; `0` sets no limit. -/
  maxTaskLifetimeSecs : Nat := 300
  /-- How long a cancelled batch may keep its worker. -/
  graceTimeoutMs : Nat := 5000
  monitorIntervalMs : Nat := 250
  /-- The pause between two scheduling passes. -/
  passIntervalMs : Nat := 1000
  /-- The pause between two looks for changes in the store. -/
  changeDetectionIntervalSecs : Nat := 30
  /-- The backoff after a batch that failed. -/
  errorBackoffMs : Nat := 300000
  /-- The period over which a load per minute is budgeted. -/
  loadPeriodMs : Nat := 60000
  /-- The largest batch. -/
  maxBatchSize : Nat := 500
  /-- How long a shutdown waits for batches in flight. -/
  shutdownTimeoutMs : Nat := 10000
  deriving DecidableEq, Repr, Inhabited

namespace SchedulerSettings

/-- The fields of the document form, in order, with the setting that each gives. -/
def ofDatum? (d : Datum) : Option SchedulerSettings := do
  let source ← FieldSource.of? 10 d
  let number (place : Nat) (name : String) (default : Nat) : Option Nat :=
    source.defaulted place name default Datum.natural64?
  let standard : SchedulerSettings := {}
  let workerThreads ← number 0 "worker_threads" standard.workerThreads
  let maxTaskLifetimeSecs ← number 1 "max_task_lifetime_secs" standard.maxTaskLifetimeSecs
  let graceTimeoutMs ← number 2 "grace_timeout_ms" standard.graceTimeoutMs
  let monitorIntervalMs ← number 3 "monitor_interval_ms" standard.monitorIntervalMs
  let passIntervalMs ← number 4 "pass_interval_ms" standard.passIntervalMs
  let changeDetectionIntervalSecs ←
    number 5 "change_detection_interval_secs" standard.changeDetectionIntervalSecs
  let errorBackoffMs ← number 6 "error_backoff_ms" standard.errorBackoffMs
  let loadPeriodMs ← number 7 "load_period_ms" standard.loadPeriodMs
  let maxBatchSize ← number 8 "max_batch_size" standard.maxBatchSize
  let shutdownTimeoutMs ← number 9 "shutdown_timeout_ms" standard.shutdownTimeoutMs
  return { workerThreads, maxTaskLifetimeSecs, graceTimeoutMs, monitorIntervalMs, passIntervalMs,
           changeDetectionIntervalSecs, errorBackoffMs, loadPeriodMs, maxBatchSize,
           shutdownTimeoutMs }

def toDatum (s : SchedulerSettings) : Datum :=
  .record [
    ("worker_threads", .ofNat s.workerThreads),
    ("max_task_lifetime_secs", .ofNat s.maxTaskLifetimeSecs),
    ("grace_timeout_ms", .ofNat s.graceTimeoutMs),
    ("monitor_interval_ms", .ofNat s.monitorIntervalMs),
    ("pass_interval_ms", .ofNat s.passIntervalMs),
    ("change_detection_interval_secs", .ofNat s.changeDetectionIntervalSecs),
    ("error_backoff_ms", .ofNat s.errorBackoffMs),
    ("load_period_ms", .ofNat s.loadPeriodMs),
    ("max_batch_size", .ofNat s.maxBatchSize),
    ("shutdown_timeout_ms", .ofNat s.shutdownTimeoutMs)]

/-- The number of workers on a machine with so many processors. -/
def workers (s : SchedulerSettings) (processors : Nat) : Nat :=
  if s.workerThreads = 0 then processors else s.workerThreads

def passInterval (s : SchedulerSettings) : Duration := .ofMillis s.passIntervalMs

def changeDetectionInterval (s : SchedulerSettings) : Duration :=
  .ofSeconds s.changeDetectionIntervalSecs

def errorBackoff (s : SchedulerSettings) : Duration := .ofMillis s.errorBackoffMs

def loadPeriod (s : SchedulerSettings) : Duration := .ofMillis s.loadPeriodMs

def shutdownTimeout (s : SchedulerSettings) : Duration := .ofMillis s.shutdownTimeoutMs

/-- The settings of the pool that runs the batches. -/
def pool (s : SchedulerSettings) (processors : Nat) : PoolSettings where
  name := "traversal"
  workers := s.workers processors
  lifetime :=
    if s.maxTaskLifetimeSecs = 0 then none else some (.ofSeconds s.maxTaskLifetimeSecs)
  grace := .ofMillis s.graceTimeoutMs
  monitorInterval := .ofMillis s.monitorIntervalMs

end SchedulerSettings

end BatchTraversal
