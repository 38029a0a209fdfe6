import BatchTraversal.Document.Datum
import BatchTraversal.Text.UpperCase

/-!
# Settings from the environment

A worker reads its settings from variables of its environment. Under a profile every variable is
looked up first with the profile's name (in upper case) and an underscore in front, then as it is. A
variable that is set but empty counts as not set, and a number that cannot be read counts as not
given, even if the variable without the profile's name could be read.
-/

namespace BatchTraversal

/-- The variables of an environment. -/
abbrev Environment := List (String × String)

namespace Environment

/-- The value of a variable that is set and not empty. -/
def given? (env : Environment) (key : String) : Option String :=
  (env.lookup key).filter (· ≠ "")

/-- The value of a variable under a profile. -/
def profiled? (env : Environment) (profile key : String) : Option String :=
  if profile = "" then env.given? key
  else (env.given? (profile ++ "_" ++ key)).or (env.given? key)

/-- The number of 64 bits that a variable gives under a profile. -/
def number? (env : Environment) (profile key : String) : Option Nat :=
  (env.profiled? profile key).bind fun s => Numeral.natural? Numeral.max64 s.toList

end Environment

/-- The settings of a worker process. The numbers, where given, win over those of the manifest. -/
structure WorkerSettings where
  /-- The active profile, empty if there is none. -/
  profile : String := ""
  manifestPath : String
  workerThreads : Option Nat := none
  passIntervalMs : Option Nat := none
  changeDetectionIntervalSecs : Option Nat := none
  shutdownTimeoutMs : Option Nat := none
  /-- The directive that says which log lines are shown. -/
  logFilter : String
  deriving DecidableEq, Repr

namespace WorkerSettings

/-- The settings under a profile. -/
def forProfile (env : Environment) (profile : String) : WorkerSettings :=
  let profile := Text.upperCase profile
  { profile
    manifestPath := (env.profiled? profile "CONDUIT_MANIFEST").getD "config/connectors.toml"
    workerThreads := env.number? profile "CONDUIT_WORKERS"
    passIntervalMs := env.number? profile "CONDUIT_PASS_INTERVAL_MS"
    changeDetectionIntervalSecs := env.number? profile "CONDUIT_DETECT_INTERVAL_SECS"
    shutdownTimeoutMs := env.number? profile "CONDUIT_SHUTDOWN_TIMEOUT_MS"
    logFilter := (env.profiled? profile "CONDUIT_LOG").getD "info" }

/-- The settings under the profile that the environment names. -/
def ofEnvironment (env : Environment) : WorkerSettings :=
  forProfile env (Text.upperCase ((env.lookup "CONDUIT_PROFILE").getD ""))

/-- The profile as it is shown. -/
def profileLabel (s : WorkerSettings) : String := if s.profile = "" then "default" else s.profile

def ofDatum? (d : Datum) : Option WorkerSettings := do
  let source ← FieldSource.of? 3 d
  let profile ← source.required 0 "profile" Datum.text?
  let worker ← source.required 1 "worker" (FieldSource.of? 5)
  let manifestPath ← worker.required 0 "manifest_path" Datum.text?
  let workerThreads ← worker.optional 1 "worker_threads" Datum.natural64?
  let passIntervalMs ← worker.optional 2 "pass_interval_ms" Datum.natural64?
  let changeDetectionIntervalSecs ←
    worker.optional 3 "change_detection_interval_secs" Datum.natural64?
  let shutdownTimeoutMs ← worker.optional 4 "shutdown_timeout_ms" Datum.natural64?
  let logging ← source.required 2 "logging" (FieldSource.of? 1)
  let logFilter ← logging.required 0 "filter" Datum.text?
  return { profile, manifestPath, workerThreads, passIntervalMs, changeDetectionIntervalSecs,
           shutdownTimeoutMs, logFilter }

def toDatum (s : WorkerSettings) : Datum :=
  .record [
    ("profile", .text s.profile),
    ("worker", .record [
      ("manifest_path", .text s.manifestPath),
      ("worker_threads", .ofNat? s.workerThreads),
      ("pass_interval_ms", .ofNat? s.passIntervalMs),
      ("change_detection_interval_secs", .ofNat? s.changeDetectionIntervalSecs),
      ("shutdown_timeout_ms", .ofNat? s.shutdownTimeoutMs)]),
    ("logging", .record [("filter", .text s.logFilter)])]

end WorkerSettings

end BatchTraversal
