import BatchTraversal.Batch.Result
import BatchTraversal.Connector.Config
import BatchTraversal.Document.Datum
import BatchTraversal.Schedule.Wire
import BatchTraversal.Stamp

/-!
# The document forms of the domain's values

How schedules, configurations, stamps, results and delays are written as documents, and which
documents are read as one.
-/

namespace BatchTraversal

namespace Schedule

/-- A schedule is a text in its wire form. -/
def ofDatum? (d : Datum) : Option Schedule := d.text?.bind fun s => (parse s).toOption

def toDatum (s : Schedule) : Datum := .text s.render

end Schedule

namespace ConnectorConfig

def ofDatum? (d : Datum) : Option ConnectorConfig := do
  let source ← FieldSource.of? 2 d
  let kind ← source.required 0 "type" Datum.text?
  let params ← source.defaulted 1 "params" [] Datum.texts?
  return { kind, params := .ofList params }

def toDatum (c : ConnectorConfig) : Datum :=
  .record [("type", .text c.kind),
    ("params", .record (c.params.entries.map fun e => (e.1, .text e.2)))]

end ConnectorConfig

namespace TaskStamps

def ofDatum? (d : Datum) : Option TaskStamps := do
  let source ← FieldSource.of? 3 d
  let configuration ← source.optional 0 "configuration" Datum.natural64?
  let schedule ← source.optional 1 "schedule" Datum.natural64?
  let checkpoint ← source.optional 2 "checkpoint" Datum.natural64?
  return { configuration, schedule, checkpoint }

def toDatum (t : TaskStamps) : Datum :=
  .record [("configuration", .ofNat? t.configuration), ("schedule", .ofNat? t.schedule),
    ("checkpoint", .ofNat? t.checkpoint)]

end TaskStamps

namespace DelayPolicy

/-- The name of a policy. -/
def name : DelayPolicy → String
  | immediate => "Immediate"
  | poll => "Poll"
  | error => "Error"

def ofName? (s : String) : Option DelayPolicy :=
  [immediate, poll, error].find? (·.name == s)

def ofDatum? (d : Datum) : Option DelayPolicy :=
  match d.tagged? with
  | some (tag, none) => ofName? tag
  | some (tag, some .null) => ofName? tag
  | _ => none

def toDatum (p : DelayPolicy) : Datum := .text p.name

end DelayPolicy

namespace Duration

/-- A duration is a record of whole seconds of 64 bits and of nanoseconds of 32 bits, which may carry
into the seconds as long as these stay within 64 bits. It has no other fields. -/
def ofDatum? (d : Datum) : Option Duration := do
  let source ← FieldSource.of? 2 d
  if let .byName fields := source then
    guard (fields.all fun f => f.1 == "secs" || f.1 == "nanos")
  let seconds ← source.required 0 "secs" Datum.natural64?
  let nanos ← source.required 1 "nanos" (Datum.natural? Numeral.max32)
  let duration := Duration.of seconds nanos
  guard (duration.seconds ≤ Numeral.max64)
  return duration

def toDatum (d : Duration) : Datum :=
  .record [("secs", .ofNat d.seconds), ("nanos", .ofNat d.subsecond)]

end Duration

namespace BatchResult

def ofDatum? (d : Datum) : Option BatchResult := do
  let source ← FieldSource.of? 3 d
  let policy ← source.required 0 "policy" DelayPolicy.ofDatum?
  let count ← source.required 1 "count" Datum.natural64?
  let elapsed ← source.defaulted 2 "elapsed" Duration.zero Duration.ofDatum?
  return { policy, count, elapsed }

def toDatum (r : BatchResult) : Datum :=
  .record [("policy", r.policy.toDatum), ("count", .ofNat r.count),
    ("elapsed", r.elapsed.toDatum)]

end BatchResult

namespace RetryDelay

def ofDatum? (d : Datum) : Option RetryDelay :=
  match d.tagged? with
  | some ("Millis", some content) => content.natural64?.map millis
  | some ("PollingDisabled", none) => some pollingDisabled
  | some ("PollingDisabled", some .null) => some pollingDisabled
  | _ => none

def toDatum : RetryDelay → Datum
  | millis ms => .record [("Millis", .ofNat ms)]
  | pollingDisabled => .text "PollingDisabled"

end RetryDelay

end BatchTraversal
