import BatchTraversal.Connector.Config
import BatchTraversal.Settings.Environment
import BatchTraversal.Settings.Scheduler
import BatchTraversal.Toml.Document

/-!
# Manifests

A manifest is a TOML document that lists the connectors a worker serves, with the settings of its
scheduler. Settings from the environment win over those of the manifest.
-/

namespace BatchTraversal

/-- A connector of a manifest. -/
structure ManifestEntry where
  name : String
  kind : String
  /-- The schedule in its wire form. -/
  schedule : Option String := none
  params : List (String × String) := []
  deriving DecidableEq, Repr

/-- The connectors a worker serves and the settings of its scheduler. -/
structure Manifest where
  settings : SchedulerSettings := {}
  connectors : List ManifestEntry := []
  deriving DecidableEq, Repr, Inhabited

namespace ManifestEntry

/-- A connector given by a table, or by an array of which only the first four items count. -/
def ofDatum? (d : Datum) : Option ManifestEntry := do
  let source ← FieldSource.of? 4 (d.firstItems 4)
  let name ← source.required 0 "name" Datum.text?
  let kind ← source.required 1 "type" Datum.text?
  let schedule ← source.optional 2 "schedule" Datum.text?
  let params ← source.defaulted 3 "params" [] Datum.texts?
  return { name, kind, schedule, params }

/-- The configuration of the connector. -/
def config (e : ManifestEntry) : ConnectorConfig := { kind := e.kind, params := .ofList e.params }

end ManifestEntry

namespace Manifest

/-- The connectors that a document lists. -/
def connectorsOf? (d : Datum) : Option (List ManifestEntry) :=
  d.items?.bind fun items => items.mapM ManifestEntry.ofDatum?

def ofDatum? (d : Datum) : Option Manifest := do
  let source ← FieldSource.of? 2 d
  let settings ← source.defaulted 0 "scheduler" {} fun d =>
    SchedulerSettings.ofDatum? (d.firstItems 10)
  let connectors ← source.defaulted 1 "connector" [] connectorsOf?
  return { settings, connectors }

/-- The manifest that a text stands for. -/
def parse? (source : String) : Option Manifest := (Toml.parse? source).bind ofDatum?

/-- The manifest with the numbers that the environment gives. -/
def override (m : Manifest) (s : WorkerSettings) : Manifest :=
  { m with settings := { m.settings with
      workerThreads := s.workerThreads.getD m.settings.workerThreads
      passIntervalMs := s.passIntervalMs.getD m.settings.passIntervalMs
      changeDetectionIntervalSecs :=
        s.changeDetectionIntervalSecs.getD m.settings.changeDetectionIntervalSecs
      shutdownTimeoutMs := s.shutdownTimeoutMs.getD m.settings.shutdownTimeoutMs } }

end Manifest

end BatchTraversal
