import BatchTraversal.Scheduler.Registry
import BatchTraversal.Settings.EnvironmentFile
import BatchTraversal.Worker.CommandLine
import BatchTraversal.Worker.Directory
import BatchTraversal.Worker.LogFilter
import BatchTraversal.Worker.Manifest

/-!
# Starting a worker

A worker finds out from its command line and its environment what it is to do, reads its manifest, and
gives every connector its configuration and its schedule. The first thing that goes wrong ends it.
-/

namespace BatchTraversal

/-- The errors that led to an error, and it itself in front. -/
def Error.chain : Error → List String
  | .malformedSchedule cause => [(Error.malformedSchedule cause).message, cause.message]
  | .inputOutput reason => [(Error.inputOutput reason).message, reason]
  | e => [e.message]

namespace Worker

/-- What a worker is to do. -/
structure Duty where
  /-- Where its manifest is. -/
  manifestPath : String
  /-- Whether it makes a single scheduling pass. -/
  once : Bool
  filter : LogFilter
  settings : WorkerSettings

/-- What the arguments and the environment ask of a worker. -/
def Duty.of (env : Environment) (arguments : List String) : Except Dismissal Duty :=
  (CommandLine.parse (env.lookup "RUST_LOG") arguments).bind fun c =>
    let settings := WorkerSettings.ofEnvironment env
    match LogFilter.ofText? (c.log.getD settings.logFilter) with
    | none => .error .torn
    | some filter =>
      .ok { manifestPath := c.manifest.getD settings.manifestPath, once := c.once, filter, settings }

/-- Why a worker ends before it has begun to work. -/
inductive Failure where
  | reading (path reason : String)
  | parsing (path : String)
  | starting (cause : Error)
  | configuring (connector : String) (cause : Error)
  | scheduling (connector : String) (cause : Error)
  deriving DecidableEq, Repr

/-- A failure in words, and what caused it. -/
def Failure.chain : Failure → List String
  | reading path reason => ["reading manifest " ++ path, reason]
  | parsing path => ["parsing manifest " ++ path]
  | starting cause => cause.chain
  | configuring connector cause => ("configuring connector " ++ connector) :: cause.chain
  | scheduling connector cause => ("scheduling connector " ++ connector) :: cause.chain

/-- The manifest found under a path, with what is told about it. If there is none, there are no
connectors. -/
def manifestOf (path : String) : Found → Except Failure (Manifest × Notice)
  | .nothing => .ok ({}, .manifestMissing path)
  | .unreadable reason => .error (.reading path reason)
  | .file text =>
    match Manifest.parse? text with
    | none => .error (.parsing path)
    | some m => .ok (m, .manifestLoaded path m.connectors.length)

/-- Gives a connector its configuration and its schedule. -/
def addConnector (s : Site) (e : ManifestEntry) : Except Failure Site :=
  match s.setConfig e.name e.config with
  | (.error cause, _) => .error (.configuring e.name cause)
  | (.ok (), s) =>
    match e.schedule with
    | none => .ok s
    | some text =>
      match s.setSchedule e.name text with
      | (.error cause, _) => .error (.scheduling e.name cause)
      | (.ok (), s) => .ok s

/-- A process with the connectors of a manifest, on a machine with so many processors. The change
detector has seen what they wrote to the store. -/
def siteOf (m : Manifest) (processors : Nat) (clock : Clock) : Except Failure Site :=
  match Scheduler.start m.settings (m.settings.pool processors) (.ofList [.synthetic]) with
  | .error cause => .error (.starting cause)
  | .ok scheduler =>
    match m.connectors.foldlM addConnector { scheduler, backend := {}, clock } with
    | .error failure => .error failure
    | .ok s =>
      match s.detect with
      | (.error cause, _) => .error (.starting cause)
      | (.ok _, s) => .ok s

/-- The notice of a worker that begins to work. -/
def startNotice (s : Site) : Notice :=
  .starting s.scheduler.names.length s.scheduler.pool.settings.workers

end Worker

end BatchTraversal
