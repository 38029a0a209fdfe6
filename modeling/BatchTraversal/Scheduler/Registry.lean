import BatchTraversal.Detector.Basic
import BatchTraversal.Scheduler.Coordination
import BatchTraversal.Schedule.Wire

/-!
# Administering connectors

An administrative call on a process stores the new value and then applies it to the live coordinator
of the connector, which is created with the first configuration. What the process learns from the
store about edits of other processes is only applied: the store has the value already.
-/

namespace BatchTraversal

namespace Scheduler

/-- A process with one more coordinator, and which one that is. -/
def addCoordinator (p : Scheduler) (name : String) : CoordinatorId × Scheduler :=
  (p.coordinators.length,
    { p with coordinators := p.coordinators ++ [{ cell := { connector := name } }] })

/-- The live coordinator of a name, a new one if there is none. -/
def coordinatorFor (p : Scheduler) (name : String) : CoordinatorId × Scheduler :=
  match p.coordinator? name with
  | some c => (c, p)
  | none =>
    let (c, p) := p.addCoordinator name
    (c, { p with registry := p.registry.insert name c })

/-- The live coordinator of a name; there has to be one. -/
def require (p : Scheduler) (name : String) : Except Error CoordinatorId :=
  match p.coordinator? name with
  | some c => .ok c
  | none => .error (.connectorNotFound name)

/-- Takes a coordinator out of the registry and removes it. -/
def detach (p : Scheduler) (name : String) (c : CoordinatorId) : Scheduler :=
  ({ p with registry := p.registry.erase name }).remove c

/-- The registry in words. -/
def shownRegistry (p : Scheduler) : String :=
  Text.labelled "ConnectorManager" [("connectors", Text.quotedSet p.names)]

/-- The scheduler in words. -/
def shownScheduler (p : Scheduler) : String :=
  Text.labelled "TraversalScheduler" [("manager", p.shownRegistry),
    ("stopped", Text.truth p.stopped)]

/-- The live coordinators in words, and the process after they were looked at. -/
def shownCoordinators (p : Scheduler) (now : Instant) : String × Scheduler :=
  let (shown, p) := p.registry.entries.foldl (fun (shown, p) (name, c) =>
    let (phase, p) := p.phase c now
    let this := Text.labelled "ConnectorCoordinator" [("name", Text.quoted name),
      ("phase", phase.name)]
    (shown ++ [this], p)) (([] : List String), p)
  ("[" ++ Text.separated shown ++ "]", p)

end Scheduler

namespace Site

/-- Sets the configuration of a connector. A configuration that replaces another one restarts the
traversal. -/
def setConfig (s : Site) (name : String) (config : ConnectorConfig) : Except Error Unit × Site :=
  match s.scheduler.kinds.validate name config with
  | .error e => (.error e, s)
  | .ok () =>
    match s.backend.storeConfiguration name config with
    | (.error e, backend) => (.error e, { s with backend })
    | (.ok (), backend) =>
      let (c, p) := s.scheduler.coordinatorFor name
      let replaced := (p.coordinators[c]?.bind (·.config)).isSome
      match p.setConfiguration c config with
      | (.error e, scheduler) => (.error e, { s with scheduler, backend })
      | (.ok changed, scheduler) =>
        let s := { s with scheduler, backend }
        if changed && replaced then s.restart c else (.ok (), s)

/-- Sets the schedule of a connector, given in its text form. -/
def setSchedule (s : Site) (name : String) (text : String) : Except Error Unit × Site :=
  match Schedule.parse text with
  | .error e => (.error (.malformedSchedule e), s)
  | .ok schedule =>
    match s.scheduler.require name with
    | .error e => (.error e, s)
    | .ok c =>
      match s.backend.storeSchedule name schedule with
      | (.error e, backend) => (.error e, { s with backend })
      | (.ok (), backend) =>
        let (r, scheduler) := s.scheduler.setSchedule c schedule
        (r.map fun _ => (), { s with scheduler, backend })

/-- Removes a connector from the process and from the store. -/
def removeConnector (s : Site) (name : String) : Except Error Unit × Site :=
  match s.scheduler.require name with
  | .error e => (.error e, s)
  | .ok c =>
    let (r, backend) := s.backend.removeTask name
    (r, { s with scheduler := s.scheduler.detach name c, backend })

/-- Restarts the traversal of a connector. -/
def restartConnector (s : Site) (name : String) : Except Error Unit × Site :=
  match s.scheduler.require name with
  | .error e => (.error e, s)
  | .ok c => s.restart c

/-- Applies what the change detector found in the store. A connector that was added gets its stored
schedule too; a schedule that is gone from the store stays in force. -/
def hear (n : Notification) (s : Site) : Except Error Unit × Site :=
  match n with
  | .added name config =>
    let (c, p) := s.scheduler.coordinatorFor name
    match p.setConfiguration c config with
    | (.error e, scheduler) => (.error e, { s with scheduler })
    | (.ok _, scheduler) =>
      match s.backend.readSchedule name with
      | (.error e, backend) => (.error e, { s with scheduler, backend })
      | (.ok none, backend) => (.ok (), { s with scheduler, backend })
      | (.ok (some schedule), backend) =>
        let (r, scheduler) := scheduler.setSchedule c schedule
        (r.map fun _ => (), { s with scheduler, backend })
  | .removed name =>
    match s.scheduler.coordinator? name with
    | none => (.ok (), s)
    | some c => (.ok (), s.withScheduler (s.scheduler.detach name c))
  | .checkpointChanged name checkpoint =>
    match s.scheduler.require name with
    | .error e => (.error e, s)
    | .ok c =>
      let (r, scheduler) := s.scheduler.checkpointChanged c checkpoint
      (r, { s with scheduler })
  | .configurationChanged name config =>
    match s.scheduler.require name with
    | .error e => (.error e, s)
    | .ok c =>
      let (r, scheduler) := s.scheduler.setConfiguration c config
      (r.map fun _ => (), { s with scheduler })
  | .scheduleChanged _ none => (.ok (), s)
  | .scheduleChanged name (some schedule) =>
    match s.scheduler.require name with
    | .error e => (.error e, s)
    | .ok c =>
      let (r, scheduler) := s.scheduler.setSchedule c schedule
      (r.map fun _ => (), { s with scheduler })

/-- The process as a listener of its change detector. -/
def listener (clock : Clock) : Detector.Listener Scheduler := fun n scheduler backend =>
  let (r, s) := hear n { scheduler, backend, clock }
  (r, s.scheduler, s.backend)

/-- Runs the change detector once. -/
def detect (s : Site) : Except Error ChangeSummary × Site :=
  let (r, inventory, scheduler, backend) :=
    Detector.detect (listener s.clock) s.scheduler.inventory s.scheduler s.backend
  (r, { s with scheduler := { scheduler with inventory }, backend })

end Site

end BatchTraversal
