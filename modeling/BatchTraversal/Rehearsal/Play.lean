import BatchTraversal.Rehearsal.Jobs
import BatchTraversal.Rehearsal.Script
import BatchTraversal.World

/-!
# Rehearsing a world

A play is a world whose external adapters follow scripts. After every step the processes settle:
workers take batches, batches go on, calls that do not wait answer, and the deadline monitors look
when something is due.
-/

namespace BatchTraversal.Rehearsal

/-- What a rehearsal keeps of one process. -/
structure Cast where
  /-- The calls to come, by connector. -/
  scripts : NameMap (List ScriptedCall) := .empty
  /-- The calls that adapters are at, by batch. -/
  engaged : List (TaskId × ScriptedCall) := []
  /-- The batches whose calls were let go. -/
  letGo : List TaskId := []
  /-- Coordinators that are kept under a label. -/
  held : NameMap CoordinatorId := .empty

/-- One process of a play. -/
structure Scene where
  site : Site
  cast : Cast

namespace Scene

def scheduler (s : Scene) : Scheduler := s.site.scheduler

def withScheduler (s : Scene) (p : Scheduler) : Scene := { s with site := s.site.withScheduler p }

/-- The batch of a task with its traverser. -/
def run? (s : Scene) (t : TaskId) : Option (Batch × Traverser) :=
  match s.scheduler.batch? t with
  | none => none
  | some b => (s.scheduler.traversers[b.traverser]?).map (b, ·)

/-- Takes the next call from the script of a connector. -/
def engage (s : Scene) (t : TaskId) (connector : String) : Scene :=
  let (call, rest) := match s.cast.scripts.find? connector with
    | some (call :: rest) => (call, rest)
    | _ => ({}, [])
  { s with cast := { s.cast with
      scripts := s.cast.scripts.insert connector rest
      engaged := s.cast.engaged ++ [(t, call)] } }

/-- What a call does besides handing over its page. -/
def perform (s : Scene) (t : TaskId) (b : Batch) (aside : Aside) : Scene :=
  let tripped (u : TaskId) : Scene :=
    s.withScheduler { s.scheduler with pool := s.scheduler.pool.trip u }
  match aside with
  | .nothing => s
  | .tripToken => tripped t
  | .cancelBatch => (s.scheduler.hook b).elim s tripped

/-- A batch that waits for its adapter gets an answer, if there is one by now. -/
def answer? (s : Scene) (t : TaskId) (b : Batch) (r : Traverser) (checkpoint : Option String) :
    Option Scene :=
  let tripped := s.scheduler.pool.isTripped t
  let conclude (s : Scene) (a : Answer) : Scene := { s with site := s.site.conclude t a }
  match r.adapter with
  | .synthetic params => some (conclude s (params.answer checkpoint b.maxItems tripped))
  | .external =>
    match s.cast.engaged.lookup t with
    | none => some (s.engage t r.connector)
    | some call =>
      let letGo := s.cast.letGo.contains t
      if call.waits letGo tripped then none
      else if call.givesUp letGo tripped then some (conclude s (.failed .cancelled))
      else
        let s := s.perform t b call.aside
        some (conclude s (call.answer checkpoint b.maxItems))

/-- A batch that is being executed goes on, if it can. -/
def goOn? (s : Scene) (t : TaskId) : Option Scene :=
  match s.run? t with
  | none => none
  | some (b, r) =>
    match b.stage with
    | .calling checkpoint => s.answer? t b r checkpoint
    | .waiting _ => if r.holder.isSome then none else some { s with site := s.site.drive t }
    | _ => some { s with site := s.site.drive t }

/-- The next step that a process takes by itself. -/
def step? (s : Scene) : Option Scene :=
  match s.scheduler.pool.executing.findSome? fun e => s.goOn? e.2 with
  | some s => some s
  | none =>
    match s.scheduler.pool.freeWorkers.head?, s.scheduler.pool.queue with
    | some w, _ :: _ => some { s with site := s.site.take w }
    | _, _ => (nextLook? s.scheduler.pool).map fun moment =>
        let p := { s.scheduler with pool := passTo s.scheduler.pool moment }
        s.withScheduler p.scan

/-- Settles. A batch takes few steps: it is taken, goes on to its call, is engaged, answers, goes on
to its end, and may be cancelled and abandoned. -/
def settled (s : Scene) : Scene := settle step? (8 * s.scheduler.pool.tasks.length + 1) s

/-- Lets the waiting calls of a connector go. Answers how many there were. -/
def release (s : Scene) (connector : String) : Nat × Scene :=
  let waiting := s.scheduler.pool.executing.filterMap fun e =>
    match s.run? e.2, s.cast.engaged.lookup e.2 with
    | some (b, r), some _ =>
      match b.stage with
      | .calling _ => if r.connector = connector then some e.2 else none
      | _ => none
    | _, _ => none
  (waiting.length, settled { s with cast := { s.cast with letGo := s.cast.letGo ++ waiting } })

/-- Appends calls to the script of a connector. -/
def extendScript (s : Scene) (connector : String) (calls : List ScriptedCall) : Scene :=
  let calls := (s.cast.scripts.find? connector).getD [] ++ calls
  { s with cast := { s.cast with scripts := s.cast.scripts.insert connector calls } }

/-- Keeps a coordinator under a label. One that was kept under it before, and that nothing else
refers to, is released. -/
def hold (s : Scene) (label : String) (c : CoordinatorId) : Scene :=
  let before := s.cast.held.find? label
  let held := s.cast.held.insert label c
  let p := match before with
    | none => s.scheduler
    | some old =>
      if held.values.contains old || s.scheduler.registry.values.contains old then s.scheduler
      else s.scheduler.modifyCoordinator old fun k => { k with released := true }
  { s.withScheduler p with cast := { s.cast with held } }

/-- Passes, each settled, until one starts nothing. -/
def passes : (fuel : Nat) → Scene → Scene
  | 0, s => s
  | fuel + 1, s =>
    let (started, p) := s.scheduler.pass s.site.clock
    let s := settled (s.withScheduler p)
    if started = 0 then s else passes fuel s

/-- Runs the scheduling loop until it has nothing left to start, and stops it. -/
def loop (s : Scene) : Scene :=
  let s := if s.scheduler.stopped then s else passes 10000 s
  s.withScheduler { s.scheduler with stopped := true }

/-- Shuts the pool down. Answers whether all batches ended. -/
def shutDownPool (s : Scene) (interrupt : Bool) : Bool × Scene :=
  let s := settled (s.withScheduler (s.scheduler.shutDown interrupt))
  (s.scheduler.pool.isIdle, s)

/-- Stops the scheduling loop and shuts the pool down. Answers whether all batches ended. -/
def shutDown (s : Scene) : Bool × Scene :=
  (s.withScheduler { s.scheduler with stopped := true }).shutDownPool true

end Scene

/-- The processes of a play with what they share. -/
structure Play where
  world : World
  casts : List Cast

namespace Play

def scene? (p : Play) (i : Nat) : Option Scene :=
  match p.world.site? i, p.casts[i]? with
  | some site, some cast => some { site, cast }
  | _, _ => none

def withScene (p : Play) (i : Nat) (s : Scene) : Play :=
  { world := p.world.withSite i s.site, casts := p.casts.set i s.cast }

/-- Every process settles. -/
def settled (p : Play) : Play :=
  (List.range p.world.schedulers.length).foldl (fun p i =>
    match p.scene? i with
    | none => p
    | some s => p.withScene i s.settled) p

end Play

end BatchTraversal.Rehearsal
