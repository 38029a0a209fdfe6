import BatchTraversal.Worker.Session
import Std.Time.Zoned

/-!
# The worker program

Runs a worker in the current directory. A single pass is made at once; otherwise passes are made until
the program is stopped.
-/

namespace BatchTraversal.Program

/-- The text of a file, if it can be read. -/
def readFile? (path : String) : IO (Option String) := do
  try return some (← IO.FS.readFile path) catch _ => return none

/-- The variables of the environment, as the system lists them. -/
def environment : IO Environment := do
  let listed := (← readFile? "/proc/self/environ").getD ""
  return (listed.splitOn "\x00").filterMap fun entry =>
    match entry.splitOn "=" with
    | name :: value => if value.isEmpty then none else some (name, "=".intercalate value)
    | [] => none

/-- The number of processors, as the system lists them. -/
def processors : IO Nat := do
  let listed := (← readFile? "/proc/cpuinfo").getD ""
  return max 1 ((listed.splitOn "\n").filter (·.startsWith "processor")).length

/-- The time of day here and now. -/
def clock : IO Clock := do
  let now ← Std.Time.Timestamp.now
  let here ← Std.Time.PlainDateTime.now
  let nanos := now.toNanosecondsSinceUnixEpoch.val
  let seconds := nanos / 1000000000
  let ofDay := here.hour.val * 3600 + here.minute.val * 60 + here.second.val
  return { now := .of seconds (nanos % 1000000000).toNat, offset := (ofDay - seconds) % 86400 }

/-- What is found under a path. -/
def look (path : String) : IO Found := do
  try return .file (← IO.FS.readFile path)
  catch
    | .noFileOrDirectory _ _ _ => return .nothing
    | e => return .unreadable (toString e)

/-- Shows the notices that a filter lets through. -/
def tell (filter : LogFilter) (notices : List Notice) : IO Unit := do
  for n in notices do
    if filter.shows n then
      let fields := n.fields.map fun f => " " ++ f.1 ++ "=" ++ f.2
      IO.println (n.target ++ ": " ++ n.text ++ String.join fields)

/-- Makes passes in turn, each an interval after the other. -/
partial def serve (filter : LogFilter) (s : Worker.Session) : IO Unit := do
  let next := s.turn
  tell filter (next.results.drop s.results.length)
  let moment := next.nextPass
  let rested := next.settled moment
  IO.sleep ((moment - next.pool.now) / 1000000).toUInt32
  tell filter (rested.results.drop next.results.length)
  serve filter (rested.passTo moment)

/-- Runs a worker with some arguments. Answers its exit code. -/
def run (arguments : List String) : IO UInt32 := do
  let file ← look ".env"
  let start : Worker.Surroundings :=
    { environment := ← environment, look := fun _ => file, clock := ← clock
      processors := ← processors }
  match Worker.Duty.of start.variables arguments with
  | .error dismissal => return dismissal.code.toUInt32
  | .ok duty =>
    let manifest ← look duty.manifestPath
    let (notices, session) := Worker.begin duty { start with look := fun _ => manifest }
    tell duty.filter notices
    match session with
    | .error failure =>
      IO.eprintln ("Error: " ++ "\n".intercalate failure.chain)
      return 1
    | .ok session =>
      if duty.once then tell duty.filter session.once else serve duty.filter session
      return 0

end BatchTraversal.Program

def main (arguments : List String) : IO UInt32 := BatchTraversal.Program.run arguments
