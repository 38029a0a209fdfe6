import BatchTraversal.Rehearsal.Script
import BatchTraversal.Traverser.Run

/-!
# Rehearsing a traverser

One traverser with its checkpoint cell runs batch after batch against a scripted adapter. The runs
are given tokens, which can be tripped before, during and after a run.
-/

namespace BatchTraversal.Rehearsal

/-- A traverser with its surroundings. -/
structure SoloTraverser where
  bench : Workbench
  /-- The tokens made so far, each tripped or not; the last one is given to the next run. -/
  tokens : List Bool := [false]
  script : List ScriptedCall := []
  /-- The calls of the adapter: how many items at most, and where from. -/
  calls : List (Nat × Option String) := []

namespace SoloTraverser

/-- A traverser of a connector over an empty store. -/
def start (connector : String) (script : List ScriptedCall) : SoloTraverser where
  bench :=
    { traverser := { connector, config := { kind := "scripted" }, adapter := .external }
      cell := { connector }
      backend := {} }
  script := script

/-- The token of the next run. -/
def token (s : SoloTraverser) : TokenId := s.tokens.length - 1

def isTripped (s : SoloTraverser) (t : TokenId) : Bool := (s.tokens[t]?).getD false

def trip (s : SoloTraverser) (t : TokenId) : SoloTraverser :=
  { s with tokens := s.tokens.set t true }

/-- Asks the traverser to cancel the run under way. -/
def cancelBatch (s : SoloTraverser) : SoloTraverser :=
  match s.bench.traverser.current with
  | none => s
  | some t => s.trip t

/-- A new token for the runs to come. -/
def renewToken (s : SoloTraverser) : SoloTraverser := { s with tokens := s.tokens ++ [false] }

/-- The adapter, called from a checkpoint by the run of token `t`, answers. -/
def callAdapter (s : SoloTraverser) (maxItems : Nat) (checkpoint : Option String) :
    Answer × SoloTraverser :=
  let s := { s with calls := s.calls ++ [(maxItems, checkpoint)] }
  match s.script with
  | [] => (.noContent, s)
  | call :: script =>
    let s := { s with script }
    let s := match call.aside with
      | .nothing => s
      | .tripToken => s.trip s.token
      | .cancelBatch => s.cancelBatch
    (call.answer checkpoint maxItems, s)

/-- Runs a batch. Answers its code, or nothing if the adapter crashed. -/
def run (s : SoloTraverser) (maxItems : Nat) : Option Int × SoloTraverser :=
  let (stage, bench, _) := RunStage.entering.drive s.token (s.isTripped s.token) s.bench
  let s := { s with bench }
  match stage with
  | .coded code => (some code, s)
  | .calling checkpoint =>
    let (a, s) := s.callAdapter maxItems checkpoint
    let (stage, traverser) := RunStage.answer a s.bench.traverser (.calling checkpoint)
    let (stage, bench, _) :=
      stage.drive s.token (s.isTripped s.token) { s.bench with traverser }
    let s := { s with bench }
    match stage with
    | .coded code => (some code, s)
    | _ => (none, s)
  | _ => (none, s)

/-- Reads the checkpoint through the cell. -/
def readCell (s : SoloTraverser) : Except Error (Option String) × SoloTraverser :=
  let (r, cell, backend) := s.bench.cell.read s.bench.backend
  (r, { s with bench := { s.bench with cell, backend } })

/-- Writes the checkpoint through the cell. -/
def writeCell (s : SoloTraverser) (checkpoint : Option String) :
    Except Error Unit × SoloTraverser :=
  let (r, cell, backend) := s.bench.cell.write checkpoint s.bench.backend
  (r, { s with bench := { s.bench with cell, backend } })

end SoloTraverser

end BatchTraversal.Rehearsal
