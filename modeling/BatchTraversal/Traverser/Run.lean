import BatchTraversal.Batch.Result
import BatchTraversal.Connector.Kind
import BatchTraversal.Traverser.Checkpoint

/-!
# The run of a batch on a traverser

A traverser runs the batches of one connector against its adapter. Batches may overlap on one
traverser while a superseded one is still at work, but only one at a time calls the adapter. A run
goes through the stages of `RunStage`; each step of `RunStage.advance` is a single action that other
activities may come before or after:

* it looks at its cancellation token, and if that is tripped it processes nothing;
* it reads the stored checkpoint;
* it takes hold of the adapter, as soon as no other run does, and calls it;
* the adapter answers (`RunStage.answer`);
* it looks at its token once more: a cancelled run keeps its count but saves no checkpoint;
* it saves the page's checkpoint, if the page has one.

The run's outcome is a code (`BatchResult.ofCode`).
-/

namespace BatchTraversal

/-- A cancellation token, told apart from others by a number. -/
abbrev TokenId := Nat

/-- What runs the batches of one connector. -/
structure Traverser where
  connector : String
  /-- What the adapter was made from. -/
  config : ConnectorConfig
  adapter : Adapter
  /-- The token of the run that is under way, as far as the traverser knows. -/
  current : Option TokenId := none
  /-- The run that holds the adapter. -/
  holder : Option TokenId := none
  deriving DecidableEq

/-- Where a run stands. -/
inductive RunStage where
  /-- Nothing has been done yet. -/
  | entering
  /-- The checkpoint is to be read. -/
  | reading
  /-- The adapter is to be called. -/
  | waiting (checkpoint : Option String)
  /-- The adapter is at work. -/
  | calling (checkpoint : Option String)
  /-- The adapter has answered. -/
  | answered (answer : Answer)
  /-- The checkpoint of a page of `count` items is to be saved. -/
  | saving (count : Nat) (next : String)
  /-- The run is over. -/
  | coded (code : Int)
  /-- The adapter crashed, and the run with it. -/
  | crashed
  deriving DecidableEq, Repr

/-- What a run works on. -/
structure Workbench where
  traverser : Traverser
  cell : CheckpointCell
  backend : Backend

/-- An action of a run that can be seen from outside. -/
inductive RunEvent where
  /-- The adapter was called, to start or to resume from a checkpoint. -/
  | called (checkpoint : Option String)
  /-- A checkpoint was saved. -/
  | saved (checkpoint : String)
  deriving DecidableEq, Repr

namespace RunStage

/-- The next action of a run under `token`, if it needs nothing from outside. A run that waits for
the adapter, or for its answer, stays where it is. -/
def advance (token : TokenId) (tripped : Bool) (w : Workbench) :
    RunStage → RunStage × Workbench × Option RunEvent
  | entering =>
    if tripped then (coded 0, w, none)
    else (reading, { w with traverser := { w.traverser with current := some token } }, none)
  | reading =>
    match w.cell.read w.backend with
    | (.error _, cell, backend) => (coded errorWaitCode, { w with cell, backend }, none)
    | (.ok checkpoint, cell, backend) => (waiting checkpoint, { w with cell, backend }, none)
  | waiting checkpoint =>
    if w.traverser.holder.isNone then
      (calling checkpoint, { w with traverser := { w.traverser with holder := some token } },
        some (.called checkpoint))
    else (waiting checkpoint, w, none)
  | answered (.page page) =>
    if tripped then (coded (countCode page.count), w, none)
    else
      match page.checkpoint with
      | none => (coded (countCode page.count), w, none)
      | some next => (saving page.count next, w, none)
  | answered .noContent => (coded pollingWaitCode, w, none)
  | answered (.failed _) => (coded errorWaitCode, w, none)
  | saving count next =>
    match w.cell.write (some next) w.backend with
    | (.error _, cell, backend) => (coded errorWaitCode, { w with cell, backend }, none)
    | (.ok (), cell, backend) => (coded (countCode count), { w with cell, backend },
        some (.saved next))
  | stage => (stage, w, none)

/-- The run goes on with the adapter's answer. The traverser forgets the run's token, except if the
adapter crashed. -/
def answer (a : Answer) (t : Traverser) : RunStage → RunStage × Traverser
  | calling _ =>
    match a with
    | .crashed => (crashed, { t with holder := none })
    | a => (answered a, { t with holder := none, current := none })
  | stage => (stage, t)

/-- The actions of a run up to where it waits for something outside or is over. -/
def drive (token : TokenId) (tripped : Bool) (w : Workbench) (stage : RunStage) :
    RunStage × Workbench × List RunEvent :=
  let (stage, w, e₁) := stage.advance token tripped w
  let (stage, w, e₂) := stage.advance token tripped w
  let (stage, w, e₃) := stage.advance token tripped w
  (stage, w, [e₁, e₂, e₃].filterMap id)

end RunStage

end BatchTraversal
