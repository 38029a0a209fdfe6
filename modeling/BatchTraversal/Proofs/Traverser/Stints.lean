import BatchTraversal.Proofs.Store.Failures
import BatchTraversal.Rehearsal.SoloTraverser
import Mathlib.Tactic.Common

/-!
# Batches one after the other

A batch that is run on a traverser while no other one is meets five things from outside: its token when it begins,
the store when it reads the checkpoint, the answer of the adapter, its token when the adapter has answered,
and the store when it saves the next checkpoint. `Stint` is what it meets and `Workbench.stint` what comes of
it. `Stint.Calls` says in which stints the adapter is called, `Stint.saved?` what is saved and `Stint.ending`
how a stint ends in which the adapter is called; nothing else comes of a stint (`Workbench.stint_of_calls`,
`Workbench.stint_of_not_calls`). A rehearsed run is such a stint (`Rehearsal.SoloTraverser.run_eq_stint`).
-/

namespace BatchTraversal

/-- The checkpoint that an answer asks to save. -/
def Answer.next? : Answer → Option String
  | .page p => p.checkpoint
  | _ => none

/-- What a run of a batch meets from outside. -/
structure Stint where
  token : TokenId
  /-- Whether the token is tripped when the run begins. -/
  trippedBefore : Bool
  /-- The store that the checkpoint is read from. -/
  found : Backend
  /-- How the adapter's call ends, if it is called. -/
  answer : Answer
  /-- Whether the token is tripped when the adapter has answered. -/
  trippedAfter : Bool
  /-- The store that the next checkpoint is saved in. -/
  left : Backend

namespace Stint

/-- Whether the adapter is called: the token is not tripped at the beginning, and the checkpoint is read. -/
def Calls (r : Stint) : Prop := r.trippedBefore = false ∧ r.found.fails .readCheckpoint = false

instance (r : Stint) : Decidable r.Calls := inferInstanceAs (Decidable (_ ∧ _))

/-- Whether a checkpoint can be saved: the adapter is called, the token is not tripped when it has answered, and
the store does not fail. -/
def Keeps (r : Stint) : Prop :=
  r.Calls ∧ r.trippedAfter = false ∧ r.left.fails .storeCheckpoint = false

instance (r : Stint) : Decidable r.Keeps := inferInstanceAs (Decidable (_ ∧ _))

/-- The checkpoint that is saved. -/
def saved? (r : Stint) : Option String := if r.Keeps then r.answer.next? else none

/-- How the run ends once the adapter is called. -/
def ending (r : Stint) : RunStage :=
  match r.answer with
  | .crashed => .crashed
  | .noContent => .coded pollingWaitCode
  | .failed _ => .coded errorWaitCode
  | .page page =>
    if page.checkpoint.isSome ∧ r.trippedAfter = false ∧ r.left.fails .storeCheckpoint then
      .coded errorWaitCode
    else .coded (countCode page.count)

end Stint

namespace Workbench

variable {w : Workbench} {r : Stint}

/-- The stored checkpoint of the traverser's cell. -/
def stored? (w : Workbench) : Option String := w.backend.store.checkpoint? w.cell.connector

/-- A run of a batch from its beginning to its end: where it ends, what it leaves, and what it did. -/
def stint (w : Workbench) (r : Stint) : RunStage × Workbench × List RunEvent :=
  let (stage, w, before) :=
    RunStage.entering.drive r.token r.trippedBefore { w with backend := r.found }
  match stage with
  | .calling checkpoint =>
    let (stage, traverser) := RunStage.answer r.answer w.traverser (.calling checkpoint)
    let (stage, w, after) :=
      stage.drive r.token r.trippedAfter { w with traverser, backend := r.left }
    (stage, w, before ++ after)
  | stage => (stage, w, before)

/-- What is left after some runs, one after the other. -/
def stints (w : Workbench) (l : List Stint) : Workbench := l.foldl (fun w r => (w.stint r).2.1) w

end Workbench

/-! ## Reading and writing a checkpoint -/

namespace CheckpointCell

variable {c : CheckpointCell} {b : Backend}

theorem read_of_fails (h : b.fails .readCheckpoint = true) :
    c.read b = (.error (StoreMethod.unavailable .readCheckpoint), c, b.used .readCheckpoint) := by
  rw [read, Backend.readCheckpoint, Backend.call_of_fails h]

theorem read_of_works (h : b.fails .readCheckpoint = false) :
    c.read b = (.ok (b.store.checkpoint? c.connector),
      { c with lastSeen := b.store.checkpoint? c.connector }, b.used .readCheckpoint) := by
  rw [read, Backend.readCheckpoint, Backend.call_of_works h]
  rfl

theorem write_of_fails (h : b.fails .storeCheckpoint = true) (checkpoint : Option String) :
    c.write checkpoint b =
      (.error (StoreMethod.unavailable .storeCheckpoint), c, b.used .storeCheckpoint) := by
  rw [write, Backend.storeCheckpoint, Backend.call_of_fails h]

theorem write_of_works (h : b.fails .storeCheckpoint = false) (checkpoint : Option String) :
    c.write checkpoint b = (.ok (), { c with lastSeen := checkpoint },
      { b.used .storeCheckpoint with store := b.store.storeCheckpoint c.connector checkpoint }) := by
  rw [write, Backend.storeCheckpoint, Backend.call_of_works h]

end CheckpointCell

/-! ## What comes of a stint -/

namespace Workbench

variable {w : Workbench} {r : Stint}

/-- A stint in which the adapter is not called does nothing. -/
theorem stint_of_not_calls (h : ¬ r.Calls) :
    (w.stint r).2.2 = [] ∧ (w.stint r).2.1.cell = w.cell ∧
      (w.stint r).2.1.backend.store = r.found.store ∧
      (w.stint r).2.1.traverser.holder = w.traverser.holder := by
  cases ht : r.trippedBefore with
  | true => simp [stint, RunStage.drive, RunStage.advance, ht]
  | false =>
    have hf : r.found.fails .readCheckpoint = true := by simpa [Stint.Calls, ht] using h
    simp [stint, RunStage.drive, RunStage.advance, CheckpointCell.read_of_fails hf, ht]
    rfl

/-- A run that is not cancelled and reads its checkpoint gets to the adapter, if no other run holds it. -/
theorem drive_entering (hc : r.Calls) (hfree : w.traverser.holder = none) :
    RunStage.entering.drive r.token r.trippedBefore { w with backend := r.found } =
      (.calling (r.found.store.checkpoint? w.cell.connector),
        { traverser := { w.traverser with current := some r.token, holder := some r.token }
          cell := { w.cell with lastSeen := r.found.store.checkpoint? w.cell.connector }
          backend := r.found.used .readCheckpoint },
        [.called (r.found.store.checkpoint? w.cell.connector)]) := by
  obtain ⟨ht, hf⟩ := hc
  simp [RunStage.drive, RunStage.advance, CheckpointCell.read_of_works hf, ht, hfree]

/-- A stint in which the adapter is called calls it once, from the stored checkpoint; it saves what there is to
save, and the cell has seen what is stored then. -/
theorem stint_of_calls (hc : r.Calls) (hfree : w.traverser.holder = none) :
    let checkpoint := r.found.store.checkpoint? w.cell.connector
    (w.stint r).1 = r.ending ∧
    (w.stint r).2.2 = .called checkpoint :: (r.saved?.map .saved).toList ∧
    (w.stint r).2.1.cell = { w.cell with lastSeen := r.saved?.or checkpoint } ∧
    (w.stint r).2.1.backend.store =
      r.saved?.elim r.left.store (fun next => r.left.store.storeCheckpoint w.cell.connector next) ∧
    (w.stint r).2.1.traverser.holder = none := by
  rw [stint, drive_entering hc hfree]
  cases ha : r.answer with
  | crashed | noContent | failed =>
    simp [RunStage.answer, RunStage.drive, RunStage.advance, Stint.ending, Stint.saved?, Answer.next?, ha]
  | page p =>
    cases htripped : r.trippedAfter with
    | true =>
      simp [RunStage.answer, RunStage.drive, RunStage.advance, Stint.ending, Stint.saved?, Stint.Keeps,
        ha, htripped]
    | false =>
      cases hnext : p.checkpoint with
      | none =>
        simp [RunStage.answer, RunStage.drive, RunStage.advance, Stint.ending, Stint.saved?, Answer.next?,
          ha, htripped, hnext]
      | some next =>
        cases hfails : r.left.fails .storeCheckpoint with
        | true =>
          simp [RunStage.answer, RunStage.drive, RunStage.advance, Stint.ending, Stint.saved?, Stint.Keeps,
            CheckpointCell.write_of_fails hfails, ha, htripped, hnext, hfails, Backend.used,
            Backend.withFaults]
        | false =>
          simp [RunStage.answer, RunStage.drive, RunStage.advance, Stint.ending, Stint.saved?, Stint.Keeps,
            Answer.next?, CheckpointCell.write_of_works hfails, ha, htripped, hnext, hfails, hc]

end Workbench

/-! ## Rehearsed runs -/

namespace Rehearsal.SoloTraverser

/-- The adapter trips tokens at most. -/
theorem callAdapter_eq (s : SoloTraverser) (maxItems : Nat) (checkpoint : Option String) :
    (s.callAdapter maxItems checkpoint).2.bench = s.bench ∧
      (s.callAdapter maxItems checkpoint).2.token = s.token := by
  unfold callAdapter cancelBatch
  cases s.script with
  | nil => exact ⟨rfl, rfl⟩
  | cons call script =>
    dsimp only
    cases call.aside with
    | nothing => exact ⟨rfl, rfl⟩
    | tripToken => exact ⟨rfl, congrArg (· - 1) List.length_set⟩
    | cancelBatch =>
      dsimp only
      split
      · exact ⟨rfl, rfl⟩
      · exact ⟨rfl, congrArg (· - 1) List.length_set⟩

/-- What a rehearsed run meets: the store as it is, and an adapter that leaves it so. -/
def meets (s : SoloTraverser) (left : Backend) (a : Answer) (tripped : Bool) : Stint where
  token := s.token
  trippedBefore := s.isTripped s.token
  found := s.bench.backend
  answer := a
  trippedAfter := tripped
  left := left

/-- A rehearsed run is a stint in which the adapter answers as the script says. -/
theorem run_eq_stint (s : SoloTraverser) (maxItems : Nat) : ∃ left a tripped,
    (s.run maxItems).2.bench = (s.bench.stint (s.meets left a tripped)).2.1 ∧
      (s.run maxItems).1 = match (s.bench.stint (s.meets left a tripped)).1 with
        | .coded code => some code
        | _ => none := by
  obtain ⟨⟨stage, bench, events⟩, hdrive⟩ : ∃ d,
      RunStage.entering.drive s.token (s.isTripped s.token) s.bench = d := ⟨_, rfl⟩
  have hbegin (a : Answer) (tripped : Bool) :
      RunStage.entering.drive (s.meets bench.backend a tripped).token
        (s.meets bench.backend a tripped).trippedBefore
        { s.bench with backend := (s.meets bench.backend a tripped).found } =
      (stage, bench, events) := hdrive
  cases stage with
  | calling checkpoint =>
    obtain ⟨⟨a, s'⟩, hcall⟩ :
        ∃ d, ({ s with bench } : SoloTraverser).callAdapter maxItems checkpoint = d := ⟨_, rfl⟩
    obtain ⟨hbench, htoken⟩ := callAdapter_eq { s with bench } maxItems checkpoint
    rw [hcall] at hbench htoken
    change s'.bench = bench at hbench
    change s'.token = s.token at htoken
    refine ⟨bench.backend, a, s'.isTripped s'.token, ?_⟩
    rw [Workbench.stint, hbegin, run, hdrive]
    dsimp only
    rw [hcall]
    dsimp only [meets]
    rw [hbench, htoken]
    -- both go on alike from the answer
    generalize RunStage.drive _ _ _ _ = d
    obtain ⟨stage, bench, events⟩ := d
    cases stage <;> exact ⟨rfl, rfl⟩
  | _ =>
    refine ⟨bench.backend, .noContent, false, ?_⟩
    rw [Workbench.stint, hbegin, run, hdrive]
    exact ⟨rfl, rfl⟩

end Rehearsal.SoloTraverser

end BatchTraversal
