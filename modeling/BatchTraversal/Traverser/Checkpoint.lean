import BatchTraversal.Store.Backend

/-!
# Checkpoint cells

A process reads and writes the checkpoint of a connector through a cell, which remembers what the
process saw last. That is how it tells its own writes from those of other processes.
-/

namespace BatchTraversal

/-- The checkpoint of a connector, as one process sees it. -/
structure CheckpointCell where
  connector : String
  /-- What was read or written last. -/
  lastSeen : Option String := none
  deriving DecidableEq, Repr

namespace CheckpointCell

/-- Reads the stored checkpoint. -/
def read (c : CheckpointCell) (b : Backend) :
    Except Error (Option String) × CheckpointCell × Backend :=
  match b.readCheckpoint c.connector with
  | (.error e, b) => (.error e, c, b)
  | (.ok checkpoint, b) => (.ok checkpoint, { c with lastSeen := checkpoint }, b)

/-- Stores a checkpoint, or clears it. -/
def write (c : CheckpointCell) (checkpoint : Option String) (b : Backend) :
    Except Error Unit × CheckpointCell × Backend :=
  match b.storeCheckpoint c.connector checkpoint with
  | (.error e, b) => (.error e, c, b)
  | (.ok (), b) => (.ok (), { c with lastSeen := checkpoint }, b)

/-- Whether this is what the process saw last. -/
def matchesSeen (c : CheckpointCell) (checkpoint : Option String) : Bool :=
  c.lastSeen == checkpoint

/-- The cell in words. -/
def shown (c : CheckpointCell) : String :=
  Text.labelled "CheckpointCell" [("connector", Text.quoted c.connector)]

end CheckpointCell

end BatchTraversal
