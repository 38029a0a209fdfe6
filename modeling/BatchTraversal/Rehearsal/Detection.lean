import BatchTraversal.Detector.Basic

/-!
# Rehearsing the change detector

A change detector over a store of its own, with a listener that only records what it is told.
-/

namespace BatchTraversal.Rehearsal

/-- A change detector with its store and what its listener was told. -/
structure DetectorBench where
  backend : Backend := {}
  inventory : NameMap TaskStamps := .empty
  heard : List Notification := []

namespace DetectorBench

/-- The listener that records. -/
def record : Detector.Listener (List Notification) := fun n heard backend =>
  (.ok (), heard ++ [n], backend)

/-- One run of the detector. -/
def detect (d : DetectorBench) : Except Error ChangeSummary × DetectorBench :=
  let (r, inventory, heard, backend) := Detector.detect record d.inventory d.heard d.backend
  (r, { backend, inventory, heard })

/-- Runs until one run succeeds and finds nothing. -/
def untilQuiet : (fuel : Nat) → DetectorBench → DetectorBench
  | 0, d => d
  | fuel + 1, d =>
    match d.detect with
    | (.ok summary, d) => if summary.isEmpty then d else untilQuiet fuel d
    | (.error _, d) => untilQuiet fuel d

/-- The calls of the store that are still to fail. -/
def pendingFaults (d : DetectorBench) : Nat :=
  [StoreMethod.listTasks, .readConfiguration, .readSchedule, .readCheckpoint].foldl
    (fun n m => n + (d.backend.faults m).length) 0

/-- Runs again and again, passing over failures, until there is nothing more to find. -/
def periodic (d : DetectorBench) : DetectorBench := untilQuiet (d.pendingFaults + 2) d

/-- The detector in words. -/
def shown (d : DetectorBench) : String := Detector.shown d.inventory

end DetectorBench

end BatchTraversal.Rehearsal
