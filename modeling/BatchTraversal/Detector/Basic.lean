import BatchTraversal.Store.Backend

/-!
# Detecting changes in the store

Processes that share a store learn of each other's edits by comparing listings. A detection lists the
store and walks through the names of this listing and of the last one, both ascending, in one pass
(`Change.between`): a name only in the last one was removed, a name only in this one was added, and
for a name in both the facets whose stamps differ have changed. The value of what changed is read and
a listener is told. A listener that fails is passed over; a store that fails ends the run, which then
counts for nothing, so that the next run sees the same changes again.
-/

namespace BatchTraversal

/-- What a listener is told. -/
inductive Notification where
  | added (name : String) (config : ConnectorConfig)
  | removed (name : String)
  | checkpointChanged (name : String) (checkpoint : Option String)
  | configurationChanged (name : String) (config : ConnectorConfig)
  | scheduleChanged (name : String) (schedule : Option Schedule)
  deriving DecidableEq

/-- The connector that a notification is about. -/
def Notification.name : Notification → String
  | added name _ | removed name | checkpointChanged name _ | configurationChanged name _
  | scheduleChanged name _ => name

/-- A difference between two listings. -/
inductive Change where
  | added (name : String)
  | removed (name : String)
  | checkpoint (name : String)
  | configuration (name : String)
  | schedule (name : String)
  deriving DecidableEq, Repr

namespace Change

/-- The facets of a connector whose stamps differ. -/
def facets (name : String) (before after : TaskStamps) : List Change :=
  (if before.checkpoint = after.checkpoint then [] else [checkpoint name]) ++
  (if before.configuration = after.configuration then [] else [configuration name]) ++
  (if before.schedule = after.schedule then [] else [schedule name])

/-- The differences between two ascending listings, in ascending order of names. -/
def between : List (String × TaskStamps) → List (String × TaskStamps) → List Change
  | [], [] => []
  | old :: olds, [] => removed old.1 :: between olds []
  | [], new :: news => added new.1 :: between [] news
  | old :: olds, new :: news =>
    if old.1 < new.1 then removed old.1 :: between olds (new :: news)
    else if new.1 < old.1 then added new.1 :: between (old :: olds) news
    else facets old.1 old.2 new.2 ++ between olds news
termination_by olds news => olds.length + news.length

/-- What the listener is to be told of a change: its value is read from the store. There is nothing
to tell of a configuration that is gone by then. -/
def read (c : Change) (b : Backend) : Except Error (Option Notification) × Backend :=
  match c with
  | removed name => (.ok (some (.removed name)), b)
  | added name =>
    let (r, b) := b.readConfiguration name
    (r.map fun config => config.map (.added name), b)
  | checkpoint name =>
    let (r, b) := b.readCheckpoint name
    (r.map fun checkpoint => some (.checkpointChanged name checkpoint), b)
  | configuration name =>
    let (r, b) := b.readConfiguration name
    (r.map fun config => config.map (.configurationChanged name), b)
  | schedule name =>
    let (r, b) := b.readSchedule name
    (r.map fun schedule => some (.scheduleChanged name schedule), b)

end Change

/-- How many notifications a run sent. -/
structure ChangeSummary where
  added : Nat := 0
  removed : Nat := 0
  changed : Nat := 0
  deriving DecidableEq, Repr, Inhabited

namespace ChangeSummary

/-- Whether nothing was sent. -/
def isEmpty (s : ChangeSummary) : Bool := s.added + s.removed + s.changed == 0

/-- Counts one more notification. -/
def count (s : ChangeSummary) : Notification → ChangeSummary
  | .added _ _ => { s with added := s.added + 1 }
  | .removed _ => { s with removed := s.removed + 1 }
  | _ => { s with changed := s.changed + 1 }

end ChangeSummary

namespace Detector

variable {σ : Type}

/-- What a listener does with a notification: it may change its own state, use the store, and
fail. -/
abbrev Listener (σ : Type) := Notification → σ → Backend → Except Error Unit × σ × Backend

/-- Reads and tells the changes one after the other, up to the first read that fails. -/
def tell (hear : Listener σ) :
    List Change → ChangeSummary → σ → Backend → Except Error ChangeSummary × σ × Backend
  | [], summary, s, b => (.ok summary, s, b)
  | c :: rest, summary, s, b =>
    match c.read b with
    | (.error e, b) => (.error e, s, b)
    | (.ok none, b) => tell hear rest summary s b
    | (.ok (some n), b) =>
      let (_, s, b) := hear n s b
      tell hear rest (summary.count n) s b

/-- One run: compares the store with the inventory of the last run and tells the listener. The
listing becomes the inventory if no read failed. -/
def detect (hear : Listener σ) (inventory : NameMap TaskStamps) (s : σ) (b : Backend) :
    Except Error ChangeSummary × NameMap TaskStamps × σ × Backend :=
  match b.list with
  | (.error e, b) => (.error e, inventory, s, b)
  | (.ok listing, b) =>
    match tell hear (Change.between inventory.entries listing.entries) {} s b with
    | (.error e, s, b) => (.error e, inventory, s, b)
    | (.ok summary, s, b) => (.ok summary, listing, s, b)

/-- A detector in words. -/
def shown (inventory : NameMap TaskStamps) : String :=
  Text.labelled "ChangeDetector" [("known", toString inventory.size)]

end Detector

end BatchTraversal
