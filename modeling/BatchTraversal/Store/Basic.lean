import BatchTraversal.Connector.Config
import BatchTraversal.Schedule.Basic
import BatchTraversal.Stamp

/-!
# The store of persisted tasks

The store holds, for every connector, up to three facets: its configuration, its schedule and the
checkpoint its traversal has reached. Several processes share one store. Every write of a facet, also
one that clears a checkpoint, takes the next stamp, so no two writes leave the same stamp. A listing
shows the stamps of the connectors that have a configuration.
-/

namespace BatchTraversal

/-- A stored value with the stamp of the write that stored it. -/
structure Stamped (α : Type) where
  stamp : Nat
  value : α
  deriving DecidableEq

/-- What is stored for one connector. -/
structure StoredTask where
  configuration : Option (Stamped ConnectorConfig) := none
  schedule : Option (Stamped Schedule) := none
  checkpoint : Option (Stamped String) := none
  deriving DecidableEq

/-- The stamps of the stored facets. -/
def StoredTask.stamps (t : StoredTask) : TaskStamps where
  configuration := t.configuration.map (·.stamp)
  schedule := t.schedule.map (·.stamp)
  checkpoint := t.checkpoint.map (·.stamp)

/-- The persisted tasks, and the stamp of the last write. -/
structure Store where
  tasks : NameMap StoredTask := .empty
  lastStamp : Nat := 0
  deriving DecidableEq

namespace Store

instance : Inhabited Store := ⟨{}⟩

/-- What is stored for a name, nothing at all if the name is unknown. -/
def task (s : Store) (name : String) : StoredTask := (s.tasks.find? name).getD {}

/-- The stamps of the connectors that have a configuration. -/
def list (s : Store) : NameMap TaskStamps :=
  s.tasks.filterMap fun _ t => if t.configuration.isSome then some t.stamps else none

def configuration? (s : Store) (name : String) : Option ConnectorConfig :=
  (s.task name).configuration.map (·.value)

def schedule? (s : Store) (name : String) : Option Schedule :=
  (s.task name).schedule.map (·.value)

def checkpoint? (s : Store) (name : String) : Option String :=
  (s.task name).checkpoint.map (·.value)

/-- Replaces what is stored for a name, using up one stamp. -/
def write (s : Store) (name : String) (f : Nat → StoredTask → StoredTask) : Store :=
  { tasks := s.tasks.insert name (f (s.lastStamp + 1) (s.task name))
    lastStamp := s.lastStamp + 1 }

def storeConfiguration (s : Store) (name : String) (config : ConnectorConfig) : Store :=
  s.write name fun stamp t => { t with configuration := some ⟨stamp, config⟩ }

def storeSchedule (s : Store) (name : String) (schedule : Schedule) : Store :=
  s.write name fun stamp t => { t with schedule := some ⟨stamp, schedule⟩ }

/-- Stores a checkpoint, or clears it. -/
def storeCheckpoint (s : Store) (name : String) (checkpoint : Option String) : Store :=
  s.write name fun stamp t => { t with checkpoint := checkpoint.map (⟨stamp, ·⟩) }

/-- Drops every facet of a connector. -/
def removeTask (s : Store) (name : String) : Store := { s with tasks := s.tasks.erase name }

/-! ## What a write leaves -/

theorem task_write (s : Store) (name other : String) (f : Nat → StoredTask → StoredTask) :
    (s.write name f).task other =
      if other = name then f (s.lastStamp + 1) (s.task name) else s.task other := by
  simp only [task, write, NameMap.find?_insert]
  split <;> simp_all

theorem task_write_self (s : Store) (name : String) (f : Nat → StoredTask → StoredTask) :
    (s.write name f).task name = f (s.lastStamp + 1) (s.task name) :=
  (s.task_write name name f).trans (if_pos rfl)

theorem task_write_of_ne (s : Store) {name other : String} (f : Nat → StoredTask → StoredTask)
    (h : other ≠ name) : (s.write name f).task other = s.task other :=
  (s.task_write name other f).trans (if_neg h)

theorem task_removeTask (s : Store) (name other : String) :
    (s.removeTask name).task other = if other = name then {} else s.task other := by
  simp only [task, removeTask, NameMap.find?_erase]
  split <;> simp_all

/-- A write leaves whatever it leaves to the task that it writes. -/
theorem get_write {α : Type} {g : StoredTask → α} (s : Store) (name other : String)
    {f : Nat → StoredTask → StoredTask} (hf : ∀ stamp t, g (f stamp t) = g t) :
    g ((s.write name f).task other) = g (s.task other) := by
  rw [task_write]
  split
  · next h => rw [hf, h]
  · rfl

section
variable (s : Store) (name other : String)

@[simp] theorem configuration?_storeSchedule (schedule : Schedule) :
    (s.storeSchedule name schedule).configuration? other = s.configuration? other :=
  congrArg (Option.map Stamped.value)
    (s.get_write (g := (·.configuration)) name other (by intro _ _; rfl))

@[simp] theorem configuration?_storeCheckpoint (checkpoint : Option String) :
    (s.storeCheckpoint name checkpoint).configuration? other = s.configuration? other :=
  congrArg (Option.map Stamped.value)
    (s.get_write (g := (·.configuration)) name other (by intro _ _; rfl))

theorem configuration?_storeConfiguration (config : ConnectorConfig) :
    (s.storeConfiguration name config).configuration? other =
      if other = name then some config else s.configuration? other := by
  simp only [configuration?, storeConfiguration, task_write]
  split <;> rfl

@[simp] theorem schedule?_storeConfiguration (config : ConnectorConfig) :
    (s.storeConfiguration name config).schedule? other = s.schedule? other :=
  congrArg (Option.map Stamped.value) (s.get_write (g := (·.schedule)) name other (by intro _ _; rfl))

@[simp] theorem schedule?_storeCheckpoint (checkpoint : Option String) :
    (s.storeCheckpoint name checkpoint).schedule? other = s.schedule? other :=
  congrArg (Option.map Stamped.value) (s.get_write (g := (·.schedule)) name other (by intro _ _; rfl))

theorem schedule?_storeSchedule (schedule : Schedule) :
    (s.storeSchedule name schedule).schedule? other =
      if other = name then some schedule else s.schedule? other := by
  simp only [schedule?, storeSchedule, task_write]
  split <;> rfl

theorem schedule?_removeTask :
    (s.removeTask name).schedule? other = if other = name then none else s.schedule? other := by
  simp only [schedule?, task_removeTask]
  split <;> rfl

@[simp] theorem checkpoint?_storeConfiguration (config : ConnectorConfig) :
    (s.storeConfiguration name config).checkpoint? other = s.checkpoint? other :=
  congrArg (Option.map Stamped.value) (s.get_write (g := (·.checkpoint)) name other (by intro _ _; rfl))

@[simp] theorem checkpoint?_storeSchedule (schedule : Schedule) :
    (s.storeSchedule name schedule).checkpoint? other = s.checkpoint? other :=
  congrArg (Option.map Stamped.value) (s.get_write (g := (·.checkpoint)) name other (by intro _ _; rfl))

theorem checkpoint?_storeCheckpoint (checkpoint : Option String) :
    (s.storeCheckpoint name checkpoint).checkpoint? other =
      if other = name then checkpoint else s.checkpoint? other := by
  simp only [checkpoint?, storeCheckpoint, task_write]
  split
  · exact (Option.map_map ..).trans (Option.map_id' ..)
  · rfl

theorem checkpoint?_removeTask :
    (s.removeTask name).checkpoint? other = if other = name then none else s.checkpoint? other := by
  simp only [checkpoint?, task_removeTask]
  split <;> rfl

end

end Store

end BatchTraversal
