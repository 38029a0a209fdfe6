import BatchTraversal.Error
import BatchTraversal.Store.Basic

/-!
# A store that can fail

Processes reach the store over something that can fail. A `Backend` is a store together with what
will happen to the calls to come: for every method a list that says, call by call, whether it fails;
the calls beyond the list succeed. A failing call does nothing, it does not even use up a stamp.
-/

namespace BatchTraversal

/-- The calls a store answers. -/
inductive StoreMethod where
  | listTasks
  | readConfiguration
  | readSchedule
  | readCheckpoint
  | storeConfiguration
  | storeSchedule
  | storeCheckpoint
  | removeTask
  deriving DecidableEq, Repr

/-- The name of a method in error messages. -/
def StoreMethod.name : StoreMethod → String
  | listTasks => "list_tasks"
  | readConfiguration => "read_configuration"
  | readSchedule => "read_schedule"
  | readCheckpoint => "read_checkpoint"
  | storeConfiguration => "store_configuration"
  | storeSchedule => "store_schedule"
  | storeCheckpoint => "store_checkpoint"
  | removeTask => "remove_task"

/-- The error of a failing call. -/
def StoreMethod.unavailable (m : StoreMethod) : Error := .store (m.name ++ " unavailable")

/-- A store and, for every method, whether its next calls fail. -/
structure Backend where
  store : Store := {}
  faults : StoreMethod → List Bool := fun _ => []

namespace Backend

instance : Inhabited Backend := ⟨{}⟩

/-- The backend with the fate of the next calls of `m` replaced. -/
def withFaults (b : Backend) (m : StoreMethod) (fate : List Bool) : Backend :=
  { b with faults := fun m' => if m' = m then fate else b.faults m' }

/-- Whether the next call of `m` fails. -/
def fails (b : Backend) (m : StoreMethod) : Bool := (b.faults m).headD false

/-- The backend after a call of `m`, whose fate is used up. -/
def used (b : Backend) (m : StoreMethod) : Backend := b.withFaults m (b.faults m).tail

/-- One call of method `m` that would read `read` and leave `write`. -/
def call {α : Type} (b : Backend) (m : StoreMethod) (read : Store → α) (write : Store → Store) :
    Except Error α × Backend :=
  if b.fails m then (.error m.unavailable, b.used m)
  else (.ok (read b.store), { b.used m with store := write b.store })

def list (b : Backend) : Except Error (NameMap TaskStamps) × Backend :=
  b.call .listTasks (·.list) id

def readConfiguration (b : Backend) (name : String) :
    Except Error (Option ConnectorConfig) × Backend :=
  b.call .readConfiguration (·.configuration? name) id

def readSchedule (b : Backend) (name : String) : Except Error (Option Schedule) × Backend :=
  b.call .readSchedule (·.schedule? name) id

def readCheckpoint (b : Backend) (name : String) : Except Error (Option String) × Backend :=
  b.call .readCheckpoint (·.checkpoint? name) id

def storeConfiguration (b : Backend) (name : String) (config : ConnectorConfig) :
    Except Error Unit × Backend :=
  b.call .storeConfiguration (fun _ => ()) (·.storeConfiguration name config)

def storeSchedule (b : Backend) (name : String) (schedule : Schedule) :
    Except Error Unit × Backend :=
  b.call .storeSchedule (fun _ => ()) (·.storeSchedule name schedule)

def storeCheckpoint (b : Backend) (name : String) (checkpoint : Option String) :
    Except Error Unit × Backend :=
  b.call .storeCheckpoint (fun _ => ()) (·.storeCheckpoint name checkpoint)

def removeTask (b : Backend) (name : String) : Except Error Unit × Backend :=
  b.call .removeTask (fun _ => ()) (·.removeTask name)

/-- A backend none of whose calls fail. -/
def Reliable (b : Backend) : Prop := ∀ m, true ∉ b.faults m

end Backend

end BatchTraversal
