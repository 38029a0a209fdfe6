import BatchTraversal.Connector.Synthetic

/-!
# Kinds of connectors

A kind of connector says which configurations it accepts and makes the adapter of a connector. The
kinds a process knows are listed by name; a configuration selects its kind.
-/

namespace BatchTraversal

/-- What answers the calls of a connector. -/
inductive Adapter where
  /-- Generated content. -/
  | synthetic (params : SyntheticParams)
  /-- A repository outside, which may answer anything. -/
  | external
  deriving DecidableEq, Repr

/-- Whether an adapter can give this answer to a call. -/
def Adapter.permits (a : Adapter) (checkpoint : Option String) (maxItems : Nat) (cancelled : Bool)
    (answer : Answer) : Prop :=
  match a with
  | synthetic params => answer = params.answer checkpoint maxItems cancelled
  | external => True

/-- A kind of connector: its name, which configurations it refuses for which reason, and how it makes
the adapter of a connector. -/
structure ConnectorKind where
  name : String
  validate : ConnectorConfig → Except String Unit
  instantiate : (connector : String) → ConnectorConfig → Except String Adapter

namespace ConnectorKind

/-- The kind that generates its content. -/
def synthetic : ConnectorKind where
  name := "synthetic"
  validate config := (SyntheticParams.ofConfig config).map fun _ => ()
  instantiate _ config := (SyntheticParams.ofConfig config).map .synthetic

end ConnectorKind

/-- The kinds of connectors that a process knows, by name. -/
structure KindRegistry where
  kinds : NameMap ConnectorKind := .empty

namespace KindRegistry

instance : Inhabited KindRegistry := ⟨{}⟩

/-- The registry with one more kind, over one of the same name. -/
def register (r : KindRegistry) (kind : ConnectorKind) : KindRegistry :=
  ⟨r.kinds.insert kind.name kind⟩

/-- The registry of some kinds. -/
def ofList (kinds : List ConnectorKind) : KindRegistry := kinds.foldl register {}

/-- The kind that a configuration selects. -/
def lookup (r : KindRegistry) (config : ConnectorConfig) : Except Error ConnectorKind :=
  match r.kinds.find? config.kind with
  | none => .error (.unknownKind config.kind)
  | some kind => .ok kind

/-- Whether a configuration is acceptable for a connector. -/
def validate (r : KindRegistry) (connector : String) (config : ConnectorConfig) :
    Except Error Unit :=
  match r.lookup config with
  | .error e => .error e
  | .ok kind => (kind.validate config).mapError (.adapterRejected connector)

/-- Makes the adapter of a connector. -/
def instantiate (r : KindRegistry) (connector : String) (config : ConnectorConfig) :
    Except Error Adapter :=
  match r.lookup config with
  | .error e => .error e
  | .ok kind => (kind.instantiate connector config).mapError (.adapterRejected connector)

/-- The registry in words. -/
def shown (r : KindRegistry) : String :=
  Text.labelled "ConnectorTypeRegistry" [("types", Text.quotedList r.kinds.keys)]

end KindRegistry

end BatchTraversal
