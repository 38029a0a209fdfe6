import BatchTraversal.NameMap

/-!
# Connector configurations

The configuration of one connector: the kind that implements it and the parameters handed to that
kind.
-/

namespace BatchTraversal

/-- The configuration of one connector. -/
structure ConnectorConfig where
  /-- The name of the kind of connector. -/
  kind : String
  params : NameMap String := .empty
  deriving DecidableEq

namespace ConnectorConfig

instance : Inhabited ConnectorConfig := ⟨{ kind := "" }⟩

/-- The configuration with one parameter set. -/
def withParam (c : ConnectorConfig) (key value : String) : ConnectorConfig :=
  { c with params := c.params.insert key value }

/-- The value of a parameter. -/
def param? (c : ConnectorConfig) (key : String) : Option String := c.params.find? key

end ConnectorConfig

end BatchTraversal
