import BatchTraversal.Time.Duration

/-!
# Settings of a worker pool
-/

namespace BatchTraversal

/-- The size and the timeouts of a worker pool. -/
structure PoolSettings where
  name : String
  workers : Nat
  /-- How long a task may take from its submission; none if tasks are never reclaimed. -/
  lifetime : Option Duration := none
  /-- How long a cancelled task may keep its worker. -/
  grace : Duration := .ofSeconds 5
  /-- The pause between two looks at the running tasks. -/
  monitorInterval : Duration := .ofMillis 250
  deriving DecidableEq, Repr

end BatchTraversal
