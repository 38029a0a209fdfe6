import BatchTraversal.Schedule.Basic

/-!
# Errors

What can go wrong in an administrative call, a scheduling pass or a batch, and how it is told.
-/

namespace BatchTraversal

/-- Why a traversal of a repository failed. -/
inductive TraversalError where
  | repository (reason : String)
  | cancelled
  deriving DecidableEq, Repr

def TraversalError.message : TraversalError → String
  | repository reason => "Repository error: " ++ reason
  | cancelled => "Traversal cancelled"

/-- Why an operation failed. -/
inductive Error where
  | inputOutput (reason : String)
  | connectorNotFound (connector : String)
  | unknownKind (kind : String)
  | malformedSchedule (cause : ScheduleError)
  | adapterRejected (connector reason : String)
  | traversal (reason : String)
  | timeout (connector : String)
  | store (reason : String)
  | invalidWorkerCount (count : Nat)
  | poolShutDown
  deriving DecidableEq, Repr

/-- The error in words. -/
def Error.message : Error → String
  | inputOutput reason => "IO error: " ++ reason
  | connectorNotFound connector => "Connector not found: " ++ connector
  | unknownKind kind => "Unknown connector type: " ++ kind
  | malformedSchedule cause => "Malformed schedule: " ++ cause.message
  | adapterRejected connector reason =>
    "Connector " ++ connector ++ " rejected configuration: " ++ reason
  | traversal reason => "Traversal failed: " ++ reason
  | timeout connector => "Batch timed out: " ++ connector
  | store reason => "Store error: " ++ reason
  | invalidWorkerCount count => "Worker pool needs at least one worker, got " ++ toString count
  | poolShutDown => "Worker pool is shut down"

/-- A failed traversal as the error of an operation. -/
def Error.ofTraversal (cause : TraversalError) : Error := .traversal cause.message

end BatchTraversal
