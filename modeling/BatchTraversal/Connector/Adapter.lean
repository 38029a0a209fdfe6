import BatchTraversal.Connector.Config
import BatchTraversal.Error

/-!
# Adapters

An adapter answers calls for content: the first call of a traversal starts it, a later one resumes it
from a checkpoint. It hands over a page of documents, or says that there is nothing new, or fails. It
may also crash, which ends the batch that called it without a word.
-/

namespace BatchTraversal

/-- Documents handed over by one call. -/
structure Page where
  count : Nat
  /-- Where to resume next time, if the adapter advanced. -/
  checkpoint : Option String
  deriving DecidableEq, Repr

/-- How a call to an adapter ends. -/
inductive Answer where
  | page (page : Page)
  | noContent
  | failed (cause : TraversalError)
  | crashed
  deriving DecidableEq, Repr

end BatchTraversal
