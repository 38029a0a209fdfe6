import BatchTraversal.Text.Numeral
import BatchTraversal.Time.Duration

/-!
# Outcomes of a batch

A traversal reports a batch by one signed number of 64 bits: the number of items, or one of two
negative codes. `BatchResult.ofCode` reads it as a tagged outcome, a delay policy and a count, which
is what the throttle, the metrics and the sink of results work with.
-/

namespace BatchTraversal

/-- What happens before the next batch of a connector. -/
inductive DelayPolicy where
  /-- The next batch may run at once. -/
  | immediate
  /-- There was no new content: wait for the schedule's retry delay. -/
  | poll
  /-- Something went wrong: wait for the error backoff. -/
  | error
  deriving DecidableEq, Repr, Inhabited

/-- The outcome of one executed batch. -/
structure BatchResult where
  policy : DelayPolicy
  /-- The items processed. -/
  count : Nat
  /-- The time spent in the traversal. -/
  elapsed : Duration := .zero
  deriving DecidableEq, Repr, Inhabited

/-- The code of a batch that found no new content. -/
def pollingWaitCode : Int := -2

/-- The code of a batch that failed. -/
def errorWaitCode : Int := -3

/-- The code of a batch of `count` items: the signed number with the same 64 bits. -/
def countCode (count : Nat) : Int := Numeral.asSigned64 count

/-- The outcome that a code means. Every negative code but the one for no new content is an
error. -/
def BatchResult.ofCode (code : Int) : BatchResult :=
  if 0 ≤ code then { policy := .immediate, count := code.toNat }
  else if code = pollingWaitCode then { policy := .poll, count := 0 }
  else { policy := .error, count := 0 }

end BatchTraversal
