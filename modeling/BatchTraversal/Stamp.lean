/-!
# Version stamps

Every write to the store leaves a stamp on the facet it touches: configuration, schedule or
checkpoint. Comparing the stamps of two listings tells which facets were written in between. An
absent stamp comes before every present one, so that a facet which appears or disappears compares as
changed.
-/

namespace BatchTraversal

/-- The stamps of a connector's three facets. -/
structure TaskStamps where
  configuration : Option Nat := none
  schedule : Option Nat := none
  checkpoint : Option Nat := none
  deriving DecidableEq, Repr, Inhabited

namespace TaskStamps

/-- The order of two stamps, an absent one first. -/
def compareStamp : Option Nat → Option Nat → Ordering
  | none, none => .eq
  | none, some _ => .lt
  | some _, none => .gt
  | some a, some b => compare a b

/-- The order of configuration, then schedule, then checkpoint stamps. -/
def order (a b : TaskStamps) : Ordering :=
  (compareStamp a.configuration b.configuration).then
    ((compareStamp a.schedule b.schedule).then (compareStamp a.checkpoint b.checkpoint))

/-- The same stamp on every facet. -/
def uniform (stamp : Nat) : TaskStamps := ⟨some stamp, some stamp, some stamp⟩

/-- A list of stamp triples in ascending order; equal ones keep their places. -/
def sort (l : List TaskStamps) : List TaskStamps := l.mergeSort fun a b => order a b != .gt

end TaskStamps

end BatchTraversal
