import BatchTraversal.Store.Backend

/-!
# Calls that the store fails

Whether a call fails is decided before it is made (`Backend.fails`). A call that fails does nothing, one
that does not has its effect, and neither uses up the fate of a call of another method.
-/

namespace BatchTraversal

namespace Backend

variable {b : Backend} {m : StoreMethod}

/-- The same store, when it does not fail. -/
def calm (b : Backend) : Backend := { b with faults := fun _ => [] }

/-- A call that fails has no effect and tells which method is unavailable. -/
theorem call_of_fails {α : Type} (h : b.fails m = true) (g : Store → α) (f : Store → Store) :
    b.call m g f = (.error m.unavailable, b.used m) := by
  rw [call, if_pos h]

/-- A call that works returns what it reads and has its effect. -/
theorem call_of_works {α : Type} (h : b.fails m = false) (g : Store → α) (f : Store → Store) :
    b.call m g f = (.ok (g b.store), { b.used m with store := f b.store }) := by
  rw [call, h, if_neg Bool.false_ne_true]

/-- A call fails with the error of its method. -/
theorem error_of_call {α : Type} {g : Store → α} {f : Store → Store} {e : Error}
    (h : (b.call m g f).1 = .error e) : e = m.unavailable := by
  rw [call] at h
  split at h
  · exact (Except.error.inj h).symm
  · cases h

/-- A call uses up the fate of its own method only. -/
theorem fails_used_of_ne (b : Backend) {m m' : StoreMethod} (h : m' ≠ m) :
    (b.used m).fails m' = b.fails m' := by
  simp only [fails, used, withFaults, if_neg h]

/-- A store that does not fail fails no call. -/
theorem Reliable.works (h : b.Reliable) (m : StoreMethod) : b.fails m = false := by
  have hm := h m
  rw [fails]
  cases hl : b.faults m with
  | nil => rfl
  | cons fate rest =>
    rw [hl] at hm
    cases fate with
    | false => rfl
    | true => exact absurd List.mem_cons_self hm

end Backend

end BatchTraversal
