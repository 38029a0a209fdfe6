/-!
# Settling

A system takes steps by itself until there is none left to take.
-/

namespace BatchTraversal

/-- Takes steps as long as there is one, at most `fuel` many. -/
def settle {σ : Type} (step : σ → Option σ) : (fuel : Nat) → σ → σ
  | 0, s => s
  | fuel + 1, s =>
    match step s with
    | none => s
    | some s => settle step fuel s

end BatchTraversal
