import BatchTraversal.Connector.Kind

/-!
# The pages of synthetic connectors

A page of a synthetic connector begins where the call that it answers started or resumed the traversal, and
its checkpoint is where it ends, as a decimal number that reads back as this position
(`SyntheticParams.answer_page`).
-/

namespace BatchTraversal

namespace SyntheticParams

variable {p : SyntheticParams} {config : ConnectorConfig}

/-- The position from which a call goes on: the first one if it starts the traversal, otherwise the one that
its checkpoint stands for. -/
def position? : Option String → Option Nat
  | none => some 0
  | some text => Numeral.natural? Numeral.max64 text.toList

theorem number_le {key : String} {default n : Nat} (h : number config key default = .ok n)
    (hd : default ≤ Numeral.max64) : n ≤ Numeral.max64 := by
  unfold number at h
  split at h
  · cases h
    exact hd
  · split at h
    · next hn =>
      cases h
      simp only [Numeral.natural?, Option.filter_eq_some_iff, decide_eq_true_eq] at hn
      exact hn.2
    · cases h

/-- The number of items of a connector is one of 64 bits. -/
theorem total_le (h : ofConfig config = .ok p) : p.total ≤ Numeral.max64 := by
  unfold ofConfig at h
  split at h
  · cases h
  · next total htotal =>
    split at h
    · cases h
    · split at h
      · cases h
      · split at h
        · cases h
        · cases h
          exact number_le htotal (by decide)

/-- A page begins where the call goes on, ends within the items, and its checkpoint is where it ends. -/
theorem answer_page {checkpoint : Option String} {maxItems : Nat} {cancelled : Bool} {page : Page}
    (h : p.answer checkpoint maxItems cancelled = .page page) :
    ∃ start, position? checkpoint = some start ∧ start + page.count ≤ p.total ∧
      page.checkpoint = some (toString (start + page.count)) := by
  have hpage {start : Nat} (h : p.pageAt start maxItems cancelled = .page page) :
      start + page.count ≤ p.total ∧ page.checkpoint = some (toString (start + page.count)) := by
    unfold pageAt at h
    split at h
    · cases h
    · split at h
      · cases h
      · cases h
        exact ⟨by dsimp only; omega, rfl⟩
  unfold answer at h
  split at h
  · exact ⟨0, rfl, hpage h⟩
  · split at h
    · next start hstart => exact ⟨start, hstart, hpage h⟩
    · cases h

end SyntheticParams

/-- A registry of kinds makes adapters of synthetic connectors as their kind does. -/
theorem KindRegistry.instantiate_synthetic {kinds : KindRegistry}
    (hkinds : kinds.kinds.find? "synthetic" = some .synthetic) {name : String} {config : ConnectorConfig}
    (hconfig : config.kind = "synthetic") {adapter : Adapter}
    (h : kinds.instantiate name config = .ok adapter) :
    ∃ params, adapter = .synthetic params ∧ params.total ≤ Numeral.max64 := by
  simp only [instantiate, lookup, hconfig, hkinds, ConnectorKind.synthetic] at h
  cases hparams : SyntheticParams.ofConfig config with
  | error e =>
    rw [hparams] at h
    cases h
  | ok params =>
    rw [hparams] at h
    cases h
    exact ⟨params, rfl, SyntheticParams.total_le hparams⟩

end BatchTraversal
