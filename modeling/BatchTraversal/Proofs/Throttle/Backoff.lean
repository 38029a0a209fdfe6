import BatchTraversal.Throttle
import Mathlib.Tactic.Common

/-!
# The backoff of a connector

A call for one connector changes the throttle's entry of that connector and leaves the others
(`Throttle.Alters`). The end of a backoff (`Throttle.stop?`) is moved by `Throttle.finish` and dropped by
`Throttle.remove`; asking for a hint and counting items leave it.
-/

namespace BatchTraversal

namespace Throttle

/-- The end of the backoff of a connector, whether it is over or not. -/
def stop? (t : Throttle) (name : String) : Option Instant :=
  (t.entries.find? name).bind (·.delayUntil)

/-- The end of the backoff that a delay arms at a time. -/
def armed? (now : Instant) (delay : Option Duration) : Option Instant :=
  delay.bind fun d => if d.isZero then none else now.after? d

/-- Whether at most the entry of one connector has changed. -/
def Alters (t : Throttle) (name : String) (t' : Throttle) : Prop :=
  ∀ other, other ≠ name → t'.entries.find? other = t.entries.find? other

variable {t t' t'' : Throttle} {name other : String} {e : LoadEntry} {now : Instant}

/-- A connector is not backing off if its backoff has ended, or there is none. -/
theorem delays_eq_false_iff :
    t.delays name now = false ↔ ∀ stop, t.stop? name = some stop → stop.nanos ≤ now.nanos := by
  rw [delays, ← stop?]
  cases t.stop? name with
  | none => simp
  | some stop => simp [Instant.before]

/-- A backoff that is armed ends as long after as it was told. -/
theorem after?_of_armed? {d : Duration} {stop : Instant} (h : armed? now (some d) = some stop) :
    now.after? d = some stop := by
  rw [armed?, Option.bind_some] at h
  split at h
  · cases h
  · exact h

/-- A delay that takes time ends so much later. -/
theorem armed?_of_pos {d : Duration} (hd : 0 < d.nanos) : armed? now (some d) = now.after? d := by
  rw [armed?, Option.bind_some, Duration.isZero, if_neg]
  simp only [beq_iff_eq]
  omega

/-! ## Entries -/

/-- Calls for one connector leave the entries of the others, however many there are. -/
theorem Alters.trans (h : t.Alters name t') (h' : t'.Alters name t'') : t.Alters name t'' :=
  fun other hne => (h' other hne).trans (h other hne)

/-- An entry is set for one connector. -/
theorem alters_withEntry (t : Throttle) (name : String) (e : LoadEntry) :
    t.Alters name (t.withEntry name e) := fun _ hne => NameMap.find?_insert_of_ne _ _ hne

/-- An entry is dropped for one connector. -/
theorem alters_remove (t : Throttle) (name : String) : t.Alters name (t.remove name) :=
  fun other hne => by rw [remove, NameMap.find?_erase, if_neg hne]

/-- The end of a backoff is what the entry says it is. -/
theorem stop?_withEntry (t : Throttle) (other name : String) (e : LoadEntry) :
    (t.withEntry other e).stop? name = if name = other then e.delayUntil else t.stop? name := by
  simp only [stop?, withEntry, NameMap.find?_insert]
  split <;> rfl

/-- A new entry does not back off. -/
theorem delayUntil_entryAt (t : Throttle) (name : String) (now : Instant) :
    (t.entryAt name now).delayUntil = t.stop? name := by
  rw [entryAt, stop?]
  cases t.entries.find? name <;> rfl

/-- A new period leaves the backoff as it is. -/
theorem delayUntil_roll {period : Duration} {r : LoadEntry} (h : e.roll? now period = some r) :
    r.delayUntil = e.delayUntil := by
  obtain ⟨stop, -, rfl⟩ := Option.map_eq_some_iff.1 h
  split <;> rfl

/-- Asking for a hint replaces an entry by one that backs off as long. -/
theorem hint_snd (t : Throttle) (name : String) (load : Nat) (now : Instant) :
    ∃ e, (t.hint name load now).2 = t.withEntry name e ∧ e.delayUntil = t.stop? name := by
  unfold hint
  dsimp only
  cases hr : (t.entryAt name now).roll? now t.period with
  | none => exact ⟨_, rfl, delayUntil_entryAt ..⟩
  | some r => exact ⟨r, rfl, (delayUntil_roll hr).trans (delayUntil_entryAt ..)⟩

/-- Counting items replaces an entry by one that backs off as long. -/
theorem fold_snd (t : Throttle) (name : String) (count : Nat) (now : Instant) :
    ∃ e, (t.fold name count now).2 = t.withEntry name e ∧ e.delayUntil = t.stop? name := by
  unfold fold
  dsimp only
  cases hr : (t.entryAt name now).roll? now t.period with
  | none => exact ⟨_, rfl, delayUntil_entryAt ..⟩
  | some r => exact ⟨r.add count now, rfl, (delayUntil_roll hr).trans (delayUntil_entryAt ..)⟩

/-- Arming a backoff replaces an entry by one that backs off as long as it is told. -/
theorem finish_eq (t : Throttle) (name : String) (delay : Option Duration) (now : Instant) :
    (t.finish name delay now).2 =
      t.withEntry name { t.entryAt name now with delayUntil := armed? now delay } := by
  cases delay <;> rfl

/-- A hint makes an entry, or begins a new period in it, for one connector. -/
theorem alters_hint (t : Throttle) (name : String) (load : Nat) (now : Instant) :
    t.Alters name (t.hint name load now).2 := by
  obtain ⟨e, he, -⟩ := t.hint_snd name load now
  exact he ▸ t.alters_withEntry name e

/-- Items are counted for one connector. -/
theorem alters_fold (t : Throttle) (name : String) (count : Nat) (now : Instant) :
    t.Alters name (t.fold name count now).2 := by
  obtain ⟨e, he, -⟩ := t.fold_snd name count now
  exact he ▸ t.alters_withEntry name e

/-- A batch ends for one connector. -/
theorem alters_finish (t : Throttle) (name : String) (delay : Option Duration) (now : Instant) :
    t.Alters name (t.finish name delay now).2 :=
  t.finish_eq name delay now ▸ t.alters_withEntry name _

/-! ## Backoffs -/

@[simp] theorem stop?_hint (t : Throttle) (other name : String) (load : Nat) (now : Instant) :
    (t.hint other load now).2.stop? name = t.stop? name := by
  obtain ⟨e, he, hstop⟩ := t.hint_snd other load now
  rw [he, stop?_withEntry]
  split
  · next hname => rw [hname, hstop]
  · rfl

@[simp] theorem stop?_fold (t : Throttle) (other name : String) (count : Nat) (now : Instant) :
    (t.fold other count now).2.stop? name = t.stop? name := by
  obtain ⟨e, he, hstop⟩ := t.fold_snd other count now
  rw [he, stop?_withEntry]
  split
  · next hname => rw [hname, hstop]
  · rfl

/-- The end of a batch arms the backoff of its connector anew, also by taking an earlier one away. -/
theorem stop?_finish (t : Throttle) (other name : String) (delay : Option Duration) (now : Instant) :
    (t.finish other delay now).2.stop? name =
      if name = other then armed? now delay else t.stop? name := by
  rw [finish_eq, stop?_withEntry]

/-- A removed connector does not back off. -/
theorem stop?_remove (t : Throttle) (other name : String) :
    (t.remove other).stop? name = if name = other then none else t.stop? name := by
  simp only [stop?, remove, NameMap.find?_erase]
  split <;> rfl

end Throttle

end BatchTraversal
