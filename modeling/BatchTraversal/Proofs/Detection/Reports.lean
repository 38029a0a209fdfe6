import BatchTraversal.Proofs.Detection.Requests
import BatchTraversal.Proofs.Store.Histories

/-!
# What is reported of a facet

A report of a change carries a value of one facet of one connector (`Report.changed?`), and one of an addition
stands for a value of each of its facets (`Report.announced?`). Whoever listens goes by the one that was told
last (`Report.last?`).
-/

namespace BatchTraversal

/-- The stamp of a facet. -/
def TaskStamps.stamp? (t : TaskStamps) : Facet → Option Nat
  | .configuration => t.configuration
  | .schedule => t.schedule
  | .checkpoint => t.checkpoint

theorem StoredTask.stamp?_stamps (t : StoredTask) (f : Facet) :
    t.stamps.stamp? f = (t.facet? f).map (·.stamp) := by
  cases f <;> rfl

/-- The change that says that a facet differs. -/
def Facet.change : Facet → String → Change
  | configuration, name => .configuration name
  | schedule, name => .schedule name
  | checkpoint, name => .checkpoint name

namespace Report

/-- The value that a report of a changed facet carries. -/
def changed? (name : String) : (f : Facet) → Report → Option (Option f.Value)
  | .configuration, ⟨.configurationChanged other config, _⟩ =>
    if other = name then some (some config) else none
  | .schedule, ⟨.scheduleChanged other schedule, _⟩ => if other = name then some schedule else none
  | .checkpoint, ⟨.checkpointChanged other checkpoint, _⟩ =>
    if other = name then some checkpoint else none
  | _, _ => none

/-- The value of a facet with which a connector was announced: the configuration that the report carries,
and of the other facets what was stored when the detection listed the connector. -/
def announced? (name : String) : (f : Facet) → Report → Option (Option f.Value)
  | .configuration, ⟨.added other config, _⟩ => if other = name then some (some config) else none
  | f, ⟨.added other _, listed⟩ => if other = name then some (listed.value? name f) else none
  | _, _ => none

/-- The value of a facet that was told last: that of the last change or, if there was none, that with which
the connector was announced. -/
def last? (name : String) (f : Facet) (l : List Report) : Option (Option f.Value) :=
  (l.filterMap (changed? name f)).getLast?.or (l.filterMap (announced? name f)).getLast?

variable {name : String} {f g : Facet} {l : List Report} {r : Report}

theorem changed?_of_ne (h : r.notification.name ≠ name) : changed? name f r = none := by
  obtain ⟨n, listed⟩ := r
  cases n <;> cases f <;> simp_all [changed?, Notification.name]

theorem announced?_of_ne (h : r.notification.name ≠ name) : announced? name f r = none := by
  obtain ⟨n, listed⟩ := r
  cases n <;> cases f <;> simp_all [announced?, Notification.name]

/-- A report that says nothing of a facet leaves what was told last. -/
theorem last?_append_of_none (hc : changed? name f r = none) (ha : announced? name f r = none) :
    last? name f (l ++ [r]) = last? name f l := by
  simp [last?, hc, ha]

/-- The value of a change is told last. -/
theorem last?_append_of_changed {v : Option f.Value} (h : changed? name f r = some v) :
    last? name f (l ++ [r]) = some v := by
  simp [last?, h]

theorem last?_of_unheard (h : ∀ r ∈ l, r.notification.name ≠ name) : last? name f l = none := by
  rw [last?, List.filterMap_eq_nil_iff.2 fun r hr => changed?_of_ne (h r hr),
    List.filterMap_eq_nil_iff.2 fun r hr => announced?_of_ne (h r hr)]
  rfl

/-- What a connector is announced with is told last if nothing was told of it before. -/
theorem last?_append_of_announced {v : Option f.Value} (h : ∀ r ∈ l, r.notification.name ≠ name)
    (hc : changed? name f r = none) (ha : announced? name f r = some v) :
    last? name f (l ++ [r]) = some v := by
  have hnone := List.filterMap_eq_nil_iff.2 fun r hr => changed?_of_ne (f := f) (h r hr)
  simp [last?, hnone, hc, ha]

end Report

namespace Facet

variable {f g : Facet} {name : String} {st : Store}

theorem name_change (f : Facet) (name : String) : (f.change name).name = name := by
  cases f <;> rfl

theorem change_injective (h : f.change name = g.change name) : f = g := by
  cases f <;> cases g <;> first | rfl | cases h

/-- Two entries of a name differ in their facets. -/
theorem exists_change {c : Change} {before after : TaskStamps}
    (h : c ∈ Change.facets name before after) : ∃ f, c = change f name := by
  simp only [Change.facets, List.mem_append] at h
  rcases h with (h | h) | h <;> split at h
  all_goals first
    | exact absurd h List.not_mem_nil
    | rw [List.mem_singleton.1 h]
  · exact ⟨.checkpoint, rfl⟩
  · exact ⟨.configuration, rfl⟩
  · exact ⟨.schedule, rfl⟩

/-- A facet that does not differ has the same stamp in both entries. -/
theorem stamp?_of_not_mem {before after : TaskStamps}
    (h : f.change name ∉ Change.facets name before after) : before.stamp? f = after.stamp? f := by
  by_contra hne
  refine h ?_
  cases f <;> simp_all [TaskStamps.stamp?, Change.facets, change]

/-- The change of a facet of a configured connector is told with the stored value, and says nothing of the
other facets. -/
theorem told?_change (g : Facet) (hc : (st.configuration? name).isSome) :
    ∃ n, (g.change name).told? st = some n ∧ ∀ listed f,
      Report.announced? name f ⟨n, listed⟩ = none ∧
      Report.changed? name f ⟨n, listed⟩ = if g = f then some (st.value? name f) else none := by
  obtain ⟨config, hconfig⟩ := Option.isSome_iff_exists.1 hc
  cases g with
  | configuration =>
    refine ⟨.configurationChanged name config, by rw [change, Change.told?, hconfig]; rfl, ?_⟩
    intro listed f
    refine ⟨by cases f <;> rfl, ?_⟩
    cases f <;> simp only [Report.changed?, Store.value?, hconfig] <;> rfl
  | schedule =>
    refine ⟨.scheduleChanged name (st.schedule? name), rfl, ?_⟩
    intro listed f
    cases f <;> simp [Report.announced?, Report.changed?, Store.value?]
  | checkpoint =>
    refine ⟨.checkpointChanged name (st.checkpoint? name), rfl, ?_⟩
    intro listed f
    cases f <;> simp [Report.announced?, Report.changed?, Store.value?]

end Facet

namespace Report

variable {name : String} {f : Facet} {l : List Report} {st listed : Store}

/-- Reading the change of a facet of a configured connector tells the stored value of this facet, and leaves
what was told of the others. -/
theorem last?_append_change (g : Facet) (hc : (st.configuration? name).isSome) :
    last? name f (l ++ (((g.change name).told? st).map (Report.mk · listed)).toList) =
      if g = f then some (st.value? name f) else last? name f l := by
  obtain ⟨n, hn, hsays⟩ := Facet.told?_change g hc
  obtain ⟨hann, hchanged⟩ := hsays listed f
  rw [hn]
  by_cases hg : g = f
  · rw [if_pos hg] at hchanged ⊢
    exact last?_append_of_changed hchanged
  · rw [if_neg hg] at hchanged ⊢
    exact last?_append_of_none hchanged hann

/-- Reading a change of another connector tells nothing of it. -/
theorem last?_append_other {c : Change} (hname : c.name ≠ name) :
    last? name f (l ++ ((c.told? st).map (Report.mk · listed)).toList) = last? name f l := by
  cases hn : c.told? st with
  | none => exact congrArg (last? name f) (List.append_nil l)
  | some n =>
    have hnname : n.name ≠ name := Change.name_told? hn ▸ hname
    exact last?_append_of_none (changed?_of_ne hnname) (announced?_of_ne hnname)

end Report

end BatchTraversal
