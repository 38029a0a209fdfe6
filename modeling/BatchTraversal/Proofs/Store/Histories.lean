import Mathlib.Algebra.Group.Nat.Defs
import Mathlib.Data.Nat.Init
import BatchTraversal.Proofs.Detection.Listings

/-!
# Histories of a store

Everything that is ever done to a store is one of four edits (`Store.Edit`). A write takes the next stamp
and leaves it, with its value, at the facet that it writes; a cleared checkpoint and a removal leave
nothing. So what is stored at any moment of a history comes from the last edit that was about its facet,
and its stamp says which one that was (`Store.exists_source`): the stamps of two writes differ, whatever
was cleared, removed and made again in between, as long as there are fewer of them than 64 bits can
count. A process that finds the stamps of a listing unchanged has therefore missed nothing
(`Store.stamps_tell_writes_apart`).
-/

namespace BatchTraversal

/-- What is stored for a connector has three facets. -/
inductive Facet where
  | configuration
  | schedule
  | checkpoint
  deriving DecidableEq, Repr

/-- The values of a facet. -/
def Facet.Value : Facet → Type
  | configuration => ConnectorConfig
  | schedule => Schedule
  | checkpoint => String

instance : (f : Facet) → DecidableEq f.Value
  | .configuration => inferInstanceAs (DecidableEq ConnectorConfig)
  | .schedule => inferInstanceAs (DecidableEq Schedule)
  | .checkpoint => inferInstanceAs (DecidableEq String)

/-- The stamp of a facet in a listing. Stamps are kept in 64 bits. -/
def TaskStamps.word? (t : TaskStamps) : Facet → Option UInt64
  | .configuration => t.configuration.map UInt64.ofNat
  | .schedule => t.schedule.map UInt64.ofNat
  | .checkpoint => t.checkpoint.map UInt64.ofNat

/-- What is stored of a facet. -/
def StoredTask.facet? (t : StoredTask) : (f : Facet) → Option (Stamped f.Value)
  | .configuration => t.configuration
  | .schedule => t.schedule
  | .checkpoint => t.checkpoint

@[simp] theorem StoredTask.facet?_empty (f : Facet) : ({} : StoredTask).facet? f = none := by
  cases f <;> rfl

namespace Store

/-- The value of a facet, as it is read. -/
def value? (st : Store) (name : String) : (f : Facet) → Option f.Value
  | .configuration => st.configuration? name
  | .schedule => st.schedule? name
  | .checkpoint => st.checkpoint? name

/-- The stamp of a facet, also of one that is not listed. -/
def stamp? (st : Store) (name : String) (f : Facet) : Option UInt64 :=
  ((st.task name).facet? f).map (UInt64.ofNat ·.stamp)

/-! ## Edits -/

/-- What can be done to a store. -/
inductive Edit where
  | configuration (name : String) (value : ConnectorConfig)
  | schedule (name : String) (value : Schedule)
  | checkpoint (name : String) (value : Option String)
  | removal (name : String)
  deriving DecidableEq

namespace Edit

/-- The store after an edit. -/
def apply : Edit → Store → Store
  | .configuration name value, st => st.storeConfiguration name value
  | .schedule name value, st => st.storeSchedule name value
  | .checkpoint name value, st => st.storeCheckpoint name value
  | .removal name, st => st.removeTask name

/-- The connector that an edit is about. -/
def name : Edit → String
  | .configuration name _ | .schedule name _ | .checkpoint name _ | .removal name => name

/-- The facet that an edit writes; a removal is about all of them. -/
def facet? : Edit → Option Facet
  | .configuration .. => some .configuration
  | .schedule .. => some .schedule
  | .checkpoint .. => some .checkpoint
  | .removal _ => none

/-- Whether an edit is about another connector or writes another facet. -/
def Spares (e : Edit) (name : String) (f : Facet) : Prop :=
  e.name ≠ name ∨ ∃ g, e.facet? = some g ∧ g ≠ f

/-- What an edit leaves at a facet, if it does not spare it. -/
def leaves (name : String) : (f : Facet) → Edit → Option (Option f.Value)
  | .configuration, .configuration other value => if other = name then some (some value) else none
  | .schedule, .schedule other value => if other = name then some (some value) else none
  | .checkpoint, .checkpoint other value => if other = name then some value else none
  | _, .removal other => if other = name then some none else none
  | _, _ => none

end Edit

variable {st : Store} {name other : String} {f g : Facet}

theorem value?_eq : st.value? name f = ((st.task name).facet? f).map (·.value) := by
  cases f <;> rfl

/-- A listing shows the stamps of what is stored. -/
theorem word?_of_listed {stamps : TaskStamps} (h : st.list.find? name = some stamps) :
    stamps.word? f = st.stamp? name f := by
  rw [find?_list] at h
  split at h
  · cases h
    cases f <;> exact Option.map_map ..
  · cases h

namespace Edit

variable {e : Edit}

theorem leaves_eq_none_iff : e.leaves name f = none ↔ e.Spares name f := by
  cases e <;> cases f <;> simp [leaves, Spares, facet?, Edit.name]

/-- An edit leaves a value at one facet of one connector only. -/
theorem leaves_unique {v : f.Value} {w : g.Value} (hv : e.leaves name f = some (some v))
    (hw : e.leaves other g = some (some w)) : name = other ∧ f = g := by
  cases e <;> cases f <;> cases g <;> simp_all [leaves]

theorem task_apply_of_ne (h : name ≠ e.name) : (e.apply st).task name = st.task name := by
  cases e with
  | configuration | schedule | checkpoint => exact st.task_write_of_ne _ h
  | removal n => exact (st.task_removeTask n name).trans (if_neg h)

/-- What is stored of a facet after an edit: a value that the edit leaves has the last stamp. -/
theorem facet?_apply (e : Edit) (st : Store) (name : String) (f : Facet) :
    ((e.apply st).task name).facet? f =
      (e.leaves name f).elim ((st.task name).facet? f) (·.map (⟨(e.apply st).lastStamp, ·⟩)) := by
  by_cases hn : name = e.name
  · subst hn
    cases e with
    | configuration | schedule | checkpoint =>
      rw [apply, Edit.name]
      cases f <;> simp only [leaves, if_true] <;>
        exact (congrArg (StoredTask.facet? · _) (st.task_write_self _ _)).trans rfl
    | removal n =>
      rw [apply, Edit.name, task_removeTask, if_pos rfl]
      cases f <;> simp only [leaves, if_true] <;> rfl
  · rw [task_apply_of_ne hn, leaves_eq_none_iff.2 (.inl (Ne.symm hn))]
    rfl

theorem facet?_apply_of_spares (h : e.Spares name f) :
    ((e.apply st).task name).facet? f = (st.task name).facet? f := by
  rw [facet?_apply, leaves_eq_none_iff.2 h]
  rfl

theorem lastStamp_apply_le (e : Edit) (st : Store) :
    st.lastStamp ≤ (e.apply st).lastStamp ∧ (e.apply st).lastStamp ≤ st.lastStamp + 1 := by
  cases e with
  | removal => exact ⟨Nat.le_refl _, Nat.le_succ _⟩
  | configuration | schedule | checkpoint => exact ⟨Nat.le_succ _, Nat.le_refl _⟩

/-- An edit that leaves a value takes a stamp. -/
theorem lastStamp_apply_of_leaves {v : f.Value} (h : e.leaves name f = some (some v)) :
    (e.apply st).lastStamp = st.lastStamp + 1 := by
  cases e with
  | removal => cases f <;> simp [leaves] at h
  | configuration | schedule | checkpoint => rfl

end Edit

/-! ## Histories -/

/-- The store after some edits, from the beginning. -/
def after (edits : List Edit) : Store := edits.foldl (fun st e => e.apply st) {}

variable {edits : List Edit} {i j k : Nat}

theorem after_take_succ {e : Edit} (h : edits[i]? = some e) :
    after (edits.take (i + 1)) = e.apply (after (edits.take i)) := by
  rw [List.take_add_one, h]
  exact List.foldl_append ..

theorem after_take_succ_of_none (h : edits[i]? = none) :
    after (edits.take (i + 1)) = after (edits.take i) := by
  rw [List.take_add_one, h]
  exact congrArg after (List.append_nil _)

/-- Whether what is stored of a facet after the first `i` edits comes from edit `k`: it has left the
value, and the later ones have spared it. -/
structure Source (edits : List Edit) (k i : Nat) (name : String) (f : Facet) (v : f.Value) :
    Prop where
  before : k < i
  leaves : ∃ e, edits[k]? = some e ∧ e.leaves name f = some (some v)
  spared : ∀ j e, k < j → j < i → edits[j]? = some e → e.Spares name f

/-- The number of stamps that are in use does not go back. -/
theorem lastStamp_mono (edits : List Edit) (h : i ≤ j) :
    (after (edits.take i)).lastStamp ≤ (after (edits.take j)).lastStamp := by
  induction j, h using Nat.le_induction with
  | base => exact Nat.le_refl _
  | succ j _ ih =>
    cases he : edits[j]? with
    | none => rwa [after_take_succ_of_none he]
    | some e =>
      rw [after_take_succ he]
      exact Nat.le_trans ih (e.lastStamp_apply_le _).1

/-- There are no more stamps in use than edits were made. -/
theorem lastStamp_le (edits : List Edit) (i : Nat) :
    (after (edits.take i)).lastStamp ≤ edits.length := by
  have hle (i : Nat) : (after (edits.take i)).lastStamp ≤ i := by
    induction i with
    | zero => exact Nat.le_refl _
    | succ i ih =>
      cases he : edits[i]? with
      | none =>
        rw [after_take_succ_of_none he]
        omega
      | some e =>
        rw [after_take_succ he]
        have := (e.lastStamp_apply_le (after (edits.take i))).2
        omega
  rw [List.take_eq_take_min]
  exact Nat.le_trans (hle _) (Nat.min_le_right ..)

/-- What is stored at a moment of a history comes from one of the edits before, and its stamp is the one
that this edit took. -/
theorem exists_source {x : Stamped f.Value}
    (hx : ((after (edits.take i)).task name).facet? f = some x) :
    ∃ k, Source edits k i name f x.value ∧ x.stamp = (after (edits.take (k + 1))).lastStamp := by
  induction i with
  | zero =>
    rw [List.take_zero, show (after []).task name = {} from rfl, StoredTask.facet?_empty] at hx
    cases hx
  | succ i ih =>
    -- the last edit is the source, or it spares the facet and the source is that of the moment before
    cases he : edits[i]? with
    | none =>
      rw [after_take_succ_of_none he] at hx
      obtain ⟨k, hk, hstamp⟩ := ih hx
      refine ⟨k, ⟨Nat.lt_succ_of_lt hk.before, hk.leaves, fun j e hj hji hej => ?_⟩, hstamp⟩
      rcases Nat.lt_succ_iff_lt_or_eq.1 hji with hlt | rfl
      · exact hk.spared j e hj hlt hej
      · rw [he] at hej
        cases hej
    | some e =>
      have hfacet := hx
      rw [after_take_succ he, Edit.facet?_apply] at hfacet
      cases hl : e.leaves name f with
      | none =>
        rw [hl] at hfacet
        obtain ⟨k, hk, hstamp⟩ := ih hfacet
        refine ⟨k, ⟨Nat.lt_succ_of_lt hk.before, hk.leaves, fun j d hj hji hdj => ?_⟩, hstamp⟩
        rcases Nat.lt_succ_iff_lt_or_eq.1 hji with hlt | rfl
        · exact hk.spared j d hj hlt hdj
        · rw [he] at hdj
          cases hdj
          exact Edit.leaves_eq_none_iff.1 hl
      | some left =>
        rw [hl] at hfacet
        obtain ⟨v, rfl, rfl⟩ := Option.map_eq_some_iff.1 hfacet
        refine ⟨i, ⟨Nat.lt_succ_self i, ⟨e, he, hl⟩, fun j d hj hji _ => ?_⟩, ?_⟩
        · omega
        · rw [after_take_succ he]

/-- Edits that leave values take different stamps. -/
theorem lastStamp_lt_of_leaves {e : Edit} {v : f.Value} (hij : i < j) (he : edits[j]? = some e)
    (hl : e.leaves name f = some (some v)) :
    (after (edits.take (i + 1))).lastStamp < (after (edits.take (j + 1))).lastStamp := by
  rw [after_take_succ he, Edit.lastStamp_apply_of_leaves hl]
  exact Nat.lt_succ_of_le (lastStamp_mono edits hij)

/-- What has the same stamp comes from the same edit. -/
theorem same_source {x : Stamped f.Value} {y : Stamped g.Value}
    (hx : ((after (edits.take i)).task name).facet? f = some x)
    (hy : ((after (edits.take j)).task other).facet? g = some y) (hstamp : x.stamp = y.stamp) :
    ∃ k, Source edits k i name f x.value ∧ Source edits k j other g y.value := by
  obtain ⟨k, hk, hxk⟩ := exists_source hx
  obtain ⟨l, hl, hyl⟩ := exists_source hy
  rw [hxk, hyl] at hstamp
  obtain ⟨e, hek, hlk⟩ := hk.leaves
  obtain ⟨d, hdl, hll⟩ := hl.leaves
  rcases Nat.lt_trichotomy k l with hlt | rfl | hlt
  · have := lastStamp_lt_of_leaves hlt hdl hll
    omega
  · exact ⟨k, hk, hl⟩
  · have := lastStamp_lt_of_leaves hlt hek hlk
    omega

/-- What comes from one edit is about one facet of one connector, and has one value. -/
theorem Source.unique {v : f.Value} {w : g.Value} (h : Source edits k i name f v)
    (h' : Source edits k j other g w) : name = other ∧ f = g ∧ HEq v w := by
  obtain ⟨e, he, hv⟩ := h.leaves
  obtain ⟨d, hd, hw⟩ := h'.leaves
  rw [he] at hd
  cases hd
  obtain ⟨rfl, rfl⟩ := Edit.leaves_unique hv hw
  rw [hv] at hw
  cases hw
  exact ⟨rfl, rfl, .rfl⟩

/-- In a history that 64 bits can count, stamps are equal in 64 bits only if they are equal. -/
theorem stamp_eq_of_word_eq (h : edits.length < 2 ^ 64) {x : Stamped f.Value} {y : Stamped g.Value}
    (hx : ((after (edits.take i)).task name).facet? f = some x)
    (hy : ((after (edits.take j)).task other).facet? g = some y)
    (hw : UInt64.ofNat x.stamp = UInt64.ofNat y.stamp) : x.stamp = y.stamp := by
  obtain ⟨k, -, hk⟩ := exists_source hx
  obtain ⟨l, -, hl⟩ := exists_source hy
  have hxle := lastStamp_le edits (k + 1)
  have hyle := lastStamp_le edits (l + 1)
  have hmod := congrArg UInt64.toNat hw
  rw [UInt64.toNat_ofNat', UInt64.toNat_ofNat', Nat.mod_eq_of_lt (by omega),
    Nat.mod_eq_of_lt (by omega)] at hmod
  exact hmod

/-- In every history of fewer than `2 ^ 64` edits: a facet that is listed with the same stamp, or both
times with none, has the same value; stamps that are the same come from the same write; and an edit
leaves the stamps and values of all facets that it spares, and the listing of all other connectors. -/
theorem stamps_tell_writes_apart {edits : List Edit} (h : edits.length < 2 ^ 64) :
    (∀ i j name f stamps stamps', (after (edits.take i)).list.find? name = some stamps →
      (after (edits.take j)).list.find? name = some stamps' → stamps.word? f = stamps'.word? f →
      (after (edits.take i)).value? name f = (after (edits.take j)).value? name f) ∧
    (∀ i j name other f g n, (after (edits.take i)).stamp? name f = some n →
      (after (edits.take j)).stamp? other g = some n → name = other ∧ f = g ∧
        ∃ k v, Source edits k i name f v ∧ Source edits k j name f v) ∧
    ∀ i e, edits[i]? = some e →
      (∀ name f, e.Spares name f →
        (after (edits.take (i + 1))).stamp? name f = (after (edits.take i)).stamp? name f ∧
        (after (edits.take (i + 1))).value? name f = (after (edits.take i)).value? name f) ∧
      ∀ name, name ≠ e.name →
        (after (edits.take (i + 1))).list.find? name = (after (edits.take i)).list.find? name := by
  have hsame (i j : Nat) (name other : String) (f g : Facet) (x : Stamped f.Value)
      (y : Stamped g.Value) (hx : ((after (edits.take i)).task name).facet? f = some x)
      (hy : ((after (edits.take j)).task other).facet? g = some y)
      (hw : UInt64.ofNat x.stamp = UInt64.ofNat y.stamp) : name = other ∧ f = g ∧ HEq x.value y.value ∧
        ∃ k, Source edits k i name f x.value ∧ Source edits k j other g y.value := by
    obtain ⟨k, hk, hl⟩ := same_source hx hy (stamp_eq_of_word_eq h hx hy hw)
    obtain ⟨hname, hfacet, hvalue⟩ := hk.unique hl
    exact ⟨hname, hfacet, hvalue, k, hk, hl⟩
  refine ⟨?_, ?_, ?_⟩
  · intro i j name f stamps stamps' hi hj hw
    rw [word?_of_listed hi, word?_of_listed hj, stamp?, stamp?] at hw
    rw [value?_eq, value?_eq]
    cases hx : ((after (edits.take i)).task name).facet? f with
    | none =>
      rw [hx, Option.map_none, eq_comm, Option.map_eq_none_iff] at hw
      rw [hw]
    | some x =>
      rw [hx, Option.map_some, eq_comm, Option.map_eq_some_iff] at hw
      obtain ⟨y, hy, hyx⟩ := hw
      obtain ⟨-, -, hvalue, -⟩ := hsame i j name name f f x y hx hy hyx.symm
      rw [hy, Option.map_some, Option.map_some, eq_of_heq hvalue]
  · intro i j name other f g n hi hj
    obtain ⟨x, hx, rfl⟩ := Option.map_eq_some_iff.1 hi
    obtain ⟨y, hy, hyx⟩ := Option.map_eq_some_iff.1 hj
    obtain ⟨rfl, rfl, hvalue, k, hk, hl⟩ := hsame i j name other f g x y hx hy hyx.symm
    rw [eq_of_heq hvalue] at hk
    exact ⟨rfl, rfl, k, y.value, hk, hl⟩
  · intro i e he
    rw [after_take_succ he]
    constructor
    · intro name f hf
      rw [stamp?, stamp?, value?_eq, value?_eq, Edit.facet?_apply_of_spares hf]
      exact ⟨rfl, rfl⟩
    · intro name hname
      rw [find?_list, find?_list, Edit.task_apply_of_ne hname]

/-- A checkpoint is stored, cleared and stored again, then the connector is removed and configured again as
it was. -/
def churn : List Edit :=
  [.configuration "a" { kind := "any" }, .checkpoint "a" (some "1"), .checkpoint "a" none,
    .checkpoint "a" (some "1"), .removal "a", .configuration "a" { kind := "any" }]

/-- The configuration keeps its stamp up to the removal, so its value is what it was, and so is the source
of both. -/
theorem stamps_tell_writes_apart_churn : churn.length < 2 ^ 64 ∧
    (after (churn.take 1)).value? "a" .configuration =
      (after (churn.take 4)).value? "a" .configuration ∧
    ∃ k v, Source churn k 1 "a" .configuration v ∧ Source churn k 4 "a" .configuration v := by
  have hlength : churn.length < 2 ^ 64 := by decide
  have h := stamps_tell_writes_apart hlength
  have hfirst : (after (churn.take 1)).stamp? "a" .configuration = some 1 := by decide +kernel
  have hfourth : (after (churn.take 4)).stamp? "a" .configuration = some 1 := by decide +kernel
  refine ⟨hlength, ?_, (h.2.1 1 4 "a" "a" _ _ 1 hfirst hfourth).2.2⟩
  refine h.1 1 4 "a" .configuration ⟨some 1, none, none⟩ ⟨some 1, none, some 4⟩ ?_ ?_ rfl <;>
    decide +kernel

end Store

end BatchTraversal
