import BatchTraversal.Proofs.Connector.Synthetic
import BatchTraversal.Proofs.Traverser.Stints
import Mathlib.Algebra.GroupWithZero.Nat
import Mathlib.Data.Nat.Find
import Mathlib.Order.Monotone.Basic

/-!
# Paging through the items of a synthetic connector

A traversal of a synthetic connector starts at its first item, and every further call goes on from the
checkpoint of the last page, the decimal text of a position. Whatever number of items each call asks for, the
pages follow one another without a gap and without an overlap, none of them is empty, and together they are
all items; then there is nothing new any more (`SyntheticParams.pages_partition`). The second view of such a
traversal is its progress, the number of items handed over so far (`SyntheticParams.progress`): it is the
position that the checkpoint stands for (`SyntheticParams.position?_reached`), and it grows with every call
until it is the total.
-/

namespace BatchTraversal

namespace SyntheticParams

/-- Whether the number of items is one of 64 bits, and pages have room for an item. -/
structure Valid (p : SyntheticParams) : Prop where
  total_le : p.total ≤ Numeral.max64
  pageSize_pos : 0 < p.pageSize

/-- The checkpoint that a traversal has reached after some calls, if call `n` asks for at most `asked n` items:
the one of the last page. -/
def reached (p : SyntheticParams) (asked : Nat → Nat) : Nat → Option String
  | 0 => none
  | n + 1 => ((p.answer (p.reached asked n) (asked n) false).next?).or (p.reached asked n)

/-- The answer to a call of a traversal. -/
def call (p : SyntheticParams) (asked : Nat → Nat) (n : Nat) : Answer :=
  p.answer (p.reached asked n) (asked n) false

/-- The positions of the items that are handed over by a call of a traversal. -/
def handed (p : SyntheticParams) (asked : Nat → Nat) (n : Nat) : List Nat :=
  match position? (p.reached asked n), p.call asked n with
  | some start, .page page => List.range' start page.count
  | _, _ => []

/-- The number of items that are handed over by the first calls of a traversal. -/
def progress (p : SyntheticParams) (asked : Nat → Nat) : Nat → Nat
  | 0 => 0
  | n + 1 => p.progress asked n + min (min (p.total - p.progress asked n) p.pageSize) (asked n)

variable {p : SyntheticParams} {asked : Nat → Nat} {config : ConnectorConfig} {n : Nat}

/-- The parameters that a configuration gives are valid. -/
theorem valid_of_ofConfig (h : ofConfig config = .ok p) : p.Valid := by
  refine ⟨total_le h, ?_⟩
  unfold ofConfig at h
  split at h
  · cases h
  · split at h
    · cases h
    · split at h
      · cases h
      · split at h
        · cases h
        · next hpos =>
          cases h
          exact Nat.pos_of_ne_zero hpos

theorem answer_of_position? {checkpoint : Option String} {start : Nat}
    (h : position? checkpoint = some start) (maxItems : Nat) (cancelled : Bool) :
    p.answer checkpoint maxItems cancelled = p.pageAt start maxItems cancelled := by
  cases checkpoint with
  | none =>
    cases h
    rfl
  | some text =>
    simp only [answer, show Numeral.natural? Numeral.max64 text.toList = some start from h]

/-- A call that is not cancelled and goes on before the last item is handed a page. -/
theorem pageAt_of_lt {start : Nat} (h : start < p.total) (maxItems : Nat) : p.pageAt start maxItems false =
    .page
      { count := min (min (p.total - start) p.pageSize) maxItems
        checkpoint := some (toString (start + min (min (p.total - start) p.pageSize) maxItems)) } := by
  rw [pageAt, if_neg (Nat.not_le.2 h), Bool.and_false, if_neg Bool.false_ne_true]

/-! ## The progress of a traversal -/

theorem progress_le (p : SyntheticParams) (asked : Nat → Nat) (n : Nat) : p.progress asked n ≤ p.total := by
  induction n with
  | zero => exact Nat.zero_le _
  | succ n ih =>
    rw [progress]
    omega

theorem progress_mono (p : SyntheticParams) (asked : Nat → Nat) : Monotone (p.progress asked) :=
  monotone_nat_of_le_succ fun _ => Nat.le_add_right _ _

/-- A traversal that has not come to its end goes on with every call. -/
theorem progress_lt_succ (hp : p.Valid) (hasked : 0 < asked n) (h : p.progress asked n < p.total) :
    p.progress asked n < p.progress asked (n + 1) := by
  have hsize := hp.pageSize_pos
  rw [progress]
  omega

/-- A traversal comes to its end after as many calls as there are items at the latest. -/
theorem min_le_progress (hp : p.Valid) (hasked : ∀ n, 0 < asked n) (n : Nat) :
    min n p.total ≤ p.progress asked n := by
  induction n with
  | zero => exact Nat.min_le_left ..
  | succ n ih =>
    have hle := p.progress_le asked n
    rcases Nat.lt_or_eq_of_le hle with hlt | heq
    · have hgo := progress_lt_succ hp (hasked n) hlt
      omega
    · have hmono : p.progress asked n ≤ p.progress asked (n + 1) := p.progress_mono asked (Nat.le_succ n)
      omega

/-- The checkpoint of a traversal stands for its progress. -/
theorem position?_reached (hp : p.Valid) (asked : Nat → Nat) (n : Nat) :
    position? (p.reached asked n) = some (p.progress asked n) := by
  induction n with
  | zero => rfl
  | succ n ih =>
    rw [reached, answer_of_position? ih]
    rcases Nat.lt_or_ge (p.progress asked n) p.total with hlt | hge
    · rw [pageAt_of_lt hlt]
      exact Numeral.natural?_toString ((p.progress_le asked (n + 1)).trans hp.total_le)
    · rw [pageAt, if_pos hge, progress, Nat.sub_eq_zero_of_le hge, Nat.zero_min, Nat.zero_min]
      exact ih

theorem call_eq (hp : p.Valid) (asked : Nat → Nat) (n : Nat) :
    p.call asked n = p.pageAt (p.progress asked n) (asked n) false :=
  answer_of_position? (position?_reached hp asked n) ..

/-- A traversal that has come to its end finds nothing new. -/
theorem call_of_le (hp : p.Valid) (h : p.total ≤ p.progress asked n) : p.call asked n = .noContent := by
  rw [call_eq hp, pageAt, if_pos h]

/-- A traversal that has not come to its end is handed a page, up to where its progress is then. -/
theorem call_of_lt (hp : p.Valid) (h : p.progress asked n < p.total) : ∃ page,
    p.call asked n = .page page ∧ p.progress asked n + page.count = p.progress asked (n + 1) ∧
      page.count ≤ min p.pageSize (asked n) ∧ page.checkpoint = p.reached asked (n + 1) := by
  have hcall : p.call asked n = .page
      { count := min (min (p.total - p.progress asked n) p.pageSize) (asked n)
        checkpoint := some (toString (p.progress asked (n + 1))) } := by
    rw [call_eq hp, pageAt_of_lt h]
    rfl
  refine ⟨_, hcall, rfl, ?_, ?_⟩
  · dsimp only
    omega
  · rw [reached, show p.answer (p.reached asked n) (asked n) false = _ from hcall]
    rfl

/-- A call hands over what its traversal makes progress by. -/
theorem handed_eq (hp : p.Valid) (asked : Nat → Nat) (n : Nat) : p.handed asked n =
    List.range' (p.progress asked n) (p.progress asked (n + 1) - p.progress asked n) := by
  rw [handed, position?_reached hp]
  rcases Nat.lt_or_ge (p.progress asked n) p.total with hlt | hge
  · obtain ⟨page, hcall, hcount, -⟩ := call_of_lt hp hlt
    rw [hcall, ← hcount, Nat.add_sub_cancel_left]
  · have hend := hge.trans (p.progress_mono asked (Nat.le_succ n))
    have hsame := le_antisymm (p.progress_le asked (n + 1)) hend
    rw [call_of_le hp hge, hsame, Nat.sub_eq_zero_of_le hge]
    rfl

/-- The first calls hand over the first items, one after the other. -/
theorem flatMap_handed (hp : p.Valid) (asked : Nat → Nat) (n : Nat) :
    (List.range n).flatMap (p.handed asked) = List.range (p.progress asked n) := by
  induction n with
  | zero => rfl
  | succ n ih =>
    have happend : List.range' 0 (p.progress asked n) ++ List.range' (0 + p.progress asked n)
        (p.progress asked (n + 1) - p.progress asked n) = List.range' 0 (p.progress asked (n + 1)) := by
      rw [List.range'_append_1, Nat.add_sub_cancel' (p.progress_mono asked (Nat.le_succ n))]
    rw [Nat.zero_add] at happend
    rw [List.range_succ, List.flatMap_append, ih, List.flatMap_singleton, handed_eq hp,
      List.range_eq_range', happend, List.range_eq_range']

/-! ## The pages -/

/-- A traversal of a synthetic connector each call of which asks for at least one item: there is a number of
pages, at most that of the items, so that every call before is handed a page and every later one finds nothing
new. A page begins where its call goes on and has at least one item, and no more than fit into a page or
were asked for; it ends at a position of 64 bits, which is its checkpoint, from which the next call goes on.
The positions of the items of all pages, one after the other, are those of all items in their order, and the
sizes of the pages sum to the number of items. -/
theorem pages_partition (hp : p.Valid) (hasked : ∀ n, 0 < asked n) : ∃ pages ≤ p.total,
    (∀ n < pages, ∃ start page, position? (p.reached asked n) = some start ∧
      p.call asked n = .page page ∧ p.handed asked n = List.range' start page.count ∧
      0 < page.count ∧ page.count ≤ min p.pageSize (asked n) ∧
      start + page.count ≤ Numeral.max64 ∧ page.checkpoint = some (toString (start + page.count)) ∧
      p.reached asked (n + 1) = page.checkpoint) ∧
    (∀ n, pages ≤ n → p.call asked n = .noContent) ∧
    (List.range pages).flatMap (p.handed asked) = List.range p.total ∧
    ((List.range pages).map fun n => (p.handed asked n).length).sum = p.total := by
  have hfull := min_le_progress hp hasked p.total
  rw [Nat.min_self] at hfull
  -- the pages are the calls before the first one at which the traversal has come to its end
  have hends : ∃ n, p.total ≤ p.progress asked n := ⟨p.total, hfull⟩
  have hend := Nat.find_spec hends
  have hitems : (List.range (Nat.find hends)).flatMap (p.handed asked) = List.range p.total := by
    rw [flatMap_handed hp, le_antisymm (p.progress_le asked _) hend]
  refine ⟨Nat.find hends, Nat.find_min' hends hfull, fun n hn => ?_, fun n hn => ?_, hitems, ?_⟩
  · have hlt := Nat.not_le.1 (Nat.find_min hends hn)
    obtain ⟨page, hcall, hcount, hmax, hcheckpoint⟩ := call_of_lt hp hlt
    have hgo := progress_lt_succ hp (hasked n) hlt
    have hstart := position?_reached hp asked n
    obtain ⟨start, hs, -, htext⟩ := answer_page hcall
    cases hstart.symm.trans hs
    refine ⟨_, page, hstart, hcall, ?_, by omega, hmax, ?_, htext, hcheckpoint.symm⟩
    · rw [handed, hstart, hcall]
    · rw [hcount]
      exact (p.progress_le asked (n + 1)).trans hp.total_le
  · exact call_of_le hp (hend.trans (p.progress_mono asked hn))
  · rw [← List.length_flatMap, hitems, List.length_range]

/-- Of 25 items in pages of 10 the first call asks for 7: there are pages of 7, 10 and 8 items. -/
theorem pages_partition_threePages :
    let config := (({ kind := "synthetic" } : ConnectorConfig).withParam "total" "25").withParam "page_size" "10"
    let p : SyntheticParams := { total := 25, pageSize := 10 }
    let asked : Nat → Nat := fun n => if n = 0 then 7 else 100
    ofConfig config = .ok p ∧ p.Valid ∧ (∀ n, 0 < asked n) ∧
      p.call asked 2 = .page ⟨8, some "25"⟩ ∧ ∃ pages ≤ 25,
        (∀ n, pages ≤ n → p.call asked n = .noContent) ∧
        (List.range pages).flatMap (p.handed asked) = List.range 25 := by
  intro config p asked
  have hconfig : ofConfig config = .ok p := by rfl
  have hp : p.Valid := valid_of_ofConfig hconfig
  have hasked (n : Nat) : 0 < asked n := by
    show 0 < if n = 0 then 7 else 100
    split <;> decide
  obtain ⟨pages, hle, -, hend, hitems, -⟩ := pages_partition hp hasked
  exact ⟨hconfig, hp, hasked, by decide +kernel, pages, hle, hend, hitems⟩

end SyntheticParams

end BatchTraversal
