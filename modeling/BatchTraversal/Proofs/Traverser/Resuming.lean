import BatchTraversal.Proofs.Traverser.Stints

/-!
# Where a traversal resumes

As long as nobody else writes the checkpoint of a connector, the batches that are run one after the other on its
traverser form a chain: each call of the adapter resumes from the page that was saved last, or from where
the traversal stood at first, and starts afresh if there is neither (`Workbench.resume_chain`). Cancelled
batches, failing adapters and a failing store leave gaps in the chain, but no wrong links.
-/

namespace BatchTraversal

/-- The checkpoint saved last in some stints, or `initial` if none was. -/
def Stint.lastSaved (initial : Option String) (l : List Stint) : Option String :=
  (l.filterMap Stint.saved?).getLast?.or initial

theorem Stint.lastSaved_cons (initial : Option String) (r : Stint) (l : List Stint) :
    lastSaved initial (r :: l) = lastSaved (r.saved?.or initial) l := by
  rw [lastSaved, lastSaved, List.filterMap_cons]
  cases r.saved? with
  | none => rfl
  | some next =>
    dsimp only
    rw [List.getLast?_cons]
    cases (l.filterMap saved?).getLast? <;> rfl

theorem Stint.saved?_of_not_calls {r : Stint} (h : ¬ r.Calls) : r.saved? = none :=
  if_neg fun hk => h hk.1

namespace Workbench

variable {w : Workbench} {r : Stint} {l before after : List Stint}

/-- Whether nobody but the traverser changes the checkpoint from the beginning to the end of some stints: each
of them finds it as the one before left it, and it does not change while the adapter is at work. -/
def Undisturbed (w : Workbench) : List Stint → Prop
  | [] => True
  | r :: l =>
    r.found.store.checkpoint? w.cell.connector = w.stored? ∧
      r.left.store.checkpoint? w.cell.connector = w.stored? ∧ (w.stint r).2.1.Undisturbed l

instance decidableUndisturbed : (w : Workbench) → (l : List Stint) → Decidable (w.Undisturbed l)
  | _, [] => .isTrue trivial
  | w, r :: l =>
    have := decidableUndisturbed (w.stint r).2.1 l
    inferInstanceAs (Decidable (_ ∧ _ ∧ _))

/-- A stint that nobody disturbs changes the stored checkpoint only by what it saves, and leaves the adapter to
the next one. -/
theorem stored?_stint (hfree : w.traverser.holder = none)
    (hfound : r.found.store.checkpoint? w.cell.connector = w.stored?)
    (hleft : r.left.store.checkpoint? w.cell.connector = w.stored?) :
    (w.stint r).2.1.traverser.holder = none ∧ (w.stint r).2.1.stored? = r.saved?.or w.stored? ∧
      (w.stint r).2.1.cell.connector = w.cell.connector := by
  by_cases hc : r.Calls
  · obtain ⟨-, -, hcell, hstore, hholder⟩ := stint_of_calls hc hfree
    refine ⟨hholder, ?_, by rw [hcell]⟩
    rw [stored?, hcell, hstore]
    cases r.saved? with
    | none => exact hleft
    | some next =>
      exact (Store.checkpoint?_storeCheckpoint ..).trans (if_pos rfl)
  · obtain ⟨-, hcell, hstore, hholder⟩ := stint_of_not_calls (w := w) hc
    refine ⟨hholder.trans hfree, ?_, by rw [hcell]⟩
    rw [stored?, hcell, hstore, Stint.saved?_of_not_calls hc, Option.none_or]
    exact hfound

/-- After some stints that nobody disturbs the checkpoint that was saved last is stored. -/
theorem stored?_stints (hfree : w.traverser.holder = none) (h : w.Undisturbed (before ++ l)) :
    (w.stints before).traverser.holder = none ∧
      (w.stints before).stored? = Stint.lastSaved w.stored? before ∧
      (w.stints before).Undisturbed l := by
  induction before generalizing w with
  | nil => exact ⟨hfree, rfl, h⟩
  | cons r before ih =>
    obtain ⟨hfound, hleft, hrest⟩ := h
    obtain ⟨hfree', hstored, -⟩ := stored?_stint hfree hfound hleft
    obtain ⟨hholder, hlast, hundisturbed⟩ := ih hfree' hrest
    refine ⟨hholder, ?_, hundisturbed⟩
    rw [Stint.lastSaved_cons, ← hstored]
    exact hlast

/-- Of every stint in a sequence of stints on a traverser whose checkpoint nobody else writes: the adapter is called
in it, once, exactly if the token is not tripped at the beginning and the checkpoint is read; it is called
from the checkpoint saved last before, or from the one stored at first, or to start if there is neither; a
checkpoint is saved exactly if the page has one, the token is not tripped when the adapter has answered and
the store does not fail; otherwise the stored checkpoint stays; and if the checkpoint was read, the cell has
seen the one that is stored at the end. -/
theorem resume_chain (hfree : w.traverser.holder = none)
    (h : w.Undisturbed (before ++ r :: after)) :
    let here := w.stints before
    let last := Stint.lastSaved w.stored? before
    here.stored? = last ∧
    (here.stint r).2.2 =
      (if r.Calls then [.called last] else []) ++ (r.saved?.map RunEvent.saved).toList ∧
    (here.stint r).2.1.stored? = r.saved?.or last ∧
    (r.Calls → (here.stint r).2.1.cell.matchesSeen (here.stint r).2.1.stored?) := by
  intro here last
  obtain ⟨hholder, hlast, hfound, hleft, -⟩ := stored?_stints hfree h
  obtain ⟨-, hstored, -⟩ := stored?_stint hholder hfound hleft
  rw [hlast] at hfound hstored
  refine ⟨hlast, ?_, hstored, fun hc => ?_⟩
  · by_cases hc : r.Calls
    · rw [(stint_of_calls hc hholder).2.1, hfound, if_pos hc]
      rfl
    · rw [(stint_of_not_calls hc).1, if_neg hc, Stint.saved?_of_not_calls hc]
      rfl
  · rw [hstored, (stint_of_calls hc hholder).2.2.1, hfound]
    exact beq_self_eq_true _

/-- A page is saved; then a batch is cancelled before it begins, one while its adapter is at work, one crashes
and one cannot save its page; the next one resumes from the first page all the same. -/
theorem resume_chain_withGaps :
    let empty : Backend := {}
    let stored : Backend := { store := ({} : Store).storeCheckpoint "web" (some "1") }
    let failing := stored.withFaults .storeCheckpoint [true]
    let w : Workbench :=
      { traverser := { connector := "web", config := { kind := "scripted" }, adapter := .external }
        cell := { connector := "web" }, backend := empty }
    let before : List Stint := [⟨0, false, empty, .page ⟨4, some "1"⟩, false, empty⟩,
      ⟨1, true, stored, .noContent, true, stored⟩, ⟨2, false, stored, .page ⟨5, some "2"⟩, true, stored⟩,
      ⟨3, false, stored, .crashed, false, stored⟩,
      ⟨4, false, stored, .page ⟨6, some "3"⟩, false, failing⟩]
    let r : Stint := ⟨5, false, stored, .page ⟨7, some "4"⟩, false, stored⟩
    w.traverser.holder = none ∧ w.Undisturbed (before ++ [r]) ∧
      ((w.stints before).stint r).2.2 = [.called (some "1"), .saved "4"] ∧
      ((w.stints before).stint r).2.1.stored? = some "4" ∧
      ((w.stints before).stint r).2.1.cell.matchesSeen (some "4") := by
  intro empty stored failing w before r
  have hfree : w.traverser.holder = none := rfl
  have h : w.Undisturbed (before ++ [r]) := by decide +kernel
  obtain ⟨-, hevents, hstored, hseen⟩ := resume_chain hfree h
  have hlast : Stint.lastSaved w.stored? before = some "1" := by decide +kernel
  have hsaved : r.saved? = some "4" := by decide +kernel
  have hcalls : r.Calls := by decide +kernel
  rw [hlast, hsaved, if_pos hcalls] at hevents
  rw [hlast, hsaved] at hstored
  refine ⟨hfree, h, hevents, hstored, ?_⟩
  have hmatches := hseen hcalls
  rwa [hstored] at hmatches

end Workbench

end BatchTraversal
