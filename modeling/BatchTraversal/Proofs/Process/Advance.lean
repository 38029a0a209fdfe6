import BatchTraversal.Traverser.Run

/-!
# The next action of a run

What a run does next, case by case (`RunStage.Advances`), with what becomes of its workbench and what can be
seen of it. What holds of the next action of every run is shown by these cases.
-/

namespace BatchTraversal

namespace RunStage

/-- Whether a run waits for something outside, or has nothing left to do. -/
def Stays (w : Workbench) : RunStage → Prop
  | waiting _ => w.traverser.holder.isNone = false
  | calling _ | answered .crashed | coded _ | crashed => True
  | _ => False

/-- The next action of a run under a token. -/
inductive Advances (token : TokenId) (tripped : Bool) (w : Workbench) :
    RunStage → RunStage × Workbench × Option RunEvent → Prop
  /-- A cancelled run processes nothing. -/
  | withdraw (h : tripped = true) : Advances token tripped w entering (coded 0, w, none)
  | enter (h : tripped = false) : Advances token tripped w entering
      (reading, { w with traverser := { w.traverser with current := some token } }, none)
  /-- The checkpoint cannot be read. -/
  | misread {e : Error} {cell : CheckpointCell} {backend : Backend}
      (h : w.cell.read w.backend = (.error e, cell, backend)) :
      Advances token tripped w reading (coded errorWaitCode, { w with cell, backend }, none)
  | read {checkpoint : Option String} {cell : CheckpointCell} {backend : Backend}
      (h : w.cell.read w.backend = (.ok checkpoint, cell, backend)) :
      Advances token tripped w reading (waiting checkpoint, { w with cell, backend }, none)
  | call {checkpoint : Option String} (h : w.traverser.holder.isNone = true) :
      Advances token tripped w (waiting checkpoint)
        (calling checkpoint, { w with traverser := { w.traverser with holder := some token } },
          some (.called checkpoint))
  /-- The items of a page are all that is left of it. -/
  | count {page : Page} (h : tripped = true ∨ page.checkpoint = none) :
      Advances token tripped w (answered (.page page)) (coded (countCode page.count), w, none)
  /-- The checkpoint of a page is to be saved. -/
  | keep {page : Page} {next : String} (h : tripped = false) (hn : page.checkpoint = some next) :
      Advances token tripped w (answered (.page page)) (saving page.count next, w, none)
  | poll : Advances token tripped w (answered .noContent) (coded pollingWaitCode, w, none)
  | fail {cause : TraversalError} :
      Advances token tripped w (answered (.failed cause)) (coded errorWaitCode, w, none)
  /-- The checkpoint cannot be saved. -/
  | missave {count : Nat} {next : String} {e : Error} {cell : CheckpointCell} {backend : Backend}
      (h : w.cell.write (some next) w.backend = (.error e, cell, backend)) :
      Advances token tripped w (saving count next) (coded errorWaitCode, { w with cell, backend }, none)
  | save {count : Nat} {next : String} {cell : CheckpointCell} {backend : Backend}
      (h : w.cell.write (some next) w.backend = (.ok (), cell, backend)) :
      Advances token tripped w (saving count next)
        (coded (countCode count), { w with cell, backend }, some (.saved next))
  | stay {stage : RunStage} (h : stage.Stays w) : Advances token tripped w stage (stage, w, none)

variable {token : TokenId} {tripped : Bool} {w : Workbench} {stage : RunStage}

theorem advances (token : TokenId) (tripped : Bool) (w : Workbench) (stage : RunStage) :
    Advances token tripped w stage (stage.advance token tripped w) := by
  cases stage with
  | entering =>
    cases tripped with
    | true => exact .withdraw rfl
    | false => exact .enter rfl
  | reading =>
    simp only [advance]
    split
    · next h => exact .misread h
    · next h => exact .read h
  | waiting =>
    simp only [advance]
    split
    · next h => exact .call h
    · next h => exact .stay (eq_false_of_ne_true h)
  | answered a =>
    cases a with
    | page page =>
      simp only [advance]
      split
      · next h => exact .count (.inl h)
      · next h =>
        split
        · next hn => exact .count (.inr hn)
        · next hn => exact .keep (eq_false_of_ne_true h) hn
    | noContent => exact .poll
    | failed => exact .fail
    | crashed => exact .stay trivial
  | saving =>
    simp only [advance]
    split
    · next h => exact .missave h
    · next h => exact .save h
  | calling | coded | crashed => exact .stay trivial

/-- A run leaves the traverser it works on with what it was made for, what it was made from and its
adapter. -/
theorem source_advance (token : TokenId) (tripped : Bool) (w : Workbench) (stage : RunStage) :
    (stage.advance token tripped w).2.1.traverser.connector = w.traverser.connector ∧
      (stage.advance token tripped w).2.1.traverser.config = w.traverser.config ∧
      (stage.advance token tripped w).2.1.traverser.adapter = w.traverser.adapter := by
  have h := stage.advances token tripped w
  generalize stage.advance token tripped w = a at h ⊢
  cases h <;> exact ⟨rfl, rfl, rfl⟩

/-- A run leaves its traverser with the token it had, or with its own. -/
theorem current_advance (token : TokenId) (tripped : Bool) (w : Workbench) (stage : RunStage) :
    (stage.advance token tripped w).2.1.traverser.current = w.traverser.current ∨
      (stage.advance token tripped w).2.1.traverser.current = some token := by
  have h := stage.advances token tripped w
  generalize stage.advance token tripped w = a at h ⊢
  cases h with
  | enter => exact .inr rfl
  | _ => exact .inl rfl

/-- A run that waits for an answer has just called its adapter, or it does nothing. -/
theorem calling_of_advance {checkpoint : Option String}
    (h : (stage.advance token tripped w).1 = calling checkpoint) :
    stage = waiting checkpoint ∧ (stage.advance token tripped w).2.2 = some (.called checkpoint) ∨
      stage = calling checkpoint ∧ (stage.advance token tripped w).2.2 = none := by
  have hadvances := stage.advances token tripped w
  generalize stage.advance token tripped w = a at h hadvances ⊢
  cases hadvances with
  | call =>
    cases h
    exact .inl ⟨rfl, rfl⟩
  | stay => exact .inr ⟨h, rfl⟩
  | _ => cases h

/-- A run goes over to saving a checkpoint only from the page it was answered, with its token not
tripped. -/
theorem saving_of_advance {count : Nat} {next : String}
    (h : (stage.advance token tripped w).1 = saving count next) :
    tripped = false ∧ ∃ page, stage = answered (.page page) := by
  have hadvances := stage.advances token tripped w
  generalize stage.advance token tripped w = a at h hadvances
  cases hadvances with
  | keep hlive => exact ⟨hlive, _, rfl⟩
  | stay hstays =>
    cases h
    exact hstays.elim
  | _ => cases h

/-- A run does not stay with the page it was answered, nor come to it by itself. -/
theorem advance_ne_page (page : Page) :
    (stage.advance token tripped w).1 ≠ answered (.page page) := by
  intro h
  have hadvances := stage.advances token tripped w
  generalize stage.advance token tripped w = a at h hadvances
  cases hadvances with
  | stay hstays =>
    cases h
    exact hstays.elim
  | _ => cases h

/-- A run that is about to save a checkpoint is over next. -/
theorem advance_saving (token : TokenId) (tripped : Bool) (w : Workbench) (count : Nat)
    (next : String) : ∃ code, ((saving count next).advance token tripped w).1 = coded code := by
  have h := (saving count next).advances token tripped w
  generalize (saving count next).advance token tripped w = a at h ⊢
  cases h with
  | stay hstays => exact hstays.elim
  | _ => exact ⟨_, rfl⟩

/-- Only a run that is about to save a checkpoint saves one. -/
theorem saving_of_saved {checkpoint : String}
    (h : (stage.advance token tripped w).2.2 = some (.saved checkpoint)) :
    ∃ count, stage = saving count checkpoint := by
  have hadvances := stage.advances token tripped w
  generalize stage.advance token tripped w = a at h hadvances
  cases hadvances with
  | save =>
    cases h
    exact ⟨_, rfl⟩
  | _ => cases h

end RunStage

end BatchTraversal
