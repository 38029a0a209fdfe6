import BatchTraversal.Proofs.Traverser.Stints

/-!
# What the code of a run says

A run tells its outcome by one signed number, and the outcome is read back from it. That works for every answer
of the adapter but a page of more items than the largest signed number: its code is negative, and the page is
taken for a failure, or, if it has the one count whose code is that of no new content, for no page at all
(`Workbench.code_faithful_iff`, `Workbench.code_mistaken`). Its checkpoint is saved all the same.
-/

namespace BatchTraversal

/-- The outcome that an answer of the adapter stands for; none if the adapter crashed. -/
def Answer.result? : Answer → Option BatchResult
  | .page p => some { policy := .immediate, count := p.count }
  | .noContent => some { policy := .poll, count := 0 }
  | .failed _ => some { policy := .error, count := 0 }
  | .crashed => none

theorem countCode_of_le {count : Nat} (h : (count : Int) ≤ Numeral.maxSigned64) :
    countCode count = count := by
  unfold countCode Numeral.asSigned64 Numeral.size64
  rw [Int.bmod_def]
  unfold Numeral.maxSigned64 at h
  omega

/-- A count beyond the largest signed number has a negative code. -/
theorem countCode_of_lt {count : Nat} (h : Numeral.maxSigned64 < count) (hlt : count < Numeral.size64) :
    countCode count = count - Numeral.size64 := by
  unfold countCode Numeral.asSigned64 Numeral.size64
  rw [Int.bmod_def]
  unfold Numeral.maxSigned64 at h
  unfold Numeral.size64 at hlt
  omega

namespace BatchResult

theorem ofCode_count (count : Nat) : ofCode count = { policy := .immediate, count } := by
  rw [ofCode, if_pos (Int.natCast_nonneg count), Int.toNat_natCast]

theorem ofCode_of_neg {code : Int} (h : code < 0) :
    ofCode code = { policy := if code = pollingWaitCode then .poll else .error, count := 0 } := by
  rw [ofCode, if_neg (Int.not_le.2 h)]
  split <;> rfl

/-- A page with a count beyond the largest signed number is read back as no page. -/
theorem ofCode_countCode_of_lt {count : Nat} (h : Numeral.maxSigned64 < count)
    (hlt : count < Numeral.size64) : ofCode (countCode count) =
      { policy := if count = Numeral.size64 - 2 then .poll else .error, count := 0 } := by
  have hcode := countCode_of_lt h hlt
  have hneg : countCode count < 0 := by omega
  have hpoll : countCode count = pollingWaitCode ↔ count = Numeral.size64 - 2 := by
    unfold pollingWaitCode
    unfold Numeral.size64 at *
    omega
  rw [ofCode_of_neg hneg]
  simp only [hpoll]

end BatchResult

namespace Workbench

variable {w : Workbench} {r : Stint} {result : BatchResult}

/-- A batch that calls the adapter, and whose checkpoint is saved if there is one to save, ends with a code from which
the outcome of the call is read back, a page with its count, no new content or a failure with none, if and only
if the count is no more than the largest signed number. A larger page is read back as no new content if it has
two items less than there are numbers of 64 bits, and as a failure otherwise. A batch that is cancelled while
the adapter is at work only leaves the checkpoint unsaved; it tells what the others tell. -/
theorem code_faithful_iff (hfree : w.traverser.holder = none) (hc : r.Calls)
    (hstore : r.answer.next?.isSome → r.left.fails .storeCheckpoint = false)
    (hresult : r.answer.result? = some result) (hcount : result.count < Numeral.size64) :
    ∃ code, (w.stint r).1 = .coded code ∧
      (BatchResult.ofCode code = result ↔ result.count ≤ Numeral.maxSigned64) ∧
      (Numeral.maxSigned64 < result.count → BatchResult.ofCode code =
        { policy := if result.count = Numeral.size64 - 2 then .poll else .error, count := 0 }) := by
  rw [(stint_of_calls hc hfree).1, Stint.ending]
  cases ha : r.answer with
  | crashed =>
    rw [ha] at hresult
    cases hresult
  | noContent =>
    rw [ha] at hresult
    cases hresult
    exact ⟨pollingWaitCode, rfl, by decide, by decide⟩
  | failed cause =>
    rw [ha] at hresult
    cases hresult
    exact ⟨errorWaitCode, rfl, by decide, by decide⟩
  | page p =>
    rw [ha] at hresult hstore
    cases hresult
    refine ⟨countCode p.count, if_neg ?_, ?_⟩
    · rintro ⟨hnext, -, hfails⟩
      rw [hstore hnext] at hfails
      cases hfails
    · by_cases hle : (p.count : Int) ≤ Numeral.maxSigned64
      · rw [countCode_of_le hle, BatchResult.ofCode_count]
        exact ⟨iff_of_true rfl hle, fun hgt => absurd hle (Int.not_le.2 hgt)⟩
      · rw [BatchResult.ofCode_countCode_of_lt (Int.not_le.1 hle) hcount]
        refine ⟨iff_of_false (fun h => ?_) hle, fun _ => rfl⟩
        have hpolicy := congrArg BatchResult.policy h
        dsimp only at hpolicy
        split at hpolicy <;> cases hpolicy

/-- The largest page that is told as it is. -/
theorem code_faithful_iff_largest :
    let empty : Backend := {}
    let w : Workbench :=
      { traverser := { connector := "web", config := { kind := "scripted" }, adapter := .external }
        cell := { connector := "web" }, backend := empty }
    let r : Stint := ⟨0, false, empty, .page ⟨9223372036854775807, some "1"⟩, false, empty⟩
    r.Calls ∧ ∃ code, (w.stint r).1 = .coded code ∧
      BatchResult.ofCode code = { policy := .immediate, count := 9223372036854775807 } := by
  intro empty w r
  have hcalls : r.Calls := by decide +kernel
  have hresult : r.answer.result? = some { policy := .immediate, count := 9223372036854775807 } := rfl
  obtain ⟨code, hcode, hiff, -⟩ := code_faithful_iff (w := w) rfl hcalls (fun _ => rfl) hresult (by decide)
  exact ⟨hcalls, code, hcode, hiff.2 (by decide)⟩

/-- A page of 2⁶⁴ - 2 items, whose checkpoint is saved, is read back as no new content. -/
theorem code_mistaken :
    let empty : Backend := {}
    let w : Workbench :=
      { traverser := { connector := "web", config := { kind := "scripted" }, adapter := .external }
        cell := { connector := "web" }, backend := empty }
    let r : Stint := ⟨0, false, empty, .page ⟨18446744073709551614, some "1"⟩, false, empty⟩
    r.Keeps ∧ r.answer.result? = some { policy := .immediate, count := 18446744073709551614 } ∧
      (w.stint r).1 = .coded pollingWaitCode ∧ (w.stint r).2.2 = [.called none, .saved "1"] ∧
      BatchResult.ofCode pollingWaitCode = { policy := .poll, count := 0 } ∧
      r.answer.result? ≠ some (BatchResult.ofCode pollingWaitCode) := by
  decide +kernel

end Workbench

end BatchTraversal
