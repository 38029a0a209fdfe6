import BatchTraversal.Proofs.Process.Turns
import BatchTraversal.Rehearsal.SoloTraverser
import Mathlib.Data.List.Induction

/-!
# What a request to cancel reaches

A traverser notes the token of a run before the run reads the checkpoint, and forgets it when the adapter has
answered. A request to cancel (`Rehearsal.SoloTraverser.cancelBatch`) trips the token that is noted. `Shift` is
a traverser that is given one run after the other; its runs proceed by single actions, and requests to cancel
may come before, between and after them (`Shift.exists_run`: a batch that a traverser runs is such a sequence).
A request that comes while a run is about to call its adapter or has called it reaches the token of that run and
no other. One that comes when no run is in progress should reach none, but a run whose checkpoint cannot be
read, and one whose adapter crashes, leaves its token noted, and until another run has noted its own a request
trips that one (`Shift.cancel_reaches`, `Shift.cancel_reaches_idle`).
-/

namespace BatchTraversal

/-- The token that the traverser of a run has noted at a stage of it, if it had noted `before` when the run
began. -/
def RunStage.noted (token : TokenId) (before : Option TokenId) : RunStage → Option TokenId
  | entering => before
  | reading | waiting _ | calling _ => some token
  | _ => none

/-- A run notes its token when it gets past its first look at it. What ends a run leaves the token that was
noted. -/
theorem RunStage.noted_advance {token : TokenId} {before : Option TokenId} (tripped : Bool) {w : Workbench}
    {stage : RunStage} (h : w.traverser.current = stage.noted token before) :
    ((stage.advance token tripped w).1.Underway → (stage.advance token tripped w).2.1.traverser.current =
      (stage.advance token tripped w).1.noted token before) ∧
    (¬ (stage.advance token tripped w).1.Underway →
      (stage.advance token tripped w).2.1.traverser.current = stage.noted token before) := by
  have hadvances := stage.advances token tripped w
  generalize stage.advance token tripped w = a at hadvances ⊢
  cases hadvances with
  | enter => exact ⟨fun _ => rfl, fun hover => absurd ⟨nofun, nofun⟩ hover⟩
  | read | call | keep | stay => exact ⟨fun _ => h, fun _ => h⟩
  | _ => exact ⟨fun hgo => absurd rfl (hgo.1 _), fun _ => h⟩

/-- A run that waits for the adapter does not come to its end. -/
theorem RunStage.not_waiting_of_over {token : TokenId} {tripped : Bool} {w : Workbench} (stage : RunStage)
    (h : ¬ (stage.advance token tripped w).1.Underway) (checkpoint : Option String) :
    stage ≠ .waiting checkpoint := by
  rintro rfl
  refine h ?_
  rw [RunStage.advance]
  split <;> simp [RunStage.Underway]

namespace Rehearsal

namespace SoloTraverser

theorem isTripped_trip (s : SoloTraverser) {u : TokenId} (hu : u < s.tokens.length) (t : TokenId) :
    (s.trip u).isTripped t = (s.isTripped t || some u == some t) := by
  simp only [isTripped, trip, List.getElem?_set, hu, if_true]
  split
  · next he => simp [he]
  · next hne => simp [hne]

/-- A request to cancel trips the token that is noted, and no other. -/
theorem isTripped_cancelBatch {s : SoloTraverser}
    (h : ∀ u, s.bench.traverser.current = some u → u < s.tokens.length) (t : TokenId) :
    s.cancelBatch.isTripped t = (s.isTripped t || s.bench.traverser.current == some t) := by
  rw [cancelBatch]
  split
  · next hn => rw [hn, show (none == some t) = false from rfl, Bool.or_false]
  · next u hu => rw [s.isTripped_trip (h u hu), hu]

/-- A request to cancel trips a token at most. -/
theorem cancelBatch_eq (s : SoloTraverser) : s.cancelBatch.bench = s.bench ∧
    s.cancelBatch.tokens.length = s.tokens.length := by
  unfold cancelBatch
  split
  · exact ⟨rfl, rfl⟩
  · exact ⟨rfl, List.length_set⟩

end SoloTraverser

/-- A run that is over. -/
structure PastRun where
  token : TokenId
  /-- The stage from which it came to its end. -/
  last : RunStage
  deriving DecidableEq

/-- Whether a run could not read its checkpoint, or its adapter crashed. -/
def PastRun.Broken (r : PastRun) : Prop := r.last = .reading ∨ ∃ checkpoint, r.last = .calling checkpoint

/-- A traverser that is given one run after the other. -/
structure Shift where
  solo : SoloTraverser
  /-- The run in progress: its token, and where it stands. -/
  present : Option (TokenId × RunStage) := none
  /-- The runs that are over, in their order. -/
  past : List PastRun := []

namespace Shift

/-- What can happen to a traverser that is given one run after the other. -/
inductive Event where
  /-- A run is begun with one of the tokens, if none is in progress. -/
  | begin (token : TokenId)
  /-- The run in progress does what it does next. -/
  | advance
  /-- The adapter that the run in progress has called answers, or crashes. -/
  | answer (a : Answer)
  /-- The traverser is asked to cancel the run in progress. -/
  | cancelBatch
  /-- A token is tripped. -/
  | trip (token : TokenId)
  /-- There is one more token. -/
  | renewToken
  /-- The store becomes another one, or other calls of it will fail. -/
  | store (b : Backend)

/-- The run in progress has come from a stage to the next one. -/
def goOn (s : Shift) (solo : SoloTraverser) (token : TokenId) (stage next : RunStage) : Shift :=
  match next with
  | .coded _ | .crashed => { solo, past := s.past ++ [⟨token, stage⟩] }
  | next => { s with solo, present := some (token, next) }

/-- The traverser after an event. Events that are not possible leave it as it is. -/
def step (s : Shift) : Event → Shift
  | .begin token =>
    if s.present.isNone ∧ token < s.solo.tokens.length then { s with present := some (token, .entering) }
    else s
  | .advance =>
    match s.present with
    | none => s
    | some (token, stage) =>
      let (next, bench, _) := stage.advance token (s.solo.isTripped token) s.solo.bench
      s.goOn { s.solo with bench } token stage next
  | .answer a =>
    match s.present with
    | some (token, .calling checkpoint) =>
      let (next, traverser) := RunStage.answer a s.solo.bench.traverser (.calling checkpoint)
      s.goOn { s.solo with bench := { s.solo.bench with traverser } } token (.calling checkpoint) next
    | _ => s
  | .cancelBatch => { s with solo := s.solo.cancelBatch }
  | .trip token => { s with solo := s.solo.trip token }
  | .renewToken => { s with solo := s.solo.renewToken }
  | .store backend => { s with solo := { s.solo with bench := { s.solo.bench with backend } } }

/-- The traverser after a sequence of events. -/
def run (s : Shift) (events : List Event) : Shift := events.foldl step s

/-- The token that a request to cancel would trip. -/
def target? (s : Shift) : Option TokenId := s.solo.bench.traverser.current

/-- Whether a token was left behind: that of a broken run after which no run has got past its first look at its
token. -/
def LeftBehind (past : List PastRun) (t : TokenId) : Prop :=
  ∃ before r after, past = before ++ r :: after ∧ r.token = t ∧ r.Broken ∧
    ∀ x ∈ after, x.last = .entering

/-- Whether a request to cancel reaches a token. From where a run has noted its token to where its adapter has
answered, it reaches the token of that run; before and between the runs it reaches what was left behind. -/
def Reaches (s : Shift) (t : TokenId) : Prop :=
  match s.present with
  | none | some (_, .entering) => LeftBehind s.past t
  | some (token, .reading) | some (token, .waiting _) | some (token, .calling _) => t = token
  | some _ => False

/-- The token that is noted when some runs are over. -/
def noted (past : List PastRun) : Option TokenId :=
  past.foldl (fun before r => r.last.noted r.token before) none

variable {s s' : Shift} {past : List PastRun} {token : TokenId} {stage next : RunStage} {t : TokenId}

theorem noted_concat (past : List PastRun) (r : PastRun) :
    noted (past ++ [r]) = r.last.noted r.token (noted past) := by
  rw [noted, List.foldl_append]
  rfl

/-- Whether the traverser has noted what its runs tell, and knows the tokens that it has to do with. -/
structure Kept (s : Shift) : Prop where
  noted : s.target? = match s.present with
    | none => noted s.past
    | some (token, stage) => stage.noted token (noted s.past)
  known : ∀ token, s.target? = some token → token < s.solo.tokens.length
  given : ∀ token stage, s.present = some (token, stage) → token < s.solo.tokens.length
  /-- A run that waits for the adapter does not come to its end. -/
  ended : ∀ r ∈ s.past, ∀ checkpoint, r.last ≠ .waiting checkpoint

/-- What becomes of the traverser when the run in progress has come to the next stage: the run goes on, or it is
over. -/
theorem goOn_cases (s : Shift) (solo : SoloTraverser) (token : TokenId) (stage next : RunStage) :
    next.Underway ∧ s.goOn solo token stage next = { s with solo, present := some (token, next) } ∨
    ¬ next.Underway ∧ s.goOn solo token stage next = { solo, past := s.past ++ [⟨token, stage⟩] } := by
  cases next with
  | coded code => exact .inr ⟨fun h => h.1 code rfl, rfl⟩
  | crashed => exact .inr ⟨fun h => h.2 rfl, rfl⟩
  | _ => exact .inl ⟨⟨nofun, nofun⟩, rfl⟩

/-- A traverser whose run has come to the next stage has noted what is told, if it has noted the token of the
run as the next stage or, where the run is over, the last one says. -/
theorem Kept.goOn (h : s.Kept) (hp : s.present = some (token, stage)) {solo : SoloTraverser}
    (htokens : solo.tokens = s.solo.tokens)
    (hgo : next.Underway → solo.bench.traverser.current = next.noted token (Shift.noted s.past))
    (hend : ¬ next.Underway → solo.bench.traverser.current = stage.noted token (Shift.noted s.past))
    (hlast : ¬ next.Underway → ∀ checkpoint, stage ≠ .waiting checkpoint)
    (hknown : solo.bench.traverser.current = s.target? ∨ solo.bench.traverser.current = some token ∨
      solo.bench.traverser.current = none) : (s.goOn solo token stage next).Kept := by
  have hgiven := h.given token stage hp
  have hcurrent : ∀ t, solo.bench.traverser.current = some t → t < solo.tokens.length := by
    intro t ht
    rw [htokens]
    rcases hknown with he | he | he <;> rw [he] at ht
    · exact h.known t ht
    · cases ht
      exact hgiven
    · cases ht
  rcases goOn_cases s solo token stage next with ⟨hunder, he⟩ | ⟨hover, he⟩ <;> rw [he]
  · refine ⟨hgo hunder, hcurrent, fun u x hx => ?_, h.ended⟩
    cases hx
    exact htokens ▸ hgiven
  · refine ⟨(hend hover).trans (noted_concat s.past ⟨token, stage⟩).symm, hcurrent, nofun, ?_⟩
    rw [List.forall_mem_append, List.forall_mem_singleton]
    exact ⟨h.ended, hlast hover⟩

/-- What is noted depends on nothing but the token that a request would trip, the runs and how many tokens there
are. -/
theorem Kept.congr (h : s.Kept) (ht : s'.target? = s.target?) (hpresent : s'.present = s.present)
    (hpast : s'.past = s.past) (hle : s.solo.tokens.length ≤ s'.solo.tokens.length) : s'.Kept := by
  refine ⟨?_, fun t hc => ?_, fun token stage hp => ?_, hpast ▸ h.ended⟩
  · rw [ht, hpresent, hpast]
    exact h.noted
  · exact Nat.lt_of_lt_of_le (h.known t (ht ▸ hc)) hle
  · exact Nat.lt_of_lt_of_le (h.given token stage (hpresent ▸ hp)) hle

theorem Kept.advance (h : s.Kept) : (s.step .advance).Kept := by
  rw [step]
  split
  · exact h
  · next token stage hp =>
    have hnoted := h.noted
    rw [hp] at hnoted
    obtain ⟨hgo, hend⟩ := RunStage.noted_advance (s.solo.isTripped token) hnoted
    have hcurrent := stage.current_advance token (s.solo.isTripped token) s.solo.bench
    exact h.goOn hp rfl hgo hend stage.not_waiting_of_over (hcurrent.imp_right .inl)

theorem Kept.answer (h : s.Kept) (a : Answer) : (s.step (.answer a)).Kept := by
  rw [step]
  split
  · next token checkpoint hp =>
    have hnoted := h.noted
    rw [hp] at hnoted
    cases a with
    | crashed =>
      exact h.goOn hp rfl (fun hgo => absurd rfl hgo.2) (fun _ => hnoted) (fun _ => nofun) (.inl rfl)
    | _ =>
      exact h.goOn hp rfl (fun _ => rfl) (fun hover => absurd ⟨nofun, nofun⟩ hover) (fun _ => nofun)
        (.inr (.inr rfl))
  · exact h

/-- Every event leaves the traverser with what its runs tell. -/
theorem Kept.step (h : s.Kept) (e : Event) : (s.step e).Kept := by
  cases e with
  | begin token =>
    rw [Shift.step]
    split
    · next hgo =>
      have hnoted := h.noted
      rw [Option.isNone_iff_eq_none.1 hgo.1] at hnoted
      refine ⟨hnoted, h.known, fun u x hx => ?_, h.ended⟩
      cases hx
      exact hgo.2
    · exact h
  | advance => exact h.advance
  | answer a => exact h.answer a
  | cancelBatch =>
    obtain ⟨hbench, hlength⟩ := s.solo.cancelBatch_eq
    exact h.congr (congrArg (fun w => w.traverser.current) hbench) rfl rfl (Nat.le_of_eq hlength.symm)
  | trip token => exact h.congr rfl rfl rfl (Nat.le_of_eq List.length_set.symm)
  | renewToken => exact h.congr rfl rfl rfl (by simp [Shift.step, SoloTraverser.renewToken])
  | store backend => exact h.congr rfl rfl rfl (Nat.le_refl _)

theorem Kept.run (h : s.Kept) (events : List Event) : (s.run events).Kept := by
  induction events generalizing s with
  | nil => exact h
  | cons e rest ih => exact ih (h.step e)

/-- A traverser that has noted no token keeps what its runs tell, of which there are none yet. -/
theorem kept_start {solo : SoloTraverser} (h : solo.bench.traverser.current = none) :
    ({ solo } : Shift).Kept :=
  ⟨h, fun _ ht => (nomatch h.symm.trans ht), nofun, fun _ hr => (nomatch hr)⟩

/-! ## What was left behind -/

/-- What the run that ended last leaves behind: its own token if it was broken, and what was left behind before
if it did not get past its first look at its token. -/
theorem leftBehind_concat {r : PastRun} : LeftBehind (past ++ [r]) t ↔
    r.Broken ∧ r.token = t ∨ r.last = .entering ∧ LeftBehind past t := by
  constructor
  · rintro ⟨before, x, after, hpast, ht, hbroken, hafter⟩
    rcases after.eq_nil_or_concat with rfl | ⟨after, y, rfl⟩
    · obtain ⟨-, he⟩ := List.append_inj' hpast rfl
      cases he
      exact .inl ⟨hbroken, ht⟩
    · rw [List.concat_eq_append] at hafter hpast
      rw [← List.cons_append, ← List.append_assoc] at hpast
      obtain ⟨rfl, he⟩ := List.append_inj' hpast rfl
      cases he
      rw [List.forall_mem_append, List.forall_mem_singleton] at hafter
      exact .inr ⟨hafter.2, before, x, after, rfl, ht, hbroken, hafter.1⟩
  · rintro (⟨hbroken, ht⟩ | ⟨hentering, before, x, after, rfl, ht, hbroken, hafter⟩)
    · exact ⟨past, r, [], rfl, ht, hbroken, fun _ hx => nomatch hx⟩
    · refine ⟨before, x, after ++ [r], by simp, ht, hbroken, ?_⟩
      rw [List.forall_mem_append, List.forall_mem_singleton]
      exact ⟨hafter, hentering⟩

/-- The token that is noted when some runs are over is the one that was left behind. -/
theorem noted_eq_some_iff (h : ∀ r ∈ past, ∀ checkpoint, r.last ≠ .waiting checkpoint) :
    noted past = some t ↔ LeftBehind past t := by
  induction past using List.reverseRecOn with
  | nil =>
    refine ⟨nofun, ?_⟩
    rintro ⟨before, r, after, hpast, -⟩
    simp at hpast
  | append_singleton past r ih =>
    rw [List.forall_mem_append, List.forall_mem_singleton] at h
    rw [noted_concat, leftBehind_concat, ← ih h.1, PastRun.Broken]
    cases hr : r.last with
    | waiting checkpoint => exact absurd hr (h.2 checkpoint)
    | _ => simp [RunStage.noted]

/-- The token that a request would trip is the one that it reaches. -/
theorem Kept.target?_eq_some_iff (h : s.Kept) : s.target? = some t ↔ s.Reaches t := by
  have hleft := noted_eq_some_iff (t := t) h.ended
  have hnoted := h.noted
  rw [Reaches]
  cases hp : s.present with
  | none =>
    rw [hp] at hnoted
    rw [hnoted]
    exact hleft
  | some run =>
    obtain ⟨token, stage⟩ := run
    rw [hp] at hnoted
    rw [hnoted]
    cases stage with
    | entering => exact hleft
    | reading | waiting checkpoint | calling checkpoint =>
      exact ⟨fun he => (Option.some.inj he).symm, fun he => congrArg some he.symm⟩
    | _ => exact ⟨nofun, False.elim⟩

/-- A request to cancel trips the tokens that it reaches and no others, and it changes nothing else: once a run has
noted its token and until its adapter has answered, that is the token of the run, and no token from then to the end
of the run; while no run has noted its token it is the token that was left behind, by a run that could not read its
checkpoint or whose adapter crashed and after which no run has got past its first look at its token. A run that is
begun with a token that is tripped is over at once, and has processed nothing. -/
theorem cancel_reaches {solo : SoloTraverser} (h : solo.bench.traverser.current = none) (events : List Event) :
    let s := ({ solo } : Shift).run events
    (∀ t, (s.step .cancelBatch).solo.isTripped t ↔ s.solo.isTripped t ∨ s.Reaches t) ∧
      (s.step .cancelBatch).solo.bench = s.solo.bench ∧ (s.step .cancelBatch).present = s.present ∧
      (s.step .cancelBatch).past = s.past ∧
      ∀ token, s.present = some (token, .entering) → s.solo.isTripped token →
        s.step .advance = { s with present := none, past := s.past ++ [⟨token, .entering⟩] } := by
  intro s
  have hkept : s.Kept := (kept_start h).run events
  refine ⟨fun t => ?_, s.solo.cancelBatch_eq.1, rfl, rfl, fun token hp htripped => ?_⟩
  · have htrips := SoloTraverser.isTripped_cancelBatch hkept.known t
    rw [show (s.step .cancelBatch).solo = s.solo.cancelBatch from rfl, htrips, Bool.or_eq_true, beq_iff_eq]
    exact or_congr_right hkept.target?_eq_some_iff
  · simp [step, hp, RunStage.advance, htripped, goOn]

/-- A run whose adapter crashed has left its token behind. -/
theorem cancel_reaches_crashed :
    let solo := SoloTraverser.start "web" []
    let s := ({ solo } : Shift).run [.begin 0, .advance, .advance, .advance, .answer .crashed]
    solo.bench.traverser.current = none ∧ s.past = [⟨0, .calling none⟩] ∧ s.solo.isTripped 0 = false ∧
      s.Reaches 0 ∧ (s.step .cancelBatch).solo.isTripped 0 := by
  intro solo s
  have hleft : s.Reaches 0 :=
    ⟨[], ⟨0, .calling none⟩, [], rfl, rfl, .inr ⟨none, rfl⟩, fun _ hx => (nomatch hx)⟩
  have htrips := (cancel_reaches (show solo.bench.traverser.current = none from rfl)
    [.begin 0, .advance, .advance, .advance, .answer .crashed]).1 0
  exact ⟨rfl, by decide +kernel, by decide +kernel, hleft, htrips.2 (.inr hleft)⟩

/-- A run whose checkpoint could not be read has left its token behind. No run is in progress, and yet a request to
cancel trips the token, and the next run that is begun with it is over before it has called the adapter. -/
theorem cancel_reaches_idle :
    let s := ({ solo := SoloTraverser.start "web" [] } : Shift).run
      [.store (({} : Backend).withFaults .readCheckpoint [true]), .begin 0, .advance, .advance]
    s.present = none ∧ s.solo.isTripped 0 = false ∧ (s.step .cancelBatch).solo.isTripped 0 = true ∧
      ((s.step .cancelBatch).run [.begin 0, .advance]).past = [⟨0, .reading⟩, ⟨0, .entering⟩] := by
  decide +kernel

/-! ## The runs of a traverser -/

/-- Whether the run under a token stands at a stage, or has come to its end there, of a traverser that is but
for its calls and its script another one. -/
structure Stands (x : Shift) (s : SoloTraverser) (token : TokenId) (stage : RunStage) : Prop where
  bench : x.solo.bench = s.bench
  tokens : x.solo.tokens = s.tokens
  present : stage.Underway ∧ x.present = some (token, stage) ∨ ¬ stage.Underway ∧ x.present = none

variable {x : Shift} {solo : SoloTraverser}

theorem stands_goOn (x : Shift) {s s' : SoloTraverser} (hbench : s.bench = s'.bench)
    (htokens : s.tokens = s'.tokens) : (x.goOn s token stage next).Stands s' token next := by
  rcases goOn_cases x s token stage next with ⟨hunder, he⟩ | ⟨hover, he⟩ <;> rw [he]
  · exact ⟨hbench, htokens, .inl ⟨hunder, rfl⟩⟩
  · exact ⟨hbench, htokens, .inr ⟨hover, rfl⟩⟩

theorem Stands.advance (h : x.Stands solo token stage) :
    (x.step .advance).Stands { solo with bench := (stage.advance token (solo.isTripped token) solo.bench).2.1 }
      token (stage.advance token (solo.isTripped token) solo.bench).1 := by
  have htripped : x.solo.isTripped token = solo.isTripped token := by
    rw [SoloTraverser.isTripped, h.tokens]
    rfl
  rcases h.present with ⟨-, hp⟩ | ⟨hover, hp⟩
  · simp only [step, hp, h.bench, htripped]
    exact stands_goOn x rfl h.tokens
  · have hstays : stage.advance token (solo.isTripped token) solo.bench = (stage, solo.bench, none) := by
      cases stage with
      | coded | crashed => rfl
      | _ => exact absurd ⟨nofun, nofun⟩ hover
    rw [hstays, step, hp]
    exact h

theorem Stands.drive (h : x.Stands solo token stage) :
    (x.run [.advance, .advance, .advance]).Stands
      { solo with bench := (stage.drive token (solo.isTripped token) solo.bench).2.1 }
      token (stage.drive token (solo.isTripped token) solo.bench).1 :=
  h.advance.advance.advance

theorem Stands.answer {checkpoint : Option String} (h : x.Stands solo token (.calling checkpoint)) (a : Answer) :
    (x.step (.answer a)).Stands { solo with bench := { solo.bench with
        traverser := (RunStage.answer a solo.bench.traverser (.calling checkpoint)).2 } } token
      (RunStage.answer a solo.bench.traverser (.calling checkpoint)).1 := by
  rcases h.present with ⟨-, hp⟩ | ⟨hover, -⟩
  · simp only [step, hp, h.bench]
    exact stands_goOn x rfl h.tokens
  · exact absurd ⟨nofun, nofun⟩ hover

theorem Stands.cancelBatch (h : x.Stands solo token stage) :
    (x.step .cancelBatch).Stands solo.cancelBatch token stage := by
  have htokens : x.solo.cancelBatch.tokens = solo.cancelBatch.tokens := by
    rw [SoloTraverser.cancelBatch, SoloTraverser.cancelBatch, h.bench]
    split
    · exact h.tokens
    · next t _ => exact congrArg (·.set t true) h.tokens
  exact ⟨x.solo.cancelBatch_eq.1.trans (h.bench.trans solo.cancelBatch_eq.1.symm), htokens, h.present⟩

/-- What an adapter does aside, when it is called, is one event at most. -/
theorem Stands.callAdapter (h : x.Stands solo token stage) (maxItems : Nat) (checkpoint : Option String) :
    (∃ events, (x.run events).Stands (solo.callAdapter maxItems checkpoint).2 token stage) ∧
      (solo.callAdapter maxItems checkpoint).2.token = solo.token := by
  unfold SoloTraverser.callAdapter
  dsimp only
  split
  · exact ⟨⟨[], h.bench, h.tokens, h.present⟩, rfl⟩
  · next call script _ =>
    dsimp only
    split
    · exact ⟨⟨[], h.bench, h.tokens, h.present⟩, rfl⟩
    · refine ⟨⟨[.trip solo.token], h.bench, congrArg (·.set solo.token true) h.tokens, h.present⟩, ?_⟩
      exact congrArg (· - 1) List.length_set
    · have hsame : x.Stands { solo with calls := solo.calls ++ [(maxItems, checkpoint)], script } token stage :=
        ⟨h.bench, h.tokens, h.present⟩
      exact ⟨⟨[.cancelBatch], hsame.cancelBatch⟩, congrArg (· - 1) (SoloTraverser.cancelBatch_eq _).2⟩

/-- A batch that a traverser runs, with an adapter that may ask for its cancellation while it is at work, is a
sequence of these events. -/
theorem exists_run (solo : SoloTraverser) (h : solo.token < solo.tokens.length) (maxItems : Nat) :
    ∃ events stage, (({ solo } : Shift).run events).Stands (solo.run maxItems).2 solo.token stage := by
  have hbegin : (({ solo } : Shift).step (.begin solo.token)).Stands solo solo.token .entering := by
    simp only [step, Option.isNone_none, h, and_self, if_true]
    exact ⟨rfl, rfl, .inl ⟨⟨nofun, nofun⟩, rfl⟩⟩
  have hdrive := hbegin.drive
  unfold SoloTraverser.run
  generalize RunStage.entering.drive solo.token (solo.isTripped solo.token) solo.bench = driven at hdrive ⊢
  obtain ⟨stage, bench, _⟩ := driven
  dsimp only at hdrive ⊢
  split
  · exact ⟨[.begin solo.token, .advance, .advance, .advance], _, hdrive⟩
  · next checkpoint =>
    obtain ⟨⟨aside, hcalled⟩, htoken⟩ := hdrive.callAdapter maxItems checkpoint
    generalize SoloTraverser.callAdapter _ maxItems checkpoint = called at hcalled htoken ⊢
    obtain ⟨a, called⟩ := called
    have hend := (hcalled.answer a).drive
    have htoken : called.token = solo.token := htoken
    have hjoin (x : Shift) (events events' : List Event) :
        (x.run events).run events' = x.run (events ++ events') :=
      List.foldl_append.symm
    refine ⟨[.begin solo.token, .advance, .advance, .advance] ++ aside ++ [.answer a] ++
      [.advance, .advance, .advance], ?_⟩
    rw [← hjoin, ← hjoin, ← hjoin, htoken]
    dsimp only
    split <;> exact ⟨_, hend⟩
  · exact ⟨[.begin solo.token, .advance, .advance, .advance], _, hdrive⟩

end Shift

end Rehearsal

end BatchTraversal
