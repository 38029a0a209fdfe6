import BatchTraversal.Proofs.Process.Accounts
import BatchTraversal.Proofs.World.Runs
import Mathlib.Data.List.Induction
import Mathlib.Data.List.Infix

/-!
# Exactly-once accounting along a run

Along a run a batch returns at most once (`World.Returns` says that it does, at a moment of which
something holds). The throttle is given its count if and only if its coordinator was not removed at
that moment, and its result is delivered if and only if it was moreover the current batch of its
coordinator and not cancelled; either happens once (`World.outcome_accounting`).
-/

namespace BatchTraversal

namespace World

/-- Whether a batch of the process at a place returns in the course of some events, by an event before
which the process satisfies `P`. -/
def Returns (w : World) (i : Nat) (t : TaskId) (P : Scheduler → Prop) (events : List Event) : Prop :=
  ∃ before e p p', before ++ [e] <+: events ∧ (w.run before).schedulers[i]? = some p ∧
    (w.run (before ++ [e])).schedulers[i]? = some p' ∧ ¬ p.Returned t ∧ p'.Returned t ∧ P p

/-- Whether the periods of all throttles have an end, at every moment of a run. -/
def PeriodsEnd (w : World) (events : List Event) : Prop :=
  ∀ before, before <+: events → ∀ p ∈ (w.run before).schedulers, p.throttle.PeriodsEnd

variable {w : World} {i : Nat} {t : TaskId} {events : List Event} {e : Event}

/-- A batch returns by the last event or before it. -/
theorem returns_concat {P : Scheduler → Prop} {p p' : Scheduler}
    (hp : (w.run events).schedulers[i]? = some p)
    (hp' : (w.run (events ++ [e])).schedulers[i]? = some p') :
    w.Returns i t P (events ++ [e]) ↔
      (¬ p.Returned t ∧ p'.Returned t ∧ P p) ∨ w.Returns i t P events := by
  constructor
  · rintro ⟨before, e', q, q', hpre, hq, hq', hrest⟩
    rcases List.prefix_concat_iff.1 hpre with hlast | hpre
    · obtain ⟨rfl, he⟩ := List.append_inj' hlast rfl
      obtain rfl := (List.cons.inj he).1
      rw [hp] at hq
      rw [hp'] at hq'
      cases hq
      cases hq'
      exact .inl hrest
    · exact .inr ⟨before, e', q, q', hpre, hq, hq', hrest⟩
  · rintro (hrest | ⟨before, e', q, q', hpre, hrest⟩)
    · exact ⟨events, e, p, p', List.prefix_rfl, hp, hp', hrest⟩
    · exact ⟨before, e', q, q', hpre.trans (List.prefix_append ..), hrest⟩

/-- The account of a batch that has not returned. -/
structure Unsettled (w : World) (i : Nat) (t : TaskId) (events : List Event) (p : Scheduler) :
    Prop where
  returned : ¬ p.Returned t
  folds : p.folds t = []
  deliveries : p.deliveries t = []
  never : ∀ P, ¬ w.Returns i t P events

/-- The account of a batch that has returned, when the process was `q`. -/
structure Settled (w : World) (i : Nat) (t : TaskId) (events : List Event) (p q : Scheduler)
    (code : Int) : Prop where
  returned : p.ReturnedWith t code
  once : ∀ P, w.Returns i t P events ↔ P q
  fold : q.Liable t → p.folds t = [(BatchResult.ofCode code).count]
  noFold : ¬ q.Liable t → p.folds t = []
  delivery : q.Current t → p.deliveries t = [.ofCode code]
  noDelivery : ¬ q.Current t → p.deliveries t = []

/-- An event that is steady for a batch adds nothing to its account. -/
theorem returns_of_steady {P : Scheduler → Prop} {p p' : Scheduler}
    (hp : (w.run events).schedulers[i]? = some p)
    (hp' : (w.run (events ++ [e])).schedulers[i]? = some p') (h : p.Steady t p') :
    w.Returns i t P (events ++ [e]) ↔ w.Returns i t P events := by
  rw [returns_concat hp hp', or_iff_right_iff_imp]
  rintro ⟨hn, ⟨code, hr⟩, -⟩
  exact absurd ⟨code, (h.returned code).1 hr⟩ hn

/-- Along every run the account of a batch is that of one that has not returned or of one that has
returned once. -/
theorem account_run (hw : w.Initial) (hends : w.PeriodsEnd events) {p : Scheduler}
    (hp : (w.run events).schedulers[i]? = some p) :
    w.Unsettled i t events p ∨ ∃ q code, w.Settled i t events p q code := by
  induction events using List.reverseRecOn generalizing p with
  | nil =>
    have hstart := Scheduler.journal_start (hw p (List.mem_of_getElem? hp))
    refine .inl ⟨fun ⟨code, hr⟩ => ?_, ?_, ?_, fun P ⟨before, e, _, _, hpre, _⟩ => ?_⟩
    · rw [Scheduler.ReturnedWith, hstart.2] at hr
      cases hr.1
    · rw [Scheduler.folds, hstart.1]
      rfl
    · rw [Scheduler.deliveries, hstart.1]
      rfl
    · exact List.append_ne_nil_of_right_ne_nil before (List.cons_ne_nil e []) (List.prefix_nil.1 hpre)
  | append_singleton events e ih =>
    have hstep := hp
    rw [run_concat] at hstep
    have hends' : w.PeriodsEnd events :=
      fun before hb => hends before (hb.trans (List.prefix_append ..))
    -- the last event was steady for the batch or settled its account
    obtain ⟨p₀, hp₀, hlast⟩ : ∃ p₀, (w.run events).schedulers[i]? = some p₀ ∧
        (p₀.Steady t p ∨ ∃ code, p₀.Booked t p code) := by
      rcases step_schedulers (w.run events) e i hstep with ⟨a, s, rfl, hs, -, rfl⟩ | hsame
      · have hp₀ := (site?_eq_some.1 hs).1
        have ho := run_orderly hw events _ (List.mem_of_getElem? hp₀)
        exact ⟨s.scheduler, hp₀, Site.act_account ho.flight ho.registered a t
          (hends _ List.prefix_rfl _ (List.mem_of_getElem? hp))⟩
      · exact ⟨p, hsame, .inl (.refl ..)⟩
    rcases ih hends' hp₀ with hun | ⟨q, code, hset⟩ <;> rcases hlast with hs | ⟨code', hb⟩
    · refine .inl ⟨fun ⟨code, hr⟩ => hun.returned ⟨code, (hs.returned code).1 hr⟩,
        hs.folds.trans hun.folds, hs.deliveries.trans hun.deliveries, fun P hret => ?_⟩
      exact hun.never P ((returns_of_steady hp₀ hp hs).1 hret)
    · refine .inr ⟨p₀, code', hb.after, fun P => ?_, fun hl => ?_, fun hl => ?_, fun hl => ?_,
        fun hl => ?_⟩
      · rw [returns_concat hp₀ hp]
        exact ⟨fun h => h.elim (fun h => h.2.2) fun h => absurd h (hun.never P),
          fun h => .inl ⟨hb.before, ⟨code', hb.after⟩, h⟩⟩
      · rw [hb.fold hl, hun.folds, List.nil_append]
      · rw [hb.noFold hl, hun.folds]
      · rw [hb.delivery hl, hun.deliveries, List.nil_append]
      · rw [hb.noDelivery hl, hun.deliveries]
    · exact .inr ⟨q, code, (hs.returned code).2 hset.returned,
        fun P => (returns_of_steady hp₀ hp hs).trans (hset.once P),
        fun hl => hs.folds.trans (hset.fold hl), fun hl => hs.folds.trans (hset.noFold hl),
        fun hl => hs.deliveries.trans (hset.delivery hl),
        fun hl => hs.deliveries.trans (hset.noDelivery hl)⟩
    · exact absurd ⟨code, hset.returned⟩ hb.before

/-- For every batch of every process, at every moment of a run in which the throttles' periods end:
the throttle was given its count at most once, and once exactly if its run returned at a moment at
which its coordinator was not removed; its result was delivered at most once, and once exactly if it
was moreover the current batch at that moment and not cancelled; count and result are those of the
code it returned with. For a batch that crashed or was dropped from the queue neither happened. -/
theorem outcome_accounting (hw : w.Initial) (hends : w.PeriodsEnd events) {p : Scheduler}
    (hp : (w.run events).schedulers[i]? = some p) (t : TaskId) :
    ((p.folds t).length ≤ 1 ∧
      ((p.folds t).length = 1 ↔ w.Returns i t (·.Liable t) events) ∧
      ∀ count ∈ p.folds t, ∃ code, p.ReturnedWith t code ∧ count = (BatchResult.ofCode code).count) ∧
    ((p.deliveries t).length ≤ 1 ∧
      ((p.deliveries t).length = 1 ↔ w.Returns i t (·.Current t) events) ∧
      ∀ result ∈ p.deliveries t, ∃ code, p.ReturnedWith t code ∧ result = .ofCode code) ∧
    (p.Crashed t ∨ p.Dropped t → p.folds t = [] ∧ p.deliveries t = []) := by
  rcases account_run (t := t) hw hends hp with hun | ⟨q, code, hset⟩
  · rw [hun.folds, hun.deliveries]
    refine ⟨⟨Nat.zero_le 1, ?_, fun _ h => nomatch h⟩, ⟨Nat.zero_le 1, ?_, fun _ h => nomatch h⟩,
      fun _ => ⟨rfl, rfl⟩⟩
    all_goals exact ⟨fun h => (nomatch h), fun h => absurd h (hun.never _)⟩
  · have hstage (h : p.Crashed t ∨ p.Dropped t) : False := by
      rcases h with h | ⟨h, -⟩ <;> exact nomatch h.symm.trans hset.returned.1
    rw [hset.once, hset.once]
    refine ⟨?_, ?_, fun h => (hstage h).elim⟩
    · by_cases hl : q.Liable t
      · rw [hset.fold hl]
        refine ⟨Nat.le_refl 1, iff_of_true rfl hl, fun n hn => ⟨code, hset.returned, ?_⟩⟩
        exact List.mem_singleton.1 hn
      · rw [hset.noFold hl]
        exact ⟨Nat.zero_le 1, iff_of_false Nat.zero_ne_one hl, fun _ h => nomatch h⟩
    · by_cases hl : q.Current t
      · rw [hset.delivery hl]
        refine ⟨Nat.le_refl 1, iff_of_true rfl hl, fun n hn => ⟨code, hset.returned, ?_⟩⟩
        exact List.mem_singleton.1 hn
      · rw [hset.noDelivery hl]
        exact ⟨Nat.zero_le 1, iff_of_false Nat.zero_ne_one hl, fun _ h => nomatch h⟩

/-- The batch that returned with a page of three items was counted and delivered once, each with its three items. -/
theorem outcome_accounting_firstPage : ∃ p, (solo.run firstPage).schedulers[0]? = some p ∧
    solo.PeriodsEnd firstPage ∧ p.folds 0 = [3] ∧ p.deliveries 0 = [.ofCode 3] ∧
    solo.Returns 0 0 (·.Liable 0) firstPage ∧ solo.Returns 0 0 (·.Current 0) firstPage := by
  have hends : solo.PeriodsEnd firstPage := by
    have h : ∀ before ∈ firstPage.inits, ∀ p ∈ (solo.run before).schedulers,
        p.throttle.PeriodsEnd := by decide +kernel
    exact fun before hb => h before ((List.mem_inits ..).2 hb)
  have haccount : ((solo.run firstPage).schedulers[0]?).map (fun p => (p.folds 0, p.deliveries 0)) =
      some ([3], [.ofCode 3]) := by decide +kernel
  obtain ⟨p, hp, he⟩ := Option.map_eq_some_iff.1 haccount
  obtain ⟨hfolds, hdeliveries⟩ := Prod.mk.inj he
  obtain ⟨hfold, hdelivery, -⟩ := outcome_accounting initial_solo hends hp 0
  rw [hfolds] at hfold
  rw [hdeliveries] at hdelivery
  exact ⟨p, hp, hends, hfolds, hdeliveries, hfold.2.1.1 rfl, hdelivery.2.1.1 rfl⟩

end World

end BatchTraversal
