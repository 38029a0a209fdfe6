import BatchTraversal.Proofs.Detection.LastValues

/-!
# Notifications in order

A listener expects that a connector is announced before anything else is told of it, and that it is not
announced again before its removal was told (`Notification.InOrder`). A detection that lists the store and
reads the configuration of a new connector later can break that. If others have removed the connector by
then, it is not announced; but the listing that has it becomes the inventory all the same, and the next
detection tells the removal, or the changes if the connector is there again, of something that was never
announced (`Patrol.not_in_order`). Nothing else can go wrong: as long as the configuration is found when a
connector is to be announced, the notifications about it are in order, whatever others write between any
two requests (`Patrol.in_order`).
-/

namespace BatchTraversal

/-! ## The order of notifications -/

namespace Change

/-- Whether a connector is known after a change, if this may come next. -/
def accept (known : Bool) : Change → Option Bool
  | added _ => if known then none else some true
  | removed _ => if known then some false else none
  | checkpoint _ | configuration _ | schedule _ => if known then some true else none

/-- The differences between two entries of a name may come one after the other. -/
theorem foldlM_accept_about (name : String) (before after : Option TaskStamps) :
    (about name before after).foldlM accept before.isSome = some after.isSome := by
  cases before with
  | none => cases after <;> rfl
  | some b =>
    cases after with
    | none => rfl
    | some a =>
      rw [about, facets]
      split <;> split <;> split <;> rfl

/-- A change of which there is nothing to tell leaves a connector known, unless it is to be announced. -/
theorem accept_of_untold {c : Change} {st : Store} {known known' : Bool} (hc : c.told? st = none)
    (hadd : c ≠ added c.name) (h : accept known c = some known') : known' = known := by
  cases c with
  | added name => exact absurd rfl hadd
  | removed | checkpoint | schedule => cases hc
  | configuration name =>
    cases known with
    | false => cases h
    | true => exact (Option.some.inj h).symm

end Change

namespace Notification

/-- The change that a notification tells. -/
def change : Notification → Change
  | added name _ => .added name
  | removed name => .removed name
  | checkpointChanged name _ => .checkpoint name
  | configurationChanged name _ => .configuration name
  | scheduleChanged name _ => .schedule name

theorem change_of_told {c : Change} {st : Store} {n : Notification} (h : c.told? st = some n) :
    n.change = c := by
  cases c <;> simp only [Change.told?, Option.map_eq_some_iff, Option.some.injEq] at h
  case added => obtain ⟨_, -, rfl⟩ := h; rfl
  case configuration => obtain ⟨_, -, rfl⟩ := h; rfl
  all_goals subst h; rfl

/-- Whether a connector is known after some notifications, if those about it are in order. -/
def known? (name : String) (told : List Notification) : Option Bool :=
  ((told.map change).filter fun c => c.name = name).foldlM Change.accept false

/-- Whether the notifications about a connector are in order: an announcement, then any changes, then the
removal, and so on. -/
def InOrder (name : String) (told : List Notification) : Prop := (known? name told).isSome

instance (name : String) (told : List Notification) : Decidable (InOrder name told) :=
  inferInstanceAs (Decidable (_ = true))

theorem known?_append (name : String) (told : List Notification) (n : Notification) :
    known? name (told ++ [n]) =
      if n.change.name = name then (known? name told).bind (Change.accept · n.change)
      else known? name told := by
  rw [known?, List.map_append, List.filter_append, List.foldlM_append, ← known?]
  by_cases hn : n.change.name = name
  · rw [if_pos hn, List.map_cons, List.map_nil, List.filter_cons_of_pos (by simpa using hn)]
    cases known? name told with
    | none => rfl
    | some known => exact Option.bind_fun_some (Change.accept known n.change)
  · rw [if_neg hn, List.map_cons, List.map_nil, List.filter_cons_of_neg (by simpa using hn)]
    cases known? name told <;> rfl

end Notification

/-! ## Detections while others write -/

namespace Patrol

open Notification (known? InOrder)

variable {σ : Type} {hear : Detector.Listener σ} {p : Patrol σ} {events : List Event} {name : String}

/-- Whether a connector has a configuration whenever this is read to announce it. -/
def Unhindered (hear : Detector.Listener σ) (name : String) : Patrol σ → List Event → Prop
  | _, [] => True
  | p, e :: rest =>
    (e = .request → p.left.head? = some (.added name) →
      (p.backend.store.configuration? name).isSome) ∧
      Unhindered hear name (p.step hear e) rest

/-- The listing that the detector has gone by most recently. -/
def latest (p : Patrol σ) : NameMap TaskStamps := p.round.elim p.inventory (·.listed.list)

/-- Whether what was told of a connector is in order, and can go on with what is left to tell. -/
structure Orderly (name : String) (p : Patrol σ) : Prop where
  reliable : p.backend.Reliable
  goesOn : ∃ known, known? name p.told = some known ∧
    (p.left.filter fun c => c.name = name).foldlM Change.accept known =
      some (p.latest.find? name).isSome

theorem Fresh.orderly (hp : p.Fresh) (hb : p.backend.Reliable) : p.Orderly name := by
  refine ⟨hb, false, ?_, ?_⟩
  · rw [told, hp.reports]
    rfl
  · rw [left_of_rest hp.round, latest, hp.round, hp.inventory]
    rfl

theorem Orderly.request (h : p.Orderly name) (hh : Detector.Harmless hear)
    (hconf : p.left.head? = some (.added name) → (p.backend.store.configuration? name).isSome) :
    (p.request hear).Orderly name := by
  obtain ⟨hrel, hproceeds⟩ := request_proceeds hh h.reliable
  obtain ⟨known, hknown, hrest⟩ := h.goesOn
  refine ⟨hrel, ?_⟩
  cases hproceeds with
  | listing hp _ _ hreports hround =>
    -- the differences to the inventory are told next
    rw [left_of_rest hp, latest, hp] at hrest
    obtain rfl : known = (p.inventory.find? name).isSome := Option.some.inj hrest
    refine ⟨_, by rw [told, hreports]; exact hknown, ?_⟩
    rw [left_of_round hround, latest, hround,
      Change.between_about p.inventory.ascending p.backend.store.list.ascending]
    exact Change.foldlM_accept_about name _ _
  | done hp _ hinv hreports hround =>
    refine ⟨known, by rw [told, hreports]; exact hknown, ?_⟩
    rw [left_of_round hp, latest, hp] at hrest
    rw [left_of_rest hround, latest, hround, hinv]
    exact hrest
  | @reading listed c left hp _ _ hreports hround =>
    rw [left_of_round hp, latest, hp] at hrest
    rw [left_of_round hround, latest, hround, told, hreports, List.map_append]
    by_cases hname : c.name = name
    · rw [List.filter_cons_of_pos (by simpa using hname), List.foldlM_cons] at hrest
      obtain ⟨known', haccept, hrest⟩ := Option.bind_eq_some_iff.1 hrest
      refine ⟨known', ?_, hrest⟩
      cases hn : c.told? p.backend.store with
      | none =>
        rw [Change.accept_of_untold hn (fun he => ?_) haccept]
        · exact (congrArg (known? name) (List.append_nil _)).trans hknown
        · -- its configuration is there, so it is told
          rw [hname] at he
          obtain ⟨config, hc⟩ := Option.isSome_iff_exists.1
            (hconf (by rw [left_of_round hp, he]; rfl))
          rw [he, Change.told?, hc] at hn
          cases hn
      | some n =>
        have hchange := Notification.change_of_told hn
        refine (Notification.known?_append name p.told n).trans ?_
        rw [if_pos (hchange ▸ hname), hknown, hchange]
        exact haccept
    · rw [List.filter_cons_of_neg (by simpa using hname)] at hrest
      refine ⟨known, ?_, hrest⟩
      cases hn : c.told? p.backend.store with
      | none => exact (congrArg (known? name) (List.append_nil _)).trans hknown
      | some n =>
        have hchange := Notification.change_of_told hn
        refine (Notification.known?_append name p.told n).trans ?_
        rw [if_neg (hchange ▸ hname)]
        exact hknown

theorem Orderly.run (h : p.Orderly name) (hh : Detector.Harmless hear)
    (hun : p.Unhindered hear name events) : (p.run hear events).Orderly name := by
  induction events generalizing p with
  | nil => exact h
  | cons e rest ih =>
    obtain ⟨hnow, hlater⟩ := hun
    refine ih (p := p.step hear e) ?_ hlater
    cases e with
    | edit e => exact ⟨h.reliable, h.goesOn⟩
    | request => exact h.request hh (hnow rfl)

/-- Whatever others write between any two requests, the notifications about a connector are in order as long
as its configuration is there whenever it is read to announce the connector. -/
theorem in_order (hh : Detector.Harmless hear) (hp : p.Fresh) (hb : p.backend.Reliable)
    (hun : p.Unhindered hear name events) : InOrder name (p.run hear events).told := by
  obtain ⟨known, hknown, -⟩ := ((hp.orderly hb).run hh hun).goesOn
  rw [InOrder, hknown]
  rfl

/-- A connector that is not removed and is to be announced has a configuration. -/
theorem Attended.configured (h : p.Attended name) (hhead : p.left.head? = some (.added name)) :
    (p.backend.store.configuration? name).isSome := by
  obtain ⟨rest, hleft⟩ := List.head?_eq_some_iff.1 hhead
  rcases hround : p.round with _ | ⟨listed, left⟩
  · rw [left_of_rest hround] at hleft
    cases hleft
  obtain rfl : left = .added name :: rest := (left_of_round hround).symm.trans hleft
  rcases h.known with hu | ⟨base, hh⟩
  · obtain ⟨-, hkeeps, -⟩ := hu.round listed _ hround
    exact hkeeps.configured (hu.pending hround rfl).2.2
  · -- of a connector that was announced only facets are left
    obtain ⟨f, hf⟩ := hh.left _ (hleft ▸ List.mem_cons_self) rfl
    cases f <;> cases hf

theorem Attended.unhindered (h : p.Attended name) (hg : Detector.Gentle name hear)
    (hkept : .edit (.removal name) ∉ events) : p.Unhindered hear name events := by
  induction events generalizing p with
  | nil => trivial
  | cons e rest ih =>
    obtain ⟨he, hrest⟩ := not_or.1 (mt List.mem_cons.2 hkept)
    have hnext : (p.run hear [e]).Attended name :=
      h.run hg fun hmem => he (List.mem_singleton.1 hmem)
    exact ⟨fun _ => h.configured, ih hnext hrest⟩

/-- The notifications about a connector that is never removed are in order. -/
theorem in_order_of_kept (hg : Detector.Gentle name hear) (hp : p.Fresh) (hb : p.backend.Reliable)
    (hd : p.backend.store.Dated) (hkept : .edit (.removal name) ∉ events) :
    InOrder name (p.run hear events).told :=
  in_order hg.harmless hp hb ((hp.attended hb hd).unhindered hg hkept)

/-- A connector is listed and removed before it is announced, and configured again after that. -/
def removedUnread : List Event :=
  [.edit (.configuration "a" { kind := "fs" }), .request, .edit (.removal "a"), .request, .request,
    .edit (.configuration "a" { kind := "fs" }), .request, .request]

/-- Its configuration is told as changed though the connector was never announced. -/
theorem not_in_order : (started.run Watch.idle removedUnread).told =
      [.configurationChanged "a" { kind := "fs" }] ∧
    ¬ InOrder "a" (started.run Watch.idle removedUnread).told := by
  constructor <;> decide +kernel

end Patrol

end BatchTraversal
