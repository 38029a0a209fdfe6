import BatchTraversal.Proofs.Process.Sources

/-!
# What edits take away

The calls on a connector and the detections have in common that they make no traverser, submit no batch
and let none begin: what a coordinator keeps afterwards, a traverser or a batch in flight, it kept before
(`Scheduler.Trims`). Each edit is such (`Site.Edit.trims`), and calls and detections are made of edits.
-/

namespace BatchTraversal

/-- Where no task begins in either of two steps, none begins in both together. -/
theorem Pool.Curbs.trans {β : Type} {p q r : Pool β} (h : p.Curbs q) (h' : q.Curbs r) : p.Curbs r :=
  ⟨h.toKeeps.trans h'.toKeeps, h'.executing.trans h.executing, fun _ ht => h.queue (h'.queue ht),
    fun hs => h'.sound (h.sound hs)⟩

/-- What a coordinator has after two changes it had before both, and from the same configuration. -/
theorem Coordinator.Passes.trans {k k' k'' : Coordinator} (h : k.Passes k') (h' : k'.Passes k'') :
    k.Passes k'' := by
  refine ⟨h'.name.trans h.name, ?_, ?_⟩
  · rcases h'.traverser with hnone | ⟨hsame', hconfig'⟩
    · exact .inl hnone
    · exact h.traverser.imp hsame'.trans
        fun ⟨hsame, hconfig⟩ => ⟨hsame'.trans hsame, hconfig'.trans hconfig⟩
  · rcases h'.handle with hnone | ⟨hsame', hconfig'⟩
    · exact .inl hnone
    · exact h.handle.imp hsame'.trans
        fun ⟨hsame, hconfig⟩ => ⟨hsame'.trans hsame, hconfig'.trans hconfig⟩

namespace Scheduler

/-- What an edit does to a process. -/
structure Trims (p q : Scheduler) : Prop where
  relays : p.Relays q
  curbs : p.pool.Curbs q.pool

variable {p q r : Scheduler} {c : CoordinatorId} {k : Coordinator}

/-- Two relays in a row are one. A coordinator that is new in the first keeps nothing that the second could hand
on. -/
theorem Relays.trans (h : p.Relays q) (h' : q.Relays r) : p.Relays r where
  source? i := (h'.source? i).trans (h.source? i)
  post? t := (h'.post? t).trans (h.post? t)
  coordinators c k'' hk'' := by
    rcases h'.coordinators c k'' hk'' with hnone | ⟨k', hk', hpass'⟩
    · exact .inl hnone
    · rcases h.coordinators c k' hk' with ⟨htr, hh⟩ | ⟨k, hk, hpass⟩
      · refine .inl ⟨hpass'.traverser.elim id fun h => h.1.trans htr, ?_⟩
        exact hpass'.handle.elim id fun h => h.1.trans hh
      · exact .inr ⟨k, hk, hpass.trans hpass'⟩
  names c k hk := by
    obtain ⟨k', hk', hname⟩ := h.names c k hk
    obtain ⟨k'', hk'', hname'⟩ := h'.names c k' hk'
    exact ⟨k'', hk'', hname'.trans hname⟩
  journal _ ho := h'.journal (h.journal ho)

/-- What leaves the pool, the coordinators, the traversers and the journal as they are takes nothing
away. -/
theorem Trims.of_same (hp : q.pool = p.pool) (hc : q.coordinators = p.coordinators)
    (ht : q.traversers = p.traversers) (hj : q.journal = p.journal) : p.Trims q :=
  ⟨.same ht (fun t => by rw [post?, post?, batch?, batch?, hp]) hc fun _ ho => hj ▸ ho,
    hp ▸ .refl p.pool⟩

/-- A process that is left alone loses nothing. -/
theorem Trims.refl (p : Scheduler) : p.Trims p := .of_same rfl rfl rfl rfl

/-- Edits one after the other take away what each of them takes away. -/
theorem Trims.trans (h : p.Trims q) (h' : q.Trims r) : p.Trims r :=
  ⟨h.relays.trans h'.relays, h.curbs.trans h'.curbs⟩

/-- An interruption takes the handle of the batch in flight, and the traverser stays only with its
configuration. -/
theorem trims_interrupt (p : Scheduler) (c : CoordinatorId) {f : Coordinator → Coordinator}
    (hf : ∀ k, (f k).name = k.name ∧
      ((f k).traverser = none ∨ (f k).traverser = k.traverser ∧ (f k).config = k.config)) :
    p.Trims (p.interrupt c f) := by
  cases hk : p.coordinators[c]? with
  | none =>
    rw [interrupt, hk]
    exact .refl p
  | some k => exact ⟨relays_interrupt hk (hf k), curbs_interrupt hk f⟩

/-- A coordinator that is amended gives up its traverser, or stays with it and its configuration. -/
theorem trims_amend (p : Scheduler) (c : CoordinatorId) (a : Amendment) :
    p.Trims (p.interrupt c a.apply) := by
  refine p.trims_interrupt c fun k => ⟨(a.apply_name_removed k).1, ?_⟩
  cases a with
  | configure | dropTraverser => exact .inl rfl
  | reschedule => exact .inr ⟨rfl, rfl⟩

/-- A coordinator that is removed keeps nothing. -/
theorem trims_detach (p : Scheduler) (name : String) (c : CoordinatorId) :
    p.Trims (p.detach name c) := by
  have herase : p.Trims { p with registry := p.registry.erase name } := .of_same rfl rfl rfl rfl
  refine herase.trans ?_
  unfold detach remove
  split
  · exact .refl _
  · split
    · exact .refl _
    · have hcut := trims_interrupt { p with registry := p.registry.erase name } c (f := fun k =>
        { k with removed := true, config := none, schedule := none, traverser := none })
        fun _ => ⟨rfl, .inl rfl⟩
      exact hcut.trans (.of_same rfl rfl rfl rfl)

/-- A new coordinator keeps nothing yet. -/
theorem trims_enlist (p : Scheduler) (name : String) (config : ConnectorConfig) :
    p.Trims (p.enlist name config) := by
  refine ⟨⟨fun _ => rfl, fun _ => rfl, fun c k' hk' => ?_, fun c k hk => ⟨k, ?_, rfl⟩, fun _ => id⟩, .refl _⟩
  · rcases getElem?_concat_cases hk' with hk | ⟨-, rfl⟩
    · exact .inr ⟨k', hk, .of_same rfl rfl rfl rfl⟩
    · exact .inl ⟨rfl, rfl⟩
  · exact (List.getElem?_append_left (List.getElem?_eq_some_iff.1 hk).1).trans hk

end Scheduler

namespace Site

open Scheduler

variable {s s' : Site}

/-- An edit makes no traverser, submits no batch and lets none begin. -/
theorem Edit.trims (h : Edit s s') : s.scheduler.Trims s'.scheduler := by
  cases h with
  | amend a => exact trims_amend ..
  | enlist => exact trims_enlist ..
  | detach => exact trims_detach ..
  | look | storeConfiguration | storeSchedule | removeTask => exact .refl _
  | @clearCheckpoint c k hk =>
    refine ⟨.modify (c := c) (fun _ => rfl) (fun _ => rfl) rfl (fun l hl => ?_) fun _ => id, .refl _⟩
    cases hk.symm.trans hl
    exact .of_same (CheckpointCell.connector_write ..) rfl rfl rfl

theorem Edits.trims (h : Edits s s') : s.scheduler.Trims s'.scheduler := by
  induction h with
  | refl => exact .refl _
  | tail _ h ih => exact ih.trans h.trims

/-- No administrative call makes a traverser, submits a batch or lets one begin. -/
theorem call_trims (hr : s.scheduler.Registered) {a : Action} (ha : a.IsCall) :
    s.scheduler.Trims (s.act a).scheduler := Edits.trims (call_edits hr ha)

/-- No detection makes a traverser, submits a batch or lets one begin. -/
theorem detect_trims (hr : s.scheduler.Registered) : s.scheduler.Trims s.detect.2.scheduler := by
  obtain ⟨s', inventory, h, e⟩ := detect_edits hr
  rw [e]
  exact (Edits.trims h).trans (.of_same rfl rfl rfl rfl)

end Site

end BatchTraversal
