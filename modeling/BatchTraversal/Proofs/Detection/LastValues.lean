import BatchTraversal.Proofs.Detection.Evolution
import BatchTraversal.Proofs.Detection.Reports

/-!
# What was told last is what is stored

A detection takes the stamps when it lists the store and the values later, so it may tell a value that is
newer than the stamp it goes by. The value is then told again by the next detection, as its stamp is not the
one that was listed. What must not happen is the opposite: that a stamp goes into the inventory whose value
was never told. It does not, since a stamp that is listed is the stamp of a value or of an earlier one by the
time the value is read, and no stamp comes back (`Store.Retains.same`). So after a detection during which
nothing was written, the last value that was told of a configuration or a schedule is the stored one,
whatever was written between the requests of the detections before (`Patrol.told_up_to_date`).

Checkpoints are left out. They can be cleared, which leaves no stamp: one that is written after a listing
without it, is told, and is cleared before the next listing is not told again (`Patrol.cleared_unnoticed`).
-/

namespace BatchTraversal

/-! ## Stores that keep a connector -/

namespace Store

variable {base st st' st'' : Store} {name : String} {f : Facet}

/-- No stored configuration or schedule is later than the last stamp. -/
theorem Dated.facet (hd : st.Dated) (hf : f ≠ .checkpoint) {x : Stamped f.Value}
    (hx : (st.task name).facet? f = some x) : x.stamp ≤ st.lastStamp := by
  cases f with
  | configuration => exact hd.configuration name x hx
  | schedule => exact hd.schedule name x hx
  | checkpoint => exact absurd rfl hf

/-- A stored configuration or schedule was stored before, or is later than all stamps before. -/
theorem Evolves.facet (h : st.Evolves st') (name : String) (hf : f ≠ .checkpoint) :
    Stamped.Follows st.lastStamp ((st.task name).facet? f) ((st'.task name).facet? f) := by
  cases f with
  | configuration => exact h.configuration name
  | schedule => exact h.schedule name
  | checkpoint => exact absurd rfl hf

/-- Whether a store has come out of another one without losing the configuration or the schedule of a
connector. -/
structure Retains (name : String) (st st' : Store) : Prop where
  evolves : st.Evolves st'
  present : ∀ f, f ≠ .checkpoint → (st'.task name).facet? f = none → (st.task name).facet? f = none

theorem Retains.refl (name : String) (st : Store) : st.Retains name st := ⟨.refl st, fun _ _ => id⟩

/-- What is retained step by step is retained. -/
theorem Retains.trans (h : st.Retains name st') (h' : st'.Retains name st'') : st.Retains name st'' :=
  ⟨h.evolves.trans h'.evolves, fun f hf hx => h.present f hf (h'.present f hf hx)⟩

/-- Only a removal takes a configuration or a schedule away. -/
theorem Edit.leaves_nothing {e : Edit} (h : e.leaves name f = some none) :
    e = .removal name ∨ f = .checkpoint := by
  cases e <;> cases f <;> simp_all [leaves]

/-- An edit that does not remove the connector retains what is stored of it. -/
theorem retains_apply {e : Edit} (he : e ≠ .removal name) (st : Store) : st.Retains name (e.apply st) := by
  refine ⟨e.evolves st, fun f hf hx => ?_⟩
  rw [Edit.facet?_apply] at hx
  cases hl : e.leaves name f with
  | none =>
    rw [hl] at hx
    exact hx
  | some left =>
    rw [hl] at hx
    rw [Option.map_eq_none_iff.1 hx] at hl
    exact absurd hl fun h => (Edit.leaves_nothing h).elim he hf

/-- What is stored is what was stored if it was stored at first: no stamp comes back. -/
theorem Retains.same (hd : base.Dated) (h : base.Retains name st) (h' : st.Retains name st')
    (hf : f ≠ .checkpoint) (hx : (st'.task name).facet? f = (base.task name).facet? f) :
    (st.task name).facet? f = (base.task name).facet? f := by
  cases hbase : (base.task name).facet? f with
  | none => exact h'.present f hf (hx.trans hbase)
  | some x =>
    rw [hbase] at hx
    refine (h'.evolves.facet name hf x hx).resolve_right fun hlater => ?_
    have hle := hd.facet hf hbase
    have hmono := h.evolves.lastStamp
    omega

/-- What is stored under the stamp of what was stored at first is that. -/
theorem Retains.facet_of_stamp (hd : base.Dated) (h : base.Retains name st) (hf : f ≠ .checkpoint)
    (hstamp : (base.task name).stamps.stamp? f = (st.task name).stamps.stamp? f) :
    (st.task name).facet? f = (base.task name).facet? f := by
  rw [StoredTask.stamp?_stamps, StoredTask.stamp?_stamps] at hstamp
  cases hx : (st.task name).facet? f with
  | none => exact (h.present f hf hx).symm
  | some x =>
    rw [hx] at hstamp
    obtain ⟨y, hy, hyx⟩ := Option.map_eq_some_iff.1 hstamp
    rcases h.evolves.facet name hf x hx with hold | hlater
    · exact hold.symm
    · have hle : y.stamp ≤ base.lastStamp := hd.facet hf hy
      have hsame : y.stamp = x.stamp := hyx
      omega

/-- The store after some more edits. -/
def edited (st : Store) (edits : List Edit) : Store := edits.foldl (fun st e => e.apply st) st

/-- A value is read from its facet. -/
theorem value?_congr (h : (st.task name).facet? f = (st'.task name).facet? f) :
    st.value? name f = st'.value? name f := by
  rw [value?_eq, value?_eq, h]

/-- A connector that is retained stays configured. -/
theorem Retains.configured (h : st.Retains name st') (hc : (st.configuration? name).isSome) :
    (st'.configuration? name).isSome := by
  rw [configuration?, Option.isSome_map, ← Option.not_isNone, Bool.not_eq_true', ← Bool.not_eq_true,
    Option.isNone_iff_eq_none] at hc ⊢
  exact fun hnone => hc (h.present .configuration (by decide) hnone)

end Store

/-! ## What a detector knows of a connector -/

/-- Whether a listener may edit the store, but neither removes a certain connector nor makes the store
fail. -/
structure Detector.Gentle {σ : Type} (name : String) (hear : Listener σ) : Prop where
  harmless : Harmless hear
  edits : ∀ n s b, ∃ edits, .removal name ∉ edits ∧
    (hear n s b).2.2.store = b.store.edited edits

namespace Patrol

variable {σ : Type} {hear : Detector.Listener σ} {p : Patrol σ} {events : List Event} {name : String}
  {base : Store}

/-- The value of a facet that was told last. -/
def lastTold? (p : Patrol σ) (name : String) (f : Facet) : Option (Option f.Value) :=
  Report.last? name f p.reports

/-- Whether nothing was told of a connector yet: the inventory does not have it, and a detection under way
has it to announce if it was listed. -/
structure Unheard (name : String) (p : Patrol σ) : Prop where
  inventory : p.inventory.find? name = none
  reports : ∀ r ∈ p.reports, r.notification.name ≠ name
  round : ∀ listed left, p.round = some ⟨listed, left⟩ → listed.Dated ∧
    listed.Retains name p.backend.store ∧
      left.filter (fun c => c.name = name) = Change.about name none (listed.list.find? name)

/-- Whether a connector was announced, and listed when the store was `base`: what was told last of a facet is
the stored value, unless this is to be told or is not the listed one any more. -/
structure Heard (name : String) (p : Patrol σ) (base : Store) : Prop where
  goesBy : p.GoesBy base
  dated : base.Dated
  keeps : base.Retains name p.backend.store
  configured : (base.configuration? name).isSome
  left : ∀ c ∈ p.left, c.name = name → ∃ f, c = Facet.change f name
  told : ∀ f, f ≠ .checkpoint → f.change name ∉ p.left →
    (p.backend.store.task name).facet? f = (base.task name).facet? f →
      p.lastTold? name f = some (p.backend.store.value? name f)

/-- What holds of a connector that is never removed from a store that does not fail. -/
structure Attended (name : String) (p : Patrol σ) : Prop where
  reliable : p.backend.Reliable
  dated : p.backend.store.Dated
  known : p.Unheard name ∨ ∃ base, p.Heard name base

/-- A patrol that has not begun attends to a connector: nothing was heard of it yet. -/
theorem Fresh.attended (hp : p.Fresh) (hb : p.backend.Reliable) (hd : p.backend.store.Dated) :
    p.Attended name := by
  refine ⟨hb, hd, .inl ⟨?_, ?_, ?_⟩⟩
  · rw [hp.inventory]
    rfl
  · rw [hp.reports]
    exact fun r hr => absurd hr List.not_mem_nil
  · rw [hp.round]
    exact fun _ _ h => nomatch h

/-! ## Writes -/

variable {q : Patrol σ}

/-- An edit by somebody else leaves a connector attended to, if it does not remove it. -/
theorem Attended.edit (h : p.Attended name) {e : Store.Edit} (he : e ≠ .removal name) :
    { p with backend := { p.backend with store := e.apply p.backend.store } }.Attended name := by
  have hretains := Store.retains_apply he p.backend.store
  refine ⟨h.reliable, hretains.evolves.dated h.dated, ?_⟩
  rcases h.known with hu | ⟨base, hh⟩
  · refine .inl ⟨hu.inventory, hu.reports, fun listed left hround => ?_⟩
    obtain ⟨hd, hk, hleft⟩ := hu.round listed left hround
    exact ⟨hd, hk.trans hretains, hleft⟩
  · refine .inr ⟨base, hh.goesBy, hh.dated, hh.keeps.trans hretains, hh.configured, hh.left,
      fun f hf hleft hsame => ?_⟩
    have hbefore := hh.keeps.same hh.dated hretains hf hsame
    exact (hh.told f hf hleft hbefore).trans
      (congrArg some (Store.value?_congr (hbefore.trans hsame.symm)))

/-- What a listener writes is as good as written by others. -/
theorem Attended.edited {b : Backend} {listener : σ} {edits : List Store.Edit} (h : p.Attended name)
    (hkept : .removal name ∉ edits) (hb : b.Reliable)
    (hstore : b.store = p.backend.store.edited edits) : { p with backend := b, listener }.Attended name := by
  induction edits generalizing p with
  | nil =>
    have hsame : b.store = p.backend.store := hstore
    refine ⟨hb, hsame ▸ h.dated, ?_⟩
    rcases h.known with hu | ⟨base, hh⟩
    · exact .inl ⟨hu.inventory, hu.reports, hsame ▸ hu.round⟩
    · exact .inr ⟨base, hh.goesBy, hh.dated, hsame ▸ hh.keeps, hh.configured, hh.left, hsame ▸ hh.told⟩
  | cons e rest ih =>
    obtain ⟨he, hrest⟩ := not_or.1 (mt List.mem_cons.2 hkept)
    exact ih (p := { p with backend := { p.backend with store := e.apply p.backend.store } })
      (h.edit (Ne.symm he)) hrest hstore

/-! ## Requests -/

/-- A detection that begins compares the stamps. -/
theorem Heard.list (h : p.Heard name base) (hd : p.backend.store.Dated) (hp : p.round = none)
    (hstore : q.backend.store = p.backend.store) (hreports : q.reports = p.reports)
    (hround : q.round = some ⟨p.backend.store,
      Change.between p.inventory.entries p.backend.store.list.entries⟩) :
    q.Heard name p.backend.store := by
  have hleft := left_of_round hround
  have hconf := h.keeps.configured h.configured
  have habout : (Change.between p.inventory.entries p.backend.store.list.entries).filter
      (fun c => c.name = name) =
        Change.facets name (base.task name).stamps (p.backend.store.task name).stamps := by
    rw [Change.between_about p.inventory.ascending p.backend.store.list.ascending]
    show Change.about name (p.inventory.find? name) (p.backend.store.list.find? name) = _
    rw [h.goesBy.inventory_eq hp, Store.find?_list_eq_some.2 ⟨h.configured, rfl⟩,
      Store.find?_list_eq_some.2 ⟨hconf, rfl⟩]
    rfl
  refine ⟨.inr ⟨_, hround⟩, hd, by rw [hstore]; exact .refl _ _, hconf, fun c hc hname => ?_,
    fun f hf hnot _ => ?_⟩
  · rw [hleft] at hc
    have hmem : c ∈ Change.facets name (base.task name).stamps
        (p.backend.store.task name).stamps := by
      rw [← habout]
      exact List.mem_filter.2 ⟨hc, decide_eq_true hname⟩
    exact Facet.exists_change hmem
  · -- its stamp is that of the last listing, so the value was told
    have hsame := h.keeps.facet_of_stamp h.dated hf <| Facet.stamp?_of_not_mem fun hmem => by
      rw [← habout, List.mem_filter] at hmem
      exact hnot (hleft ▸ hmem.1)
    rw [lastTold?, hreports, hstore]
    exact h.told f hf (left_of_rest hp ▸ List.not_mem_nil) hsame

/-- To list the store tells nothing yet. -/
theorem Unheard.list (h : p.Unheard name) (hd : p.backend.store.Dated)
    (hstore : q.backend.store = p.backend.store) (hinv : q.inventory = p.inventory)
    (hreports : q.reports = p.reports)
    (hround : q.round = some ⟨p.backend.store,
      Change.between p.inventory.entries p.backend.store.list.entries⟩) : q.Unheard name := by
  refine ⟨hinv ▸ h.inventory, hreports ▸ h.reports, fun listed left hr => ?_⟩
  rw [hround] at hr
  cases hr
  refine ⟨hd, by rw [hstore]; exact .refl _ _, ?_⟩
  rw [Change.between_about p.inventory.ascending p.backend.store.list.ascending]
  exact congrArg (Change.about name · _) h.inventory

/-- A detection that ends takes the listing over. -/
theorem Heard.done (h : p.Heard name base) {listed : Store} (hp : p.round = some ⟨listed, []⟩)
    (hstore : q.backend.store = p.backend.store) (hinv : q.inventory = listed.list)
    (hreports : q.reports = p.reports) (hround : q.round = none) : q.Heard name base := by
  obtain rfl := h.goesBy.store_eq hp
  have hleft : q.left = p.left := (left_of_rest hround).trans (left_of_round hp).symm
  refine ⟨.inl ⟨hround, hinv⟩, h.dated, hstore ▸ h.keeps, h.configured, hleft ▸ h.left, ?_⟩
  rw [hleft, hstore]
  simp only [lastTold?, hreports]
  exact h.told

/-- A round that ends without a word of the connector has not found it. -/
theorem Unheard.done (h : p.Unheard name) {listed : Store} (hp : p.round = some ⟨listed, []⟩)
    (hinv : q.inventory = listed.list) (hreports : q.reports = p.reports) (hround : q.round = none) :
    q.Unheard name := by
  obtain ⟨-, -, hleft⟩ := h.round listed [] hp
  refine ⟨?_, hreports ▸ h.reports, fun _ _ hr => by rw [hround] at hr; cases hr⟩
  rw [hinv]
  cases hl : listed.list.find? name with
  | none => rfl
  | some stamps =>
    rw [hl] at hleft
    cases hleft

section Read

variable {listed : Store} {c : Change} {left : List Change}

/-- A change of a connector that was announced is told with the stored value. -/
theorem Heard.read (h : p.Heard name base) (hp : p.round = some ⟨listed, c :: left⟩)
    (hstore : q.backend.store = p.backend.store) (hround : q.round = some ⟨listed, left⟩)
    (hreports : q.reports =
      p.reports ++ ((c.told? p.backend.store).map (Report.mk · listed)).toList) :
    q.Heard name base := by
  obtain rfl := h.goesBy.store_eq hp
  have hpleft := left_of_round hp
  have hqleft := left_of_round hround
  refine ⟨.inr ⟨left, hround⟩, h.dated, hstore ▸ h.keeps, h.configured, fun d hd => ?_,
    fun f hf hnot hsame => ?_⟩
  · rw [hqleft] at hd
    exact h.left d (hpleft ▸ List.mem_cons_of_mem c hd)
  rw [hqleft] at hnot
  rw [hstore] at hsame ⊢
  rw [lastTold?, hreports]
  have hother (hne : f.change name ≠ c) : Report.last? name f p.reports =
      some (p.backend.store.value? name f) :=
    h.told f hf (hpleft ▸ List.not_mem_cons_of_ne_of_not_mem hne hnot) hsame
  by_cases hname : c.name = name
  · obtain ⟨g, rfl⟩ := h.left c (hpleft ▸ List.mem_cons_self) hname
    rw [Report.last?_append_change g (h.keeps.configured h.configured)]
    split
    · rfl
    · next hg => exact hother fun he => hg (Facet.change_injective he).symm
  · rw [Report.last?_append_other hname]
    exact hother fun he => hname (he ▸ f.name_change name)

/-- What there is to tell of a connector that nothing was told of is its announcement. -/
theorem Unheard.pending (h : p.Unheard name) (hp : p.round = some ⟨listed, c :: left⟩)
    (hname : c.name = name) : c = .added name ∧ (∀ d ∈ left, d.name ≠ name) ∧
      (listed.configuration? name).isSome := by
  obtain ⟨-, -, hleft⟩ := h.round listed _ hp
  rw [List.filter_cons_of_pos (by simpa using hname)] at hleft
  have hconf : (listed.configuration? name).isSome := by
    by_contra hn
    rw [Store.find?_list_eq_none.2 (Option.not_isSome_iff_eq_none.1 hn)] at hleft
    cases hleft
  rw [Store.find?_list_eq_some.2 ⟨hconf, rfl⟩] at hleft
  obtain ⟨rfl, hnone⟩ := List.cons.inj hleft
  exact ⟨rfl, fun d hd => by simpa using List.filter_eq_nil_iff.1 hnone d hd, hconf⟩

/-- It is announced with the stored configuration. -/
theorem Unheard.read_own (h : p.Unheard name) (hp : p.round = some ⟨listed, c :: left⟩)
    (hname : c.name = name) (hstore : q.backend.store = p.backend.store)
    (hround : q.round = some ⟨listed, left⟩)
    (hreports : q.reports =
      p.reports ++ ((c.told? p.backend.store).map (Report.mk · listed)).toList) :
    q.Heard name listed := by
  obtain ⟨hd, hk, -⟩ := h.round listed _ hp
  obtain ⟨rfl, hnone, hconf⟩ := h.pending hp hname
  obtain ⟨config, hconfig⟩ := Option.isSome_iff_exists.1 (hk.configured hconf)
  refine ⟨.inr ⟨left, hround⟩, hd, hstore ▸ hk, hconf, fun d hd hdname => ?_, fun f hf _ hsame => ?_⟩
  · rw [left_of_round hround] at hd
    exact absurd hdname (hnone d hd)
  · rw [hstore] at hsame ⊢
    rw [lastTold?, hreports, Change.told?, hconfig]
    refine Report.last?_append_of_announced h.reports (by cases f <;> rfl) ?_
    cases f with
    | configuration =>
      rw [Store.value?, hconfig]
      exact if_pos rfl
    | schedule =>
      rw [Store.value?_congr hsame]
      exact if_pos rfl
    | checkpoint => exact absurd rfl hf

/-- A change of another connector is not heard of this one. -/
theorem Unheard.read_other (h : p.Unheard name) (hp : p.round = some ⟨listed, c :: left⟩)
    (hname : c.name ≠ name) (hstore : q.backend.store = p.backend.store)
    (hinv : q.inventory = p.inventory) (hround : q.round = some ⟨listed, left⟩)
    (hreports : q.reports =
      p.reports ++ ((c.told? p.backend.store).map (Report.mk · listed)).toList) :
    q.Unheard name := by
  obtain ⟨hd, hk, hleft⟩ := h.round listed _ hp
  refine ⟨hinv ▸ h.inventory, fun r hr => ?_, fun listed' left' hr => ?_⟩
  · rw [hreports] at hr
    rcases List.mem_append.1 hr with hr | hr
    · exact h.reports r hr
    · obtain ⟨n, hn, rfl⟩ := Option.map_eq_some_iff.1 (Option.mem_toList.1 hr)
      exact Change.name_told? hn ▸ hname
  · rw [hround] at hr
    cases hr
    rw [List.filter_cons_of_neg (by simpa using hname)] at hleft
    exact ⟨hd, hstore ▸ hk, hleft⟩

end Read

/-- Whatever a request finds, the connector is attended to. -/
theorem Attended.request (h : p.Attended name) (hg : Detector.Gentle name hear) :
    (p.request hear).Attended name := by
  obtain ⟨hrel, hproceeds⟩ := request_proceeds hg.harmless h.reliable
  generalize p.request hear = q at hrel hproceeds
  cases hproceeds with
  | listing hp hstore hinv hreports hround =>
    refine ⟨hrel, hstore ▸ h.dated, h.known.imp ?_ ?_⟩
    · exact (·.list h.dated hstore hinv hreports hround)
    · exact fun ⟨_, hh⟩ => ⟨_, hh.list h.dated hp hstore hreports hround⟩
  | done hp hstore hinv hreports hround =>
    refine ⟨hrel, hstore ▸ h.dated, h.known.imp ?_ ?_⟩
    · exact (·.done hp hinv hreports hround)
    · exact fun ⟨base, hh⟩ => ⟨base, hh.done hp hstore hinv hreports hround⟩
  | @reading listed c left hp hstore hinv hreports hround =>
    -- the value is read from the store as it is, and what the listener writes comes after
    have hread : { q with backend := { q.backend with store := p.backend.store } }.Attended name := by
      refine ⟨hrel, h.dated, ?_⟩
      rcases h.known with hu | ⟨base, hh⟩
      · by_cases hname : c.name = name
        · exact .inr ⟨listed, hu.read_own hp hname rfl hround hreports⟩
        · exact .inl (hu.read_other hp hname rfl hinv hround hreports)
      · exact .inr ⟨base, hh.read hp rfl hround hreports⟩
    obtain hsame | ⟨n, b, hb, hheard⟩ := hstore
    · exact hread.edited List.not_mem_nil hrel hsame
    · obtain ⟨edits, hkept, hedits⟩ := hg.edits n p.listener b
      exact hread.edited hkept hrel (by rw [hheard, hedits, hb])

/-- What holds of a connector that is not removed goes on holding. -/
theorem Attended.run (h : p.Attended name) (hg : Detector.Gentle name hear)
    (hkept : .edit (.removal name) ∉ events) : (p.run hear events).Attended name := by
  induction events generalizing p with
  | nil => exact h
  | cons e rest ih =>
    obtain ⟨he, hrest⟩ := not_or.1 (mt List.mem_cons.2 hkept)
    refine ih (p := p.step hear e) ?_ hrest
    cases e with
    | request => exact h.request hg
    | edit e => exact h.edit fun heq => he (heq ▸ rfl)

/-! ## Detections during which nothing is written -/

/-- A detector that begins to list goes by the store as it is, as long as nothing is written. -/
theorem goesBy_run (hh : Detector.Harmless hear) (hb : p.backend.Reliable) (hp : p.round = none)
    (n : Nat) (hstill : ∀ k ≤ n,
      (p.run hear (List.replicate k .request)).backend.store = p.backend.store) :
    (p.run hear (List.replicate (n + 1) .request)).GoesBy p.backend.store := by
  have hrel (k : Nat) : (p.run hear (List.replicate k .request)).backend.Reliable :=
    run_reliable hh hb _
  have hnext (k : Nat) : p.run hear (List.replicate (k + 1) .request) =
      (p.run hear (List.replicate k .request)).request hear := by
    rw [List.replicate_succ', run_append]
    rfl
  induction n with
  | zero =>
    obtain ⟨-, hproceeds⟩ := request_proceeds hh hb
    cases hproceeds with
    | listing _ _ _ _ hround => exact .inr ⟨_, hround⟩
    | done hsome | reading hsome =>
      rw [hp] at hsome
      cases hsome
  | succ n ih =>
    have hgoes := ih fun k hk => hstill k (Nat.le_succ_of_le hk)
    have hsame := hstill (n + 1) (Nat.le_refl _)
    obtain ⟨-, hproceeds⟩ := request_proceeds hh (hrel (n + 1))
    rw [hnext]
    cases hproceeds with
    | listing _ _ _ _ hround => exact .inr ⟨_, hsame ▸ hround⟩
    | done hp _ hinv _ hround => exact .inl ⟨hround, hgoes.store_eq hp ▸ hinv⟩
    | reading hp _ _ _ hround => exact .inr ⟨_, hgoes.store_eq hp ▸ hround⟩

/-- When a detector that goes by the store as it is rests, the last values it told are the stored ones. -/
theorem Attended.lastTold?_of_rest (h : p.Attended name) (hgoes : p.GoesBy p.backend.store)
    (hrest : p.round = none) {f : Facet} (hf : f ≠ .checkpoint) :
    p.lastTold? name f = if (p.backend.store.configuration? name).isSome then
      some (p.backend.store.value? name f) else none := by
  have hinv := hgoes.inventory_eq hrest
  rcases h.known with hu | ⟨base, hh⟩
  · -- it is not in the inventory, so it is not listed
    rw [if_neg, Patrol.lastTold?, Report.last?_of_unheard hu.reports]
    intro hconf
    have hnone := hu.inventory
    rw [hinv, Store.find?_list_eq_some.2 ⟨hconf, rfl⟩] at hnone
    cases hnone
  · have hconf := hh.keeps.configured hh.configured
    rw [if_pos hconf]
    refine hh.told f hf (left_of_rest hrest ▸ List.not_mem_nil) ?_
    -- the listing that went into the inventory shows the stamps of what is stored
    have hlisting := congrArg (NameMap.find? · name) ((hh.goesBy.inventory_eq hrest).symm.trans hinv)
    rw [Store.find?_list_eq_some.2 ⟨hh.configured, rfl⟩,
      Store.find?_list_eq_some.2 ⟨hconf, rfl⟩] at hlisting
    exact hh.keeps.facet_of_stamp hh.dated hf
      (congrArg (TaskStamps.stamp? · f) (Option.some.inj hlisting))

/-- Whatever is written between the requests of the detections, as long as nobody removes a connector: after
a detection that begins when the detector rests, and during which the store stays as it is, the last value
told of the configuration and of the schedule is the stored one, if the connector is configured. If it is
not, nothing was told of it. A detection always comes to its end. The stamps of the store do not run out. -/
theorem told_up_to_date (hg : Detector.Gentle name hear) (hp : p.Fresh) (hb : p.backend.Reliable)
    (hd : p.backend.store.Dated) (hkept : .edit (.removal name) ∉ events)
    (hrest : (p.run hear events).round = none) :
    let st := (p.run hear events).backend.store
    let q (n : Nat) := (p.run hear events).run hear (List.replicate n .request)
    (∃ n, (q (n + 1)).round = none) ∧
      ∀ n, (q (n + 1)).round = none → (∀ k ≤ n + 1, (q k).backend.store = st) →
        ∀ f, f ≠ .checkpoint → (q (n + 1)).lastTold? name f =
          if (st.configuration? name).isSome then some (st.value? name f) else none := by
  have hattended : (p.run hear events).Attended name := (hp.attended hb hd).run hg hkept
  refine ⟨(run_requests hear hrest).imp fun _ h => h.1, fun n hq hstill f hf => ?_⟩
  have hgoes := goesBy_run hg.harmless hattended.reliable hrest n fun k hk =>
    hstill k (Nat.le_succ_of_le hk)
  rw [← hstill (n + 1) (Nat.le_refl _)] at hgoes ⊢
  refine Attended.lastTold?_of_rest (hattended.run hg fun hmem => ?_) hgoes hq hf
  cases List.eq_of_mem_replicate hmem

theorem gentle_idle (name : String) : Detector.Gentle name Watch.idle :=
  ⟨harmless_idle, fun _ _ _ => ⟨[], List.not_mem_nil, rfl⟩⟩

/-- The schedule of every hour. -/
def hourly : Schedule :=
  { name := "a", disabled := false, load := 60, retryDelay := .millis 0, intervals := [⟨0, 24⟩] }

/-- A connector is configured and listed, and configured anew before it is announced. The next detection
finds its configuration changed, and it is configured anew and scheduled before that is told. -/
def overlapped : List Event :=
  [.edit (.configuration "a" { kind := "fs" }), .request,
    .edit (.configuration "a" { kind := "web" }), .request, .request, .request,
    .edit (.configuration "a" { kind := "any" }), .edit (.schedule "a" hourly), .request, .request]

/-- The next detection tells the schedule, and the configuration once more. -/
theorem told_up_to_date_overlapped : .edit (.removal "a") ∉ overlapped ∧
    let v := started.run Watch.idle overlapped
    let q (n : Nat) := v.run Watch.idle (List.replicate n .request)
    v.round = none ∧ (q 4).round = none ∧ (∀ k ≤ 4, (q k).backend.store = v.backend.store) ∧
      (q 4).lastTold? "a" .configuration = some (some { kind := "any" }) ∧
      (q 4).lastTold? "a" .schedule = some (some hourly) := by
  have hkept : .edit (.removal "a") ∉ overlapped := by decide
  have hrest : (started.run Watch.idle overlapped).round = none := by decide +kernel
  obtain ⟨-, hlast⟩ := told_up_to_date (gentle_idle "a") fresh_started (fun _ h => nomatch h)
    Store.dated_empty hkept hrest
  have hq : ((started.run Watch.idle overlapped).run Watch.idle
      (List.replicate 4 .request)).round = none := by decide +kernel
  have hstill : ∀ k ≤ 4, ((started.run Watch.idle overlapped).run Watch.idle
      (List.replicate k .request)).backend.store =
        (started.run Watch.idle overlapped).backend.store := by decide +kernel
  have hconf : (started.run Watch.idle overlapped).backend.store.configuration? "a" =
      some { kind := "any" } := by decide +kernel
  have hsch : (started.run Watch.idle overlapped).backend.store.schedule? "a" = some hourly := by
    decide +kernel
  refine ⟨hkept, hrest, hq, hstill, ?_, ?_⟩
  · rw [hlast 3 hq hstill .configuration (by decide), Store.value?, hconf]
    rfl
  · rw [hlast 3 hq hstill .schedule (by decide), Store.value?, hconf, hsch]
    rfl

/-- Of a checkpoint that is cleared between two listings, what was told last need not be what is stored. -/
theorem cleared_unnoticed : ∃ events, .edit (.removal "a") ∉ events ∧
    (started.run Watch.idle events).round = none ∧
    let q := (started.run Watch.idle events).run Watch.idle [.request, .request]
    q.round = none ∧ (q.backend.store.configuration? "a").isSome ∧
      q.lastTold? "a" .checkpoint ≠ some (q.backend.store.value? "a" .checkpoint) := by
  -- it is found cleared, written again before this is told, and cleared again
  refine ⟨[.edit (.configuration "a" { kind := "fs" }), .edit (.checkpoint "a" (some "1")), .request,
    .request, .request, .edit (.checkpoint "a" none), .request, .edit (.checkpoint "a" (some "2")),
    .request, .request, .edit (.checkpoint "a" none)], ?_, ?_, ?_, ?_, ?_⟩ <;> decide +kernel

end Patrol

end BatchTraversal
