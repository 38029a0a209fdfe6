import BatchTraversal.Detector.Basic

/-!
# The walk through two listings

A detection walks through the last listing and the present one in one pass. Both are ascending, so the
walk finds for every name what a comparison of its two entries would find (`Change.between_about`).
-/

namespace BatchTraversal

namespace NameMap

variable {α β : Type}

theorem findIn_eq_none {l : List (String × α)} {k : String} (h : ∀ e ∈ l, k < e.1) :
    findIn k l = none := by
  induction l with
  | nil => rfl
  | cons e rest ih =>
    have hne : k ≠ e.1 := by
      intro he
      have hlt := h e List.mem_cons_self
      rw [← he] at hlt
      exact String.lt_irrefl k hlt
    rw [findIn, if_neg hne]
    exact ih fun a ha => h a (List.mem_cons_of_mem e ha)

/-- A key below the first one of an ascending list has no value there. -/
theorem findIn_eq_none_of_lt {l : List (String × α)} {e : String × α} {k : String} (hlt : k < e.1)
    (hhead : ∀ a ∈ l, e.1 < a.1) : findIn k (e :: l) = none := by
  refine findIn_eq_none fun a ha => ?_
  rcases List.mem_cons.1 ha with rfl | ha
  · exact hlt
  · exact String.lt_trans hlt (hhead a ha)

theorem find?_filterMap (f : String → α → Option β) (m : NameMap α) (k : String) :
    (m.filterMap f).find? k = (m.find? k).bind (f k) := by
  refine Option.ext fun v => ?_
  rw [find?_eq_some_iff, Option.bind_eq_some_iff]
  simp only [filterMap, List.mem_filterMap, Option.map_eq_some_iff, Prod.mk.injEq]
  constructor
  · rintro ⟨⟨k', u⟩, he, w, hw, rfl, rfl⟩
    exact ⟨u, find?_eq_some_iff.2 he, hw⟩
  · rintro ⟨u, hu, hv⟩
    exact ⟨(k, u), find?_eq_some_iff.1 hu, v, hv, rfl, rfl⟩

/-- Two maps list the same keys exactly if they have values at the same keys. -/
theorem keys_eq_iff {m : NameMap α} {m' : NameMap β} :
    m.keys = m'.keys ↔ ∀ k, (m.find? k).isSome ↔ (m'.find? k).isSome := by
  constructor
  · intro h k
    rw [← mem_keys_iff, ← mem_keys_iff, h]
  · intro h
    have hunit {γ : Type} (n : NameMap γ) : (n.filterMap fun _ _ => some ()).keys = n.keys := by
      simp only [keys, filterMap, Option.map_some, List.filterMap_eq_map', List.map_map]
      rfl
    have hsame : (m.filterMap fun _ _ => some ()) = m'.filterMap fun _ _ => some () := by
      refine ext_find? fun k => ?_
      rw [find?_filterMap, find?_filterMap]
      have hk := h k
      cases hm : m.find? k <;> cases hm' : m'.find? k <;> simp [hm, hm'] at hk ⊢
    rw [← hunit m, ← hunit m', hsame]

end NameMap

namespace Store

/-- A listing shows the stamps of a name if it has a configuration. -/
theorem find?_list (s : Store) (name : String) : s.list.find? name =
    if (s.task name).configuration.isSome then some (s.task name).stamps else none := by
  rw [list, NameMap.find?_filterMap, task]
  cases s.tasks.find? name <;> rfl

end Store

namespace Change

/-- The connector that a change is about. -/
def name : Change → String
  | added name | removed name | checkpoint name | configuration name | schedule name => name

/-- The differences between two entries of one name. -/
def about (name : String) : Option TaskStamps → Option TaskStamps → List Change
  | none, none => []
  | some _, none => [removed name]
  | none, some _ => [added name]
  | some before, some after => facets name before after

theorem name_of_mem_facets {c : Change} {name : String} {before after : TaskStamps}
    (h : c ∈ facets name before after) : c.name = name := by
  simp only [facets, List.mem_append] at h
  rcases h with (h | h) | h <;> split at h
  all_goals first
    | exact absurd h List.not_mem_nil
    | rw [List.mem_singleton.1 h]; rfl

theorem filter_facets (name other : String) (before after : TaskStamps) :
    (facets name before after).filter (fun c => c.name = other) =
      if other = name then facets name before after else [] := by
  split
  · next he =>
    refine List.filter_eq_self.2 fun c hc => ?_
    rw [decide_eq_true_iff, name_of_mem_facets hc, he]
  · next hne =>
    refine List.filter_eq_nil_iff.2 fun c hc => ?_
    rw [decide_eq_true_iff, name_of_mem_facets hc]
    exact fun he => hne he.symm

theorem filter_cons_name {c : Change} {l : List Change} {other : String} {found : List Change}
    (h : l.filter (fun d => d.name = other) = found) : (c :: l).filter (fun d => d.name = other) =
      if other = c.name then c :: found else found := by
  rw [List.filter_cons, h]
  by_cases he : other = c.name
  · rw [if_pos he, if_pos (decide_eq_true he.symm)]
  · rw [if_neg he, if_neg]
    intro hd
    exact he (of_decide_eq_true hd).symm

/-- A name that only the earlier listing has is gone; about the others nothing changes. -/
theorem about_gone {m : String} {before : TaskStamps} {olds news : List (String × TaskStamps)}
    (hold : NameMap.findIn m olds = none) (hnew : NameMap.findIn m news = none) (other : String) :
    about other (NameMap.findIn other ((m, before) :: olds)) (NameMap.findIn other news) =
      if other = m then
        removed m :: about other (NameMap.findIn other olds) (NameMap.findIn other news)
      else about other (NameMap.findIn other olds) (NameMap.findIn other news) := by
  rw [NameMap.findIn]
  split
  · next he =>
    subst he
    rw [hold, hnew]
    rfl
  · rfl

/-- A name that only the present listing has is new; about the others nothing changes. -/
theorem about_new {m : String} {after : TaskStamps} {olds news : List (String × TaskStamps)}
    (hold : NameMap.findIn m olds = none) (hnew : NameMap.findIn m news = none) (other : String) :
    about other (NameMap.findIn other olds) (NameMap.findIn other ((m, after) :: news)) =
      if other = m then
        added m :: about other (NameMap.findIn other olds) (NameMap.findIn other news)
      else about other (NameMap.findIn other olds) (NameMap.findIn other news) := by
  rw [NameMap.findIn]
  split
  · next he =>
    subst he
    rw [hold, hnew]
    rfl
  · rfl

/-- What the walk finds about a name is the difference between its two entries. -/
theorem between_about {olds news : List (String × TaskStamps)}
    (ho : olds.Pairwise fun a b => a.1 < b.1) (hn : news.Pairwise fun a b => a.1 < b.1)
    (other : String) : (between olds news).filter (fun c => c.name = other) =
      about other (NameMap.findIn other olds) (NameMap.findIn other news) := by
  induction olds, news using between.induct with
  | case1 =>
    rw [between]
    rfl
  | case2 old olds ih =>
    obtain ⟨hhead, htail⟩ := List.pairwise_cons.1 ho
    rw [between, filter_cons_name (ih htail hn)]
    exact (about_gone (NameMap.findIn_eq_none hhead) rfl other).symm
  | case3 new news ih =>
    obtain ⟨hhead, htail⟩ := List.pairwise_cons.1 hn
    rw [between, filter_cons_name (ih ho htail)]
    exact (about_new rfl (NameMap.findIn_eq_none hhead) other).symm
  | case4 old olds new news hlt ih =>
    -- all names of the present listing are greater
    obtain ⟨hhead, htail⟩ := List.pairwise_cons.1 ho
    have hgone := NameMap.findIn_eq_none_of_lt hlt (List.pairwise_cons.1 hn).1
    rw [between, if_pos hlt, filter_cons_name (ih htail hn)]
    exact (about_gone (NameMap.findIn_eq_none hhead) hgone other).symm
  | case5 old olds new news hnlt hlt ih =>
    obtain ⟨hhead, htail⟩ := List.pairwise_cons.1 hn
    have hfresh := NameMap.findIn_eq_none_of_lt hlt (List.pairwise_cons.1 ho).1
    rw [between, if_neg hnlt, if_pos hlt, filter_cons_name (ih ho htail)]
    exact (about_new hfresh (NameMap.findIn_eq_none hhead) other).symm
  | case6 old olds new news hnlt hnlt' ih =>
    obtain ⟨m, before⟩ := old
    obtain ⟨m', after⟩ := new
    obtain ⟨hhead, htail⟩ := List.pairwise_cons.1 ho
    obtain ⟨hheadn, htailn⟩ := List.pairwise_cons.1 hn
    obtain rfl : m = m' := String.le_antisymm (String.not_lt.1 hnlt') (String.not_lt.1 hnlt)
    rw [between, if_neg hnlt, if_neg hnlt', List.filter_append, ih htail htailn, filter_facets]
    rcases Decidable.em (other = m) with rfl | hne
    · simp [NameMap.findIn, NameMap.findIn_eq_none hhead, NameMap.findIn_eq_none hheadn, about]
    · simp [NameMap.findIn, hne]

variable {old new : NameMap TaskStamps} {c : Change} {name : String}

/-- What a walk finds is a difference between the two entries of a name. -/
theorem mem_about (h : c ∈ between old.entries new.entries) :
    c ∈ about c.name (old.find? c.name) (new.find? c.name) := by
  rw [NameMap.find?, NameMap.find?, ← between_about old.ascending new.ascending, List.mem_filter]
  exact ⟨h, decide_eq_true rfl⟩

/-- A name that a walk finds removed is not listed any more. -/
theorem find?_of_removed (h : removed name ∈ between old.entries new.entries) :
    new.find? name = none := by
  have habout := mem_about h
  rw [Change.name] at habout
  cases hn : new.find? name with
  | none => rfl
  | some after =>
    rw [hn] at habout
    cases ho : old.find? name with
    | none =>
      rw [ho] at habout
      cases List.mem_singleton.1 habout
    | some before =>
      rw [ho] at habout
      simp [about, facets] at habout

end Change

end BatchTraversal
