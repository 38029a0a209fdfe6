import BatchTraversal.Proofs.Detection.InOrder

/-!
# What a detection does, in which order

A detection reads values and tells them in turn. Its log (`Detector.survey`) can be written down in
advance from the last listing and the store: first the store is listed, then the names of both listings
are gone through in ascending order, and for every name what is due is read and told
(`Detector.agenda`). If every request is answered, the log is the whole agenda. A request that fails is
the last thing in the log, and what comes before it is the part of the agenda up to there
(`Detector.detect_exact`). It makes no difference whether the listener fails.
-/

namespace BatchTraversal

/-! ## Lists in the order of their names -/

namespace NameMap

variable {α : Type}

theorem isSome_find?_foldl_insert (l : List (String × α)) (m : NameMap α) (k : String) :
    ((l.foldl (fun m e => m.insert e.1 e.2) m).find? k).isSome ↔
      (m.find? k).isSome ∨ ∃ e ∈ l, e.1 = k := by
  induction l generalizing m with
  | nil => simp
  | cons e rest ih =>
    rw [List.foldl_cons, ih, find?_insert]
    by_cases hk : k = e.1
    · rw [if_pos hk]
      exact ⟨fun _ => .inr ⟨e, List.mem_cons_self, hk.symm⟩, fun _ => .inl rfl⟩
    · rw [if_neg hk]
      refine or_congr_right ⟨fun ⟨d, hd, he⟩ => ⟨d, List.mem_cons_of_mem e hd, he⟩, fun ⟨d, hd, he⟩ => ?_⟩
      rcases List.mem_cons.1 hd with rfl | hd
      · exact absurd he.symm hk
      · exact ⟨d, hd, he⟩

/-- A list has a value at the keys of its entries. -/
theorem mem_keys_ofList {l : List (String × α)} {k : String} :
    k ∈ (ofList l).keys ↔ ∃ e ∈ l, e.1 = k := by
  rw [mem_keys_iff, ofList, isSome_find?_foldl_insert]
  exact or_iff_right nofun

theorem mem_keys_of_entry {m : NameMap α} {k : String} : k ∈ m.keys ↔ ∃ e ∈ m.entries, e.1 = k :=
  List.mem_map

/-- The names that one of two maps has, in ascending order. -/
def names (m m' : NameMap α) : List String := (ofList (m.entries ++ m'.entries)).keys

theorem mem_names {m m' : NameMap α} {k : String} :
    k ∈ m.names m' ↔ (m.find? k).isSome ∨ (m'.find? k).isSome := by
  rw [names, mem_keys_ofList, ← mem_keys_iff, ← mem_keys_iff, mem_keys_of_entry, mem_keys_of_entry]
  simp only [List.mem_append, or_and_right, exists_or]

theorem ascending_keys (m : NameMap α) : m.keys.Pairwise (· < ·) := List.pairwise_map.2 m.ascending

end NameMap

section
variable {α : Type} (key : α → String)

/-- What has the least key comes first in a list that is in the order of its keys. -/
theorem filter_append_filter_of_least {l : List α} (hl : l.Pairwise fun a b => key a ≤ key b)
    {name : String} (hleast : ∀ a ∈ l, name ≤ key a) :
    (l.filter fun a => key a = name) ++ (l.filter fun a => key a ≠ name) = l := by
  induction l with
  | nil => rfl
  | cons a rest ih =>
    obtain ⟨hhead, htail⟩ := List.pairwise_cons.1 hl
    by_cases ha : key a = name
    · rw [List.filter_cons_of_pos (by simpa using ha), List.filter_cons_of_neg (by simpa using ha),
        List.cons_append, ih htail fun b hb => hleast b (List.mem_cons_of_mem a hb)]
    · -- nothing behind it has the least key either
      have hrest : ∀ b ∈ rest, key b ≠ name := fun b hb he =>
        ha (String.le_antisymm (he ▸ hhead b hb) (hleast a List.mem_cons_self))
      have hnone : (a :: rest).filter (fun b => key b = name) = [] :=
        List.filter_eq_nil_iff.2 fun b hb => by
          rcases List.mem_cons.1 hb with rfl | hb
          · simpa using ha
          · simpa using hrest b hb
      have hall : (a :: rest).filter (fun b => key b ≠ name) = a :: rest :=
        List.filter_eq_self.2 fun b hb => by
          rcases List.mem_cons.1 hb with rfl | hb
          · simpa using ha
          · simpa using hrest b hb
      rw [hnone, hall, List.nil_append]

/-- A list in the order of its keys is put together from what it has for each key. -/
theorem flatMap_filter_key {l : List α} (hl : l.Pairwise fun a b => key a ≤ key b)
    {names : List String} (hn : names.Pairwise (· < ·)) (hall : ∀ a ∈ l, key a ∈ names) :
    (names.flatMap fun name => l.filter fun a => key a = name) = l := by
  induction names generalizing l with
  | nil =>
    rw [List.eq_nil_iff_forall_not_mem.2 fun a ha => List.not_mem_nil (hall a ha)]
    rfl
  | cons name names ih =>
    obtain ⟨hhead, htail⟩ := List.pairwise_cons.1 hn
    have hleast : ∀ a ∈ l, name ≤ key a := fun a ha => by
      rcases List.mem_cons.1 (hall a ha) with he | hmem
      · exact he ▸ String.le_refl _
      · exact String.not_lt.1 (String.lt_asymm (hhead _ hmem))
    have hothers : ∀ a ∈ l.filter (fun a => key a ≠ name), key a ∈ names := fun a ha => by
      obtain ⟨ha, hne⟩ := List.mem_filter.1 ha
      exact (List.mem_cons.1 (hall a ha)).resolve_left (by simpa using hne)
    have hrest := ih (hl.filter _) htail hothers
    have hsame : (names.flatMap fun n => l.filter fun a => key a = n) =
        names.flatMap fun n => (l.filter fun a => key a ≠ name).filter fun a => key a = n := by
      refine List.flatMap_congr fun n hmem => ?_
      rw [List.filter_filter]
      refine List.filter_congr fun a _ => ?_
      by_cases ha : key a = n
      · have hne : key a ≠ name := fun he =>
          String.lt_irrefl name ((he.symm.trans ha) ▸ hhead n hmem)
        simp [ha, ha ▸ hne]
      · simp [ha]
    rw [List.flatMap_cons, hsame, hrest]
    exact filter_append_filter_of_least key hl hleast

end

namespace Change

/-- Whatever differs between two listings is listed in one of them. -/
theorem listed_of_between {olds news : List (String × TaskStamps)} {c : Change}
    (h : c ∈ between olds news) : (∃ e ∈ olds, e.1 = c.name) ∨ ∃ e ∈ news, e.1 = c.name := by
  have hlater {a : String × TaskStamps} {l : List (String × TaskStamps)}
      (h : ∃ e ∈ l, e.1 = c.name) : ∃ e ∈ a :: l, e.1 = c.name :=
    h.imp fun e ⟨he, hc⟩ => ⟨List.mem_cons_of_mem a he, hc⟩
  induction olds, news using between.induct with
  | case1 => simp [between] at h
  | case2 old olds ih =>
    rw [between, List.mem_cons] at h
    rcases h with rfl | h
    · exact .inl ⟨old, List.mem_cons_self, rfl⟩
    · exact (ih h).imp_left hlater
  | case3 new news ih =>
    rw [between, List.mem_cons] at h
    rcases h with rfl | h
    · exact .inr ⟨new, List.mem_cons_self, rfl⟩
    · exact (ih h).imp_right hlater
  | case4 old olds new news hlt ih =>
    rw [between, if_pos hlt, List.mem_cons] at h
    rcases h with rfl | h
    · exact .inl ⟨old, List.mem_cons_self, rfl⟩
    · exact (ih h).imp_left hlater
  | case5 old olds new news hnlt hlt ih =>
    rw [between, if_neg hnlt, if_pos hlt, List.mem_cons] at h
    rcases h with rfl | h
    · exact .inr ⟨new, List.mem_cons_self, rfl⟩
    · exact (ih h).imp_right hlater
  | case6 old olds new news hnlt hnlt' ih =>
    rw [between, if_neg hnlt, if_neg hnlt', List.mem_append] at h
    rcases h with h | h
    · exact .inl ⟨old, List.mem_cons_self, (name_of_mem_facets h).symm⟩
    · exact (ih h).imp hlater hlater

/-- The walk goes through the names in ascending order. -/
theorem ascending_between {olds news : List (String × TaskStamps)}
    (ho : olds.Pairwise fun a b => a.1 < b.1) (hn : news.Pairwise fun a b => a.1 < b.1) :
    (between olds news).Pairwise fun c d => c.name ≤ d.name := by
  -- what is found in the rest of both listings has a greater name than either head
  have habove {k : String} {olds news : List (String × TaskStamps)} (ho : ∀ e ∈ olds, k ≤ e.1)
      (hn : ∀ e ∈ news, k ≤ e.1) : ∀ d ∈ between olds news, k ≤ d.name := fun d hd => by
    rcases listed_of_between hd with ⟨e, he, hname⟩ | ⟨e, he, hname⟩
    · exact hname ▸ ho e he
    · exact hname ▸ hn e he
  have hrest {e : String × TaskStamps} {l : List (String × TaskStamps)}
      (h : (e :: l).Pairwise fun a b => a.1 < b.1) : ∀ a ∈ l, e.1 ≤ a.1 :=
    fun a ha => String.not_lt.1 (String.lt_asymm ((List.pairwise_cons.1 h).1 a ha))
  have hwhole {k : String} {e : String × TaskStamps} {l : List (String × TaskStamps)}
      (hk : k ≤ e.1) (h : (e :: l).Pairwise fun a b => a.1 < b.1) : ∀ a ∈ e :: l, k ≤ a.1 :=
    fun a ha => by
      rcases List.mem_cons.1 ha with rfl | ha
      · exact hk
      · exact String.le_trans hk (hrest h a ha)
  induction olds, news using between.induct with
  | case1 =>
    rw [between]
    exact .nil
  | case2 old olds ih =>
    rw [between]
    exact .cons (habove (hrest ho) (List.forall_mem_nil _)) (ih ho.tail hn)
  | case3 new news ih =>
    rw [between]
    exact .cons (habove (List.forall_mem_nil _) (hrest hn)) (ih ho hn.tail)
  | case4 old olds new news hlt ih =>
    have hle := String.not_lt.1 (String.lt_asymm hlt)
    rw [between, if_pos hlt]
    exact .cons (habove (hrest ho) (hwhole hle hn)) (ih ho.tail hn)
  | case5 old olds new news hnlt hlt ih =>
    rw [between, if_neg hnlt, if_pos hlt]
    exact .cons (habove (hwhole (String.not_lt.1 hnlt) ho) (hrest hn)) (ih ho hn.tail)
  | case6 old olds new news hnlt hnlt' ih =>
    have hsame : old.1 = new.1 := String.le_antisymm (String.not_lt.1 hnlt') (String.not_lt.1 hnlt)
    rw [between, if_neg hnlt, if_neg hnlt', List.pairwise_append]
    refine ⟨List.pairwise_of_forall_mem_list fun c hc d hd => ?_, ih ho.tail hn.tail, fun c hc d hd => ?_⟩
    · have hname : c.name = d.name := (name_of_mem_facets hc).trans (name_of_mem_facets hd).symm
      exact hname ▸ String.le_refl _
    · rw [name_of_mem_facets hc]
      exact habove (hrest ho) (hsame ▸ hrest hn) d hd

/-- The walk finds, name by name, the differences between the two entries. -/
theorem between_eq_flatMap (old new : NameMap TaskStamps) : between old.entries new.entries =
    (old.names new).flatMap fun name => about name (old.find? name) (new.find? name) := by
  have hlisted : ∀ c ∈ between old.entries new.entries, c.name ∈ old.names new := fun c hc => by
    rw [NameMap.mem_names, ← NameMap.mem_keys_iff, ← NameMap.mem_keys_iff, NameMap.mem_keys_of_entry,
      NameMap.mem_keys_of_entry]
    exact listed_of_between hc
  rw [← flatMap_filter_key name (ascending_between old.ascending new.ascending)
    (NameMap.ascending_keys _) hlisted]
  exact List.flatMap_congr fun other _ => between_about old.ascending new.ascending other

/-- There is something to tell of every difference to the present listing. -/
theorem isSome_told? {st : Store} {inventory : NameMap TaskStamps} {c : Change}
    (h : c ∈ between inventory.entries st.list.entries) : (c.told? st).isSome := by
  have habout := mem_about h
  have hconfig {name : String} {stamps : TaskStamps} (hl : st.list.find? name = some stamps)
      {f : ConnectorConfig → Notification} : ((st.configuration? name).map f).isSome := by
    rw [Option.isSome_map]
    exact (Store.find?_list_eq_some.1 hl).1
  cases c with
  | removed | checkpoint | schedule => rfl
  | added name =>
    cases hl : st.list.find? name with
    | some stamps => exact hconfig hl
    | none =>
      rw [Change.name, hl] at habout
      cases hi : inventory.find? name <;> simp [hi, about] at habout
  | configuration name =>
    cases hl : st.list.find? name with
    | some stamps => exact hconfig hl
    | none =>
      rw [Change.name, hl] at habout
      cases hi : inventory.find? name <;> simp [hi, about] at habout

end Change

/-! ## What is due -/

namespace Notification

/-- What a listener is to be told of a name, by its entries in the last listing and in the present one. -/
def dueOf (st : Store) (name : String) : Option TaskStamps → Option TaskStamps → List Notification
  | none, none => []
  | some _, none => [removed name]
  | none, some _ => ((st.configuration? name).map (added name)).toList
  | some before, some after =>
    (if before.checkpoint = after.checkpoint then []
      else [checkpointChanged name (st.checkpoint? name)]) ++
    (if before.configuration = after.configuration then []
      else ((st.configuration? name).map (configurationChanged name)).toList) ++
    (if before.schedule = after.schedule then [] else [scheduleChanged name (st.schedule? name)])

/-- What a listener is to be told when the last listing was `inventory`, in ascending order of names. -/
def due (inventory : NameMap TaskStamps) (st : Store) : List Notification :=
  (inventory.names st.list).flatMap fun name =>
    dueOf st name (inventory.find? name) (st.list.find? name)

end Notification

namespace ChangeSummary

/-- How many notifications of each kind there are. -/
def ofAll (l : List Notification) : ChangeSummary where
  added := l.countP fun | .added .. => true | _ => false
  removed := l.countP fun | .removed .. => true | _ => false
  changed := l.countP fun
    | .checkpointChanged .. | .configurationChanged .. | .scheduleChanged .. => true
    | _ => false

theorem foldl_count (l : List Notification) (s : ChangeSummary) : l.foldl count s =
    ⟨s.added + (ofAll l).added, s.removed + (ofAll l).removed, s.changed + (ofAll l).changed⟩ := by
  induction l generalizing s with
  | nil => rfl
  | cons n rest ih =>
    rw [List.foldl_cons, ih]
    cases n <;> simp [count, ofAll] <;> omega

end ChangeSummary

namespace Change

variable {st : Store} {inventory : NameMap TaskStamps}

/-- What there is to tell of the differences between two entries is what is due. -/
theorem filterMap_told_about (st : Store) (name : String) (before after : Option TaskStamps) :
    (about name before after).filterMap (told? st) = Notification.dueOf st name before after := by
  cases before with
  | none =>
    cases after with
    | none => rfl
    | some a => cases hc : st.configuration? name <;> simp [about, told?, Notification.dueOf, hc]
  | some b =>
    cases after with
    | none => rfl
    | some a =>
      simp only [about, facets, Notification.dueOf, List.filterMap_append]
      congr 1
      · congr 1
        · split <;> rfl
        · split
          · rfl
          · cases hc : st.configuration? name <;> simp [told?, hc]
      · split <;> rfl

/-- What there is to tell of the differences to the present listing is what is due. -/
theorem filterMap_told_between (inventory : NameMap TaskStamps) (st : Store) :
    (between inventory.entries st.list.entries).filterMap (told? st) =
      Notification.due inventory st := by
  rw [between_eq_flatMap, List.filterMap_flatMap]
  exact List.flatMap_congr fun name _ => filterMap_told_about st name _ _

theorem about_self (name : String) (entry : Option TaskStamps) : about name entry entry = [] := by
  cases entry with
  | none => rfl
  | some stamps => simp [about, facets]

/-- There is no difference between a listing and itself. -/
theorem between_self (listing : NameMap TaskStamps) :
    between listing.entries listing.entries = [] := by
  rw [between_eq_flatMap, List.flatMap_eq_nil_iff]
  exact fun name _ => about_self name _

/-- The call of the store that reads the value of a change. -/
def question? : Change → Option StoreMethod
  | removed _ => none
  | added _ | configuration _ => some .readConfiguration
  | checkpoint _ => some .readCheckpoint
  | schedule _ => some .readSchedule

end Change

/-! ## The log of a detection -/

namespace Detector

/-- Something that a detection does. -/
inductive Deed where
  /-- It calls a method of the store, about a name unless it lists the store. -/
  | asked (m : StoreMethod) (name : Option String) (failure : Option Error)
  | told (n : Notification)
  deriving DecidableEq

namespace Deed

/-- The error of a call that failed. -/
def failure? : Deed → Option Error
  | asked _ _ failure => failure
  | told _ => none

/-- The notification, if the listener was told something. -/
def told? : Deed → Option Notification
  | asked .. => none
  | told n => some n

/-- Reading the value of a change. -/
def asking (c : Change) (failure : Option Error) : List Deed :=
  c.question?.toList.map fun m => asked m (some c.name) failure

/-- Reading a value and telling it. -/
def telling (n : Notification) : List Deed := asking n.change none ++ [told n]

theorem told?_asking (c : Change) (failure : Option Error) : (asking c failure).filterMap told? = [] := by
  cases c <;> rfl

theorem failure?_telling {n : Notification} {d : Deed} (h : d ∈ telling n) : d.failure? = none := by
  rw [telling, List.mem_append] at h
  rcases h with h | h
  · obtain ⟨m, -, rfl⟩ := List.mem_map.1 h
    rfl
  · rw [List.mem_singleton.1 h]
    rfl

end Deed

variable {σ : Type} {hear : Listener σ}

/-- Reads and tells the changes one after the other, and keeps a log. -/
def walk (hear : Listener σ) : List Change → ChangeSummary → σ → Backend →
    List Deed × Except Error ChangeSummary × σ × Backend
  | [], summary, s, b => ([], .ok summary, s, b)
  | c :: rest, summary, s, b =>
    match c.read b with
    | (.error e, b) => (Deed.asking c (some e), .error e, s, b)
    | (.ok none, b) =>
      let (log, r) := walk hear rest summary s b
      (Deed.asking c none ++ log, r)
    | (.ok (some n), b) =>
      let (_, s, b) := hear n s b
      let (log, r) := walk hear rest (summary.count n) s b
      (Deed.asking c none ++ .told n :: log, r)

/-- One run that keeps a log. -/
def survey (hear : Listener σ) (inventory : NameMap TaskStamps) (s : σ) (b : Backend) :
    List Deed × Except Error ChangeSummary × NameMap TaskStamps × σ × Backend :=
  match b.list with
  | (.error e, b) => ([.asked .listTasks none (some e)], .error e, inventory, s, b)
  | (.ok listing, b) =>
    match walk hear (Change.between inventory.entries listing.entries) {} s b with
    | (log, .error e, s, b) => (.asked .listTasks none none :: log, .error e, inventory, s, b)
    | (log, .ok summary, s, b) => (.asked .listTasks none none :: log, .ok summary, listing, s, b)

/-- What a run has to do: the listing, and everything that is due. -/
def agenda (inventory : NameMap TaskStamps) (st : Store) : List Deed :=
  .asked .listTasks none none :: (Notification.due inventory st).flatMap Deed.telling

/-! ### The log is one of what happens -/

theorem walk_snd (hear : Listener σ) (changes : List Change) (summary : ChangeSummary) (s : σ)
    (b : Backend) :
    (walk hear changes summary s b).2 = tell hear changes summary s b := by
  induction changes generalizing summary s b with
  | nil => rfl
  | cons c rest ih =>
    rcases hread : c.read b with ⟨e | n | n, b'⟩ <;> simp only [walk, tell, hread]
    · exact ih summary s b'
    · exact ih (summary.count n) (hear n s b').2.1 (hear n s b').2.2

/-- A run that keeps a log is a run. -/
theorem survey_snd (inventory : NameMap TaskStamps) (s : σ) (b : Backend) :
    (survey hear inventory s b).2 = detect hear inventory s b := by
  unfold survey detect
  rcases b.list with ⟨e | listing, b'⟩
  · rfl
  · have hwalk := walk_snd hear (Change.between inventory.entries listing.entries) {} s b'
    dsimp only
    rw [← hwalk]
    rcases walk hear (Change.between inventory.entries listing.entries) {} s b' with
      ⟨log, e | summary, s', b''⟩ <;> rfl

/-- What is told takes the same course whether the listener takes notes or not, and its notes are what
stands in the log. -/
theorem tell_noting_walk (hear : Listener σ) (changes : List Change) (summary : ChangeSummary)
    (noted : List Notification) (s : σ) (b : Backend) : tell (noting hear) changes summary (noted, s) b =
      let r := walk hear changes summary s b
      (r.2.1, (noted ++ r.1.filterMap Deed.told?, r.2.2.1), r.2.2.2) := by
  induction changes generalizing summary noted s b with
  | nil => simp [tell, walk]
  | cons c rest ih =>
    rcases hread : c.read b with ⟨e | n | n, b'⟩ <;> simp only [walk, tell, hread]
    · rw [Deed.told?_asking, List.append_nil]
    · rw [ih, List.filterMap_append, Deed.told?_asking, List.nil_append]
    · simp only [noting]
      rw [ih, List.filterMap_append, Deed.told?_asking, List.nil_append]
      simp only [List.append_assoc]
      rfl

/-- The listener hears what stands in the log. -/
theorem detect_noting (inventory : NameMap TaskStamps) (s : σ) (b : Backend) :
    (detect (noting hear) inventory ([], s) b).2.2.1.1 =
      (survey hear inventory s b).1.filterMap Deed.told? := by
  unfold survey detect
  rcases b.list with ⟨e | listing, b'⟩
  · rfl
  · have htell := tell_noting_walk hear (Change.between inventory.entries listing.entries) {} [] s b'
    dsimp only at htell ⊢
    rw [htell]
    rcases walk hear (Change.between inventory.entries listing.entries) {} s b' with
      ⟨log, e | summary, s', b''⟩ <;> rfl

/-! ### The log against the agenda -/

/-- A read that fails was a question, and it finds the store as it was. -/
theorem question_of_failed {c : Change} {b b' : Backend} {e : Error}
    (h : c.read b = (.error e, b')) : (∃ m, c.question? = some m) ∧ b'.store = b.store := by
  refine ⟨?_, ?_⟩
  · cases c with
    | removed name => cases h
    | added | checkpoint | configuration | schedule => exact ⟨_, rfl⟩
  · obtain ⟨m, hm | hm⟩ := (c.read_cases b).1 <;> rw [h] at hm
    · exact (congrArg Backend.store hm : b'.store = (b.used m).store)
    · exact (congrArg Backend.store hm : b'.store = b.store)

/-- The log of a walk is all that there was to do, or it ends at a read that failed. -/
theorem walk_cases (hq : Quiet hear) {st : Store} {changes : List Change}
    (hall : ∀ c ∈ changes, (c.told? st).isSome) (summary : ChangeSummary) (s : σ) (b : Backend)
    (hb : b.store = st) :
    let r := walk hear changes summary s b
    let l := changes.filterMap (Change.told? st)
    r.2.2.2.store = st ∧
      (r.1 = l.flatMap Deed.telling ∧ r.2.1 = .ok (l.foldl ChangeSummary.count summary) ∨
        ∃ before m name e rest, l.flatMap Deed.telling = before ++ .asked m name none :: rest ∧
          r.1 = before ++ [.asked m name (some e)] ∧ r.2.1 = .error e) := by
  induction changes generalizing summary s b with
  | nil => exact ⟨hb, .inl ⟨rfl, rfl⟩⟩
  | cons c rest ih =>
    obtain ⟨n, hn⟩ := Option.isSome_iff_exists.1 (hall c List.mem_cons_self)
    have hsteps : Deed.telling n = Deed.asking c none ++ [.told n] := by
      rw [Deed.telling, Notification.change_of_told hn]
    rw [List.filterMap_cons_some hn]
    dsimp only
    rw [List.flatMap_cons, List.foldl_cons, hsteps]
    rcases hread : c.read b with ⟨e | n', b'⟩
    · -- the read that fails is the last deed
      obtain ⟨⟨m, hm⟩, hstore⟩ := question_of_failed hread
      simp only [walk, hread]
      refine ⟨hstore.trans hb, .inr ⟨[], m, some c.name, e, ?_⟩⟩
      rw [Deed.asking, Deed.asking, hm]
      exact ⟨_, rfl, rfl, rfl⟩
    · obtain ⟨rfl, hstore⟩ := Change.read_eq_ok hread
      rw [hb, hn] at hread
      simp only [walk, hread]
      have hheard : (hear n s b').2.2.store = st := (hq n s b').trans (hstore.trans hb)
      obtain ⟨hsame, hlog⟩ := ih (fun d hd => hall d (List.mem_cons_of_mem c hd)) (summary.count n)
        (hear n s b').2.1 (hear n s b').2.2 hheard
      refine ⟨hsame, hlog.imp (fun ⟨hlog, hr⟩ => ⟨?_, hr⟩)
        fun ⟨before, m, name, e, left, hl, hlog, hr⟩ =>
          ⟨Deed.asking c none ++ .told n :: before, m, name, e, left, ?_, ?_, hr⟩⟩
      · rw [hlog, List.append_assoc]
        rfl
      · rw [hl]
        simp only [List.append_assoc, List.cons_append, List.nil_append]
      · rw [hlog]
        simp only [List.append_assoc, List.cons_append]

theorem failure?_agenda {inventory : NameMap TaskStamps} {st : Store} {d : Deed}
    (h : d ∈ agenda inventory st) : d.failure? = none := by
  rcases List.mem_cons.1 h with rfl | h
  · rfl
  · obtain ⟨n, -, hd⟩ := List.mem_flatMap.1 h
    exact Deed.failure?_telling hd

/-- The log of a run is the whole agenda, or it ends at a call that failed. -/
theorem survey_cases (hq : Quiet hear) (inventory : NameMap TaskStamps) (s : σ) (b : Backend) :
    let run := survey hear inventory s b
    run.2.2.2.2.store = b.store ∧
      (run.1 = agenda inventory b.store ∧
          run.2.1 = .ok (.ofAll (Notification.due inventory b.store)) ∧ run.2.2.1 = b.store.list ∨
        ∃ before m name e rest, agenda inventory b.store = before ++ .asked m name none :: rest ∧
          run.1 = before ++ [.asked m name (some e)] ∧ run.2.1 = .error e ∧ run.2.2.1 = inventory) := by
  unfold survey agenda
  rcases hl : b.list with ⟨e | listing, b'⟩
  · obtain rfl := Backend.call_eq_error hl
    exact ⟨rfl, .inr ⟨[], .listTasks, none, e, _, rfl, rfl, rfl, rfl⟩⟩
  · obtain ⟨rfl, rfl⟩ := Backend.call_eq_ok hl
    have hall : ∀ c ∈ Change.between inventory.entries b.store.list.entries,
        (c.told? b.store).isSome := fun c hc => Change.isSome_told? hc
    have hwalk := walk_cases hq hall {} s { b.used .listTasks with store := id b.store } rfl
    dsimp only at hwalk ⊢
    rw [Change.filterMap_told_between, ChangeSummary.foldl_count] at hwalk
    generalize walk hear (Change.between inventory.entries b.store.list.entries) {} s
      { b.used .listTasks with store := id b.store } = r at hwalk ⊢
    obtain ⟨log, result, s', b''⟩ := r
    obtain ⟨hsame, ⟨rfl, rfl⟩ | ⟨before, m, name, e, rest, hdue, rfl, rfl⟩⟩ := hwalk
    · refine ⟨hsame, .inl ⟨rfl, ?_, rfl⟩⟩
      simp
    · refine ⟨hsame, .inr ⟨.asked .listTasks none none :: before, m, name, e, rest, ?_, rfl, rfl, rfl⟩⟩
      rw [hdue]
      rfl

theorem told?_agenda (inventory : NameMap TaskStamps) (st : Store) :
    (agenda inventory st).filterMap Deed.told? = Notification.due inventory st := by
  have htelling (n : Notification) : (Deed.telling n).filterMap Deed.told? = [n] := by
    rw [Deed.telling, List.filterMap_append, Deed.told?_asking]
    rfl
  rw [agenda, List.filterMap_cons_none rfl, List.filterMap_flatMap]
  simp only [htelling, List.flatMap_singleton']

/-- A run after one that succeeded tells nothing as long as the store is the same. -/
theorem told?_survey_again (s : σ) {b : Backend} {listing : NameMap TaskStamps}
    (h : listing = b.store.list) : (survey hear listing s b).1.filterMap Deed.told? = [] := by
  unfold survey
  rcases hl : b.list with ⟨e | now, b'⟩
  · rfl
  · obtain ⟨rfl, -⟩ := Backend.call_eq_ok hl
    subst h
    dsimp only
    rw [Change.between_self]
    rfl

/-- A detection by a listener that leaves the store as it is. If no call of the store fails, it does
exactly what is on its agenda, counts what it told, takes the listing over, and has nothing to tell the
next time. If a call fails, it has done exactly what comes before that call on its agenda, ends with that
error and keeps its inventory. -/
theorem detect_exact (hq : Quiet hear) (inventory : NameMap TaskStamps) (s : σ) (b : Backend) :
    let run := survey hear inventory s b
    let due := Notification.due inventory b.store
    run.2 = detect hear inventory s b ∧
    (detect (noting hear) inventory ([], s) b).2.2.1.1 = run.1.filterMap Deed.told? ∧
    (∀ name, (b.store.list.find? name).isSome → (b.store.configuration? name).isSome) ∧
    ((∀ d ∈ run.1, d.failure? = none) →
      run.1 = agenda inventory b.store ∧ run.1.filterMap Deed.told? = due ∧
      run.2.1 = .ok (.ofAll due) ∧ run.2.2.1 = b.store.list ∧
      ∀ t b', b'.store = run.2.2.2.2.store →
        (survey hear run.2.2.1 t b').1.filterMap Deed.told? = []) ∧
    ∀ m name e, .asked m name (some e) ∈ run.1 → ∃ before rest,
      agenda inventory b.store = before ++ .asked m name none :: rest ∧
      run.1 = before ++ [.asked m name (some e)] ∧ run.2.1 = .error e ∧ run.2.2.1 = inventory := by
  refine ⟨survey_snd inventory s b, detect_noting inventory s b, fun name hl => ?_, ?_⟩
  · obtain ⟨stamps, hl⟩ := Option.isSome_iff_exists.1 hl
    exact (Store.find?_list_eq_some.1 hl).1
  obtain ⟨hstore, ⟨hlog, hr, hinv⟩ | ⟨before, m, name, e, rest, hagenda, hlog, hr, hinv⟩⟩ :=
    survey_cases hq inventory s b
  · refine ⟨fun _ => ⟨hlog, ?_, hr, hinv, fun t b' hb' => ?_⟩, fun m name e hmem => ?_⟩
    · rw [hlog, told?_agenda]
    · rw [hstore] at hb'
      exact told?_survey_again t (hinv.trans (congrArg Store.list hb'.symm))
    · rw [hlog] at hmem
      cases failure?_agenda hmem
  · refine ⟨fun hnone => ?_, fun m' name' e' hmem => ?_⟩
    · have hfailed := hnone (.asked m name (some e)) (hlog ▸ List.mem_concat_self)
      cases hfailed
    · -- nothing else on the agenda has failed
      rw [hlog, List.mem_append, List.mem_singleton] at hmem
      rcases hmem with hmem | hsame
      · cases failure?_agenda (hagenda ▸ List.mem_append_left _ hmem)
      · cases hsame
        exact ⟨before, rest, hagenda, hlog, hr, hinv⟩

/-- A listener that always fails. -/
def refusing : Listener Unit := fun n s b => (.error (.connectorNotFound n.name), s, b)

/-- A connector with a checkpoint, and another one. -/
def seen : Store :=
  ((Store.storeConfiguration {} "b" { kind := "fs" }).storeCheckpoint "b" (some "1")).storeConfiguration
    "c" { kind := "fs" }

/-- The last listing was from before the checkpoint, and had a connector that is gone. -/
def earlier : NameMap TaskStamps :=
  .ofList [("a", { configuration := some 0 }), ("b", { configuration := some 1 })]

/-- All there is to tell is told, although the listener refuses everything. If the configuration of the
new connector cannot be read, the others have been told by then. -/
theorem detect_exact_refusing : Quiet refusing ∧
    (survey refusing earlier () { store := seen }).1.filterMap Deed.told? =
      [.removed "a", .checkpointChanged "b" (some "1"), .added "c" { kind := "fs" }] ∧
    (survey refusing earlier ()
      (Backend.withFaults { store := seen } .readConfiguration [true])).2.1 =
        .error (StoreMethod.unavailable .readConfiguration) := by
  have hq : Quiet refusing := fun _ _ _ => rfl
  obtain ⟨-, -, -, hnone, -⟩ := detect_exact hq earlier () { store := seen }
  obtain ⟨-, -, -, -, hfailed⟩ := detect_exact hq earlier ()
    (Backend.withFaults { store := seen } .readConfiguration [true])
  refine ⟨hq, ?_, ?_⟩
  · rw [(hnone (by decide +kernel)).2.1]
    decide +kernel
  · obtain ⟨before, rest, -, -, hr, -⟩ :=
      hfailed .readConfiguration (some "c") (StoreMethod.unavailable .readConfiguration)
        (by decide +kernel)
    exact hr

end Detector

end BatchTraversal
