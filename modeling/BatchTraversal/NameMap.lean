/-!
# Maps keyed by names

A connector is known by its name, and whatever is kept per connector (a live coordinator, a throttle
entry, a stored task, a stamp) is listed in ascending order of names. `NameMap` is a finite map
whose entries are sorted by key, so that two maps with the same look-ups are equal
(`NameMap.ext_find?`) and a listing has one possible order.
-/

namespace BatchTraversal

/-- A finite map from names to values. The entries are strictly ascending in their keys. -/
structure NameMap (α : Type) where
  entries : List (String × α)
  ascending : entries.Pairwise (fun a b => a.1 < b.1) := by simp
  deriving DecidableEq

namespace NameMap

variable {α β : Type}

/-- The value of the first entry with key `k`. -/
def findIn (k : String) : List (String × α) → Option α
  | [] => none
  | (k', v) :: rest => if k = k' then some v else findIn k rest

/-- Puts `k ↦ v` in its place of an ascending list, over an entry with the same key. -/
def insertInto (k : String) (v : α) : List (String × α) → List (String × α)
  | [] => [(k, v)]
  | (k', v') :: rest =>
    if k < k' then (k, v) :: (k', v') :: rest
    else if k = k' then (k, v) :: rest
    else (k', v') :: insertInto k v rest

theorem mem_insertInto {k : String} {v : α} {a : String × α} {l : List (String × α)}
    (h : a ∈ insertInto k v l) : a = (k, v) ∨ a ∈ l := by
  induction l with
  | nil => simpa [insertInto] using h
  | cons e rest ih =>
    obtain ⟨k', v'⟩ := e
    simp only [insertInto] at h
    split at h
    · simpa using h
    · split at h
      · rcases List.mem_cons.1 h with h | h
        · exact .inl h
        · exact .inr (List.mem_cons_of_mem _ h)
      · rcases List.mem_cons.1 h with h | h
        · exact .inr (h ▸ List.mem_cons_self)
        · exact (ih h).imp_right (List.mem_cons_of_mem _)

theorem pairwise_insertInto (k : String) (v : α) {l : List (String × α)}
    (h : l.Pairwise (fun a b => a.1 < b.1)) :
    (insertInto k v l).Pairwise (fun a b => a.1 < b.1) := by
  induction l with
  | nil => simp [insertInto]
  | cons e rest ih =>
    obtain ⟨k', v'⟩ := e
    have ⟨hhead, htail⟩ := List.pairwise_cons.1 h
    simp only [insertInto]
    split
    · next hlt =>
      refine List.pairwise_cons.2 ⟨fun a ha => ?_, h⟩
      rcases List.mem_cons.1 ha with rfl | ha
      · exact hlt
      · exact String.lt_trans hlt (hhead a ha)
    · split
      · next heq => subst heq; exact List.pairwise_cons.2 ⟨hhead, htail⟩
      · next hlt hne =>
        refine List.pairwise_cons.2 ⟨fun a ha => ?_, ih htail⟩
        rcases mem_insertInto ha with rfl | ha
        · rcases Classical.em (k' < k) with hk | hk
          · exact hk
          · exact absurd (String.le_antisymm (String.not_lt.1 hk) (String.not_lt.1 hlt)) hne
        · exact hhead a ha

/-- The map with no entry. -/
def empty : NameMap α := ⟨[], .nil⟩

instance : EmptyCollection (NameMap α) := ⟨empty⟩
instance : Inhabited (NameMap α) := ⟨empty⟩

/-- The value at `k`. -/
def find? (m : NameMap α) (k : String) : Option α := findIn k m.entries

/-- Whether `k` has a value. -/
def contains (m : NameMap α) (k : String) : Bool := (m.find? k).isSome

/-- `m` with `v` at `k`. -/
def insert (m : NameMap α) (k : String) (v : α) : NameMap α :=
  ⟨insertInto k v m.entries, pairwise_insertInto k v m.ascending⟩

/-- `m` without a value at `k`. -/
def erase (m : NameMap α) (k : String) : NameMap α :=
  ⟨m.entries.filter (·.1 ≠ k), m.ascending.filter _⟩

/-- The keys, in ascending order. -/
def keys (m : NameMap α) : List String := m.entries.map (·.1)

/-- The values, in ascending order of their keys. -/
def values (m : NameMap α) : List α := m.entries.map (·.2)

/-- The number of entries. -/
def size (m : NameMap α) : Nat := m.entries.length

/-- The entries of a list, later ones over earlier ones with the same key. -/
def ofList (l : List (String × α)) : NameMap α := l.foldl (fun m e => m.insert e.1 e.2) empty

/-- `m` with the value at `k`, if it has one, replaced by its image. -/
def modify (m : NameMap α) (k : String) (f : α → α) : NameMap α :=
  match m.find? k with
  | none => m
  | some v => m.insert k (f v)

/-- `m` with every value, together with its key, replaced by its image, and without the entries that
have none. -/
def filterMap (f : String → α → Option β) (m : NameMap α) : NameMap β :=
  ⟨m.entries.filterMap (fun e => (f e.1 e.2).map (e.1, ·)), by
    refine List.pairwise_filterMap.2 (m.ascending.imp fun {a b} hab => ?_)
    intro c hc d hd
    simp only [Option.map_eq_some_iff] at hc hd
    obtain ⟨_, _, rfl⟩ := hc
    obtain ⟨_, _, rfl⟩ := hd
    exact hab⟩

/-! ## Look-up laws -/

theorem findIn_insertInto (k k' : String) (v : α) (l : List (String × α)) :
    findIn k' (insertInto k v l) = if k' = k then some v else findIn k' l := by
  induction l with
  | nil => simp [insertInto, findIn]
  | cons e rest ih =>
    obtain ⟨k₀, v₀⟩ := e
    simp only [insertInto]
    split
    · simp [findIn]
    · split
      · next heq => subst heq; simp only [findIn]; split <;> rfl
      · next hne =>
        simp only [findIn, ih]
        split
        · next h0 => subst h0; simp [Ne.symm hne]
        · rfl

theorem find?_insert (m : NameMap α) (k k' : String) (v : α) :
    (m.insert k v).find? k' = if k' = k then some v else m.find? k' :=
  findIn_insertInto k k' v m.entries

@[simp] theorem find?_insert_self (m : NameMap α) (k : String) (v : α) :
    (m.insert k v).find? k = some v := by simp [find?_insert]

theorem find?_insert_of_ne (m : NameMap α) {k k' : String} (v : α) (h : k' ≠ k) :
    (m.insert k v).find? k' = m.find? k' := by simp [find?_insert, h]

theorem find?_erase (m : NameMap α) (k k' : String) :
    (m.erase k).find? k' = if k' = k then none else m.find? k' := by
  unfold find? erase
  dsimp only
  induction m.entries with
  | nil => simp [findIn]
  | cons e rest ih =>
    obtain ⟨k₀, v₀⟩ := e
    by_cases h : k₀ = k
    · subst h
      simp only [ne_eq, not_true_eq_false, decide_false, Bool.false_eq_true, not_false_eq_true,
        List.filter_cons_of_neg, ih, findIn]
      split <;> rfl
    · rw [List.filter_cons_of_pos (by simpa using h)]
      simp only [findIn, ih]
      by_cases h' : k' = k₀
      · subst h'; simp [h]
      · simp [h']

@[simp] theorem find?_erase_self (m : NameMap α) (k : String) : (m.erase k).find? k = none := by
  simp [find?_erase]

theorem findIn_eq_some_iff {l : List (String × α)} (h : l.Pairwise (fun a b => a.1 < b.1))
    {k : String} {v : α} : findIn k l = some v ↔ (k, v) ∈ l := by
  induction l with
  | nil => simp [findIn]
  | cons e rest ih =>
    obtain ⟨k₀, v₀⟩ := e
    have ⟨hhead, htail⟩ := List.pairwise_cons.1 h
    simp only [findIn]
    split
    · next heq =>
      subst heq
      simp only [Option.some.injEq, List.mem_cons, Prod.mk.injEq, true_and]
      exact ⟨fun h => .inl h.symm, fun h => h.elim Eq.symm fun h =>
        absurd (hhead _ h) (String.lt_irrefl _)⟩
    · next hne => simp [ih htail, hne]

/-- A look-up answers the entry of its key. -/
theorem find?_eq_some_iff {m : NameMap α} {k : String} {v : α} :
    m.find? k = some v ↔ (k, v) ∈ m.entries := findIn_eq_some_iff m.ascending

theorem mem_keys_iff {m : NameMap α} {k : String} : k ∈ m.keys ↔ (m.find? k).isSome := by
  simp only [keys, List.mem_map, Option.isSome_iff_exists, find?_eq_some_iff]
  exact ⟨fun ⟨e, he, hk⟩ => ⟨e.2, hk ▸ he⟩, fun ⟨v, hv⟩ => ⟨(k, v), hv, rfl⟩⟩

theorem entries_eq_of_mem_iff : ∀ {l l' : List (String × α)},
    l.Pairwise (fun a b => a.1 < b.1) → l'.Pairwise (fun a b => a.1 < b.1) →
    (∀ e, e ∈ l ↔ e ∈ l') → l = l'
  | [], [], _, _, _ => rfl
  | [], e :: _, _, _, h => absurd ((h e).2 List.mem_cons_self) List.not_mem_nil
  | e :: _, [], _, _, h => absurd ((h e).1 List.mem_cons_self) List.not_mem_nil
  | e :: l, e' :: l', hl, hl', h => by
    have ⟨hh, ht⟩ := List.pairwise_cons.1 hl
    have ⟨hh', ht'⟩ := List.pairwise_cons.1 hl'
    have hee : e = e' := by
      rcases List.mem_cons.1 ((h e).1 List.mem_cons_self) with he | he
      · exact he
      · rcases List.mem_cons.1 ((h e').2 List.mem_cons_self) with he' | he'
        · exact he'.symm
        · exact absurd (String.lt_trans (hh' _ he) (hh _ he')) (String.lt_irrefl _)
    subst hee
    refine congrArg _ (entries_eq_of_mem_iff ht ht' fun x => ⟨fun hx => ?_, fun hx => ?_⟩)
    · rcases List.mem_cons.1 ((h x).1 (List.mem_cons_of_mem _ hx)) with rfl | hx'
      · exact absurd (hh _ hx) (String.lt_irrefl _)
      · exact hx'
    · rcases List.mem_cons.1 ((h x).2 (List.mem_cons_of_mem _ hx)) with rfl | hx'
      · exact absurd (hh' _ hx) (String.lt_irrefl _)
      · exact hx'

/-- Two maps with the same look-ups are the same map. -/
theorem ext_find? {m m' : NameMap α} (h : ∀ k, m.find? k = m'.find? k) : m = m' := by
  obtain ⟨l, hl⟩ := m
  obtain ⟨l', hl'⟩ := m'
  have : l = l' := entries_eq_of_mem_iff hl hl' fun ⟨k, v⟩ => by
    rw [← findIn_eq_some_iff hl, ← findIn_eq_some_iff hl']
    exact iff_of_eq (congrArg (· = some v) (h k))
  subst this
  rfl

end NameMap

end BatchTraversal
