import BatchTraversal.Proofs.Detection.Terms
import BatchTraversal.Proofs.Process.Turns
import BatchTraversal.Proofs.Store.Histories

/-!
# Stores that evolve

A stored configuration or schedule is at any later moment the one that was stored before, or it has a stamp
that is later than all stamps that were given out before: the store evolves (`Store.Evolves`). A call that
fails leaves the store as it is, so whatever a process does lets the store evolve, whatever calls fail
(`Site.act_becomes`).
-/

namespace BatchTraversal

/-- Whether a stored value was stored before, or is later than a stamp. -/
def Stamped.Follows {α : Type} (last : Nat) (old new : Option (Stamped α)) : Prop :=
  ∀ x, new = some x → old = some x ∨ last < x.stamp

namespace Store

/-- Whether no configuration and no schedule has a stamp that is later than the last one. -/
structure Dated (st : Store) : Prop where
  configuration : ∀ name x, (st.task name).configuration = some x → x.stamp ≤ st.lastStamp
  schedule : ∀ name x, (st.task name).schedule = some x → x.stamp ≤ st.lastStamp

/-- In an empty store there is no stamp to be late. -/
theorem dated_empty : Dated {} := ⟨fun _ _ h => (nomatch h), fun _ _ h => (nomatch h)⟩

/-- Whether a store has come out of another one by writes and removals. -/
structure Evolves (st st' : Store) : Prop where
  dated : st.Dated → st'.Dated
  lastStamp : st.lastStamp ≤ st'.lastStamp
  configuration : ∀ name, Stamped.Follows st.lastStamp (st.task name).configuration
    (st'.task name).configuration
  schedule : ∀ name, Stamped.Follows st.lastStamp (st.task name).schedule (st'.task name).schedule

variable {st st' st'' : Store}

/-- What is stored is what is read. -/
theorem configuration?_of_stored {name : String} {x : Stamped ConnectorConfig}
    (hx : (st.task name).configuration = some x) : st.configuration? name = some x.value := by
  rw [configuration?, hx]
  rfl

/-- The schedule that is stored is what is read. -/
theorem schedule?_of_stored {name : String} {y : Stamped Schedule}
    (hy : (st.task name).schedule = some y) : st.schedule? name = some y.value := by
  rw [schedule?, hy]
  rfl

/-- A store that is left alone evolves. -/
theorem Evolves.refl (st : Store) : st.Evolves st :=
  ⟨id, Nat.le_refl _, fun _ _ h => .inl h, fun _ _ h => .inl h⟩

/-- What is later than a later last stamp is later than an earlier one, so stores evolve step by step. -/
theorem Evolves.trans (h : st.Evolves st') (h' : st'.Evolves st'') : st.Evolves st'' := by
  refine ⟨fun hd => h'.dated (h.dated hd), Nat.le_trans h.lastStamp h'.lastStamp, ?_, ?_⟩
  · intro name x hx
    rcases h'.configuration name x hx with hold | hlater
    · exact h.configuration name x hold
    · exact .inr (Nat.lt_of_le_of_lt h.lastStamp hlater)
  · intro name x hx
    rcases h'.schedule name x hx with hold | hlater
    · exact h.schedule name x hold
    · exact .inr (Nat.lt_of_le_of_lt h.lastStamp hlater)

/-- A schedule under a stamp that was given out before was stored before. -/
theorem Evolves.schedule_of_le (he : st.Evolves st') {name : String} {y : Stamped Schedule}
    (hy : (st'.task name).schedule = some y) (hle : y.stamp ≤ st.lastStamp) :
    (st.task name).schedule = some y :=
  (he.schedule name y hy).resolve_right (Nat.not_lt_of_le hle)

/-- A write that leaves a facet or stores it under the stamp of the write lets the store evolve. -/
theorem evolves_write {f : Nat → StoredTask → StoredTask} (name : String)
    (hc : ∀ stamp t x, (f stamp t).configuration = some x →
      t.configuration = some x ∨ x.stamp = stamp)
    (hs : ∀ stamp t x, (f stamp t).schedule = some x → t.schedule = some x ∨ x.stamp = stamp) :
    st.Evolves (st.write name f) := by
  have hlast : (st.write name f).lastStamp = st.lastStamp + 1 := rfl
  have hcon (other : String) (x : Stamped ConnectorConfig)
      (hx : ((st.write name f).task other).configuration = some x) :
      (st.task other).configuration = some x ∨ x.stamp = st.lastStamp + 1 := by
    rw [task_write] at hx
    split at hx
    · next he =>
      rw [he]
      exact hc _ _ x hx
    · exact .inl hx
  have hsch (other : String) (x : Stamped Schedule)
      (hx : ((st.write name f).task other).schedule = some x) :
      (st.task other).schedule = some x ∨ x.stamp = st.lastStamp + 1 := by
    rw [task_write] at hx
    split at hx
    · next he =>
      rw [he]
      exact hs _ _ x hx
    · exact .inl hx
  refine ⟨fun hd => ⟨?_, ?_⟩, by omega, ?_, ?_⟩
  · intro other x hx
    rcases hcon other x hx with hold | hnew
    · have hle := hd.configuration other x hold
      omega
    · omega
  · intro other x hx
    rcases hsch other x hx with hold | hnew
    · have hle := hd.schedule other x hold
      omega
    · omega
  · intro other x hx
    rcases hcon other x hx with hold | hnew
    · exact .inl hold
    · exact .inr (by omega)
  · intro other x hx
    rcases hsch other x hx with hold | hnew
    · exact .inl hold
    · exact .inr (by omega)

/-- A configuration is stored under the stamp of its write, and the schedule beside it stays. -/
theorem evolves_storeConfiguration (name : String) (config : ConnectorConfig) :
    st.Evolves (st.storeConfiguration name config) := by
  refine evolves_write name (fun stamp t x hx => ?_) fun stamp t x hx => .inl hx
  cases hx
  exact .inr rfl

/-- A schedule is stored under the stamp of its write, and the configuration beside it stays. -/
theorem evolves_storeSchedule (name : String) (schedule : Schedule) :
    st.Evolves (st.storeSchedule name schedule) := by
  refine evolves_write name (fun stamp t x hx => .inl hx) fun stamp t x hx => ?_
  cases hx
  exact .inr rfl

/-- A checkpoint is stored beside the configuration and the schedule. -/
theorem evolves_storeCheckpoint (name : String) (checkpoint : Option String) :
    st.Evolves (st.storeCheckpoint name checkpoint) :=
  evolves_write name (fun _ _ _ hx => .inl hx) fun _ _ _ hx => .inl hx

/-- A removal gives out no stamp, and nothing is stored after it that was not stored before. -/
theorem evolves_removeTask (name : String) : st.Evolves (st.removeTask name) := by
  have hcon (other : String) (x : Stamped ConnectorConfig)
      (hx : ((st.removeTask name).task other).configuration = some x) :
      (st.task other).configuration = some x := by
    rw [task_removeTask] at hx
    split at hx
    · cases hx
    · exact hx
  have hsch (other : String) (x : Stamped Schedule)
      (hx : ((st.removeTask name).task other).schedule = some x) :
      (st.task other).schedule = some x := by
    rw [task_removeTask] at hx
    split at hx
    · cases hx
    · exact hx
  exact ⟨fun hd => ⟨fun other x hx => hd.configuration other x (hcon other x hx),
    fun other x hx => hd.schedule other x (hsch other x hx)⟩, Nat.le_refl _,
    fun other x hx => .inl (hcon other x hx), fun other x hx => .inl (hsch other x hx)⟩

/-- Every edit of a store lets it evolve. -/
theorem Edit.evolves (e : Edit) (st : Store) : st.Evolves (e.apply st) := by
  cases e with
  | configuration name value => exact evolves_storeConfiguration name value
  | schedule name value => exact evolves_storeSchedule name value
  | checkpoint name value => exact evolves_storeCheckpoint name value
  | removal name => exact evolves_removeTask name

end Store

/-! ## Backends -/

namespace Backend

variable {b b' b'' : Backend}

/-- Whether a backend has become another one by calls, of which some may have failed: its store has
evolved, and it does not fail if it did not before. -/
structure Becomes (b b' : Backend) : Prop where
  store : b.store.Evolves b'.store
  reliable : b.Reliable → b'.Reliable

/-- A backend that is not called stays what it is. -/
theorem Becomes.refl (b : Backend) : b.Becomes b := ⟨.refl b.store, id⟩

/-- Calls one after the other are calls. -/
theorem Becomes.trans (h : b.Becomes b') (h' : b'.Becomes b'') : b.Becomes b'' :=
  ⟨h.store.trans h'.store, h'.reliable ∘ h.reliable⟩

/-- What uses up the fate of a call leaves the store. -/
theorem becomes_used (b : Backend) (m : StoreMethod) : b.Becomes (b.used m) :=
  ⟨.refl b.store, fun hb => hb.used m⟩

/-- A call whose write lets the store evolve does so whether it works or fails. -/
theorem becomes_call {α : Type} (b : Backend) (m : StoreMethod) (g : Store → α)
    (f : Store → Store) (hf : b.store.Evolves (f b.store)) : b.Becomes (b.call m g f).2 := by
  cases hfails : b.fails m with
  | true =>
    rw [call_of_fails hfails]
    exact b.becomes_used m
  | false =>
    rw [call_of_works hfails]
    exact ⟨hf, fun hb => hb.used m⟩

end Backend

/-- A cell reads its checkpoint by one call, which writes nothing. -/
theorem CheckpointCell.becomes_read (cell : CheckpointCell) (b : Backend) :
    b.Becomes (cell.read b).2.2 := by
  have h := b.becomes_call .readCheckpoint (·.checkpoint? cell.connector) id (.refl b.store)
  unfold read Backend.readCheckpoint
  split <;> next he => rw [he] at h; exact h

/-- A cell writes its checkpoint by one call. -/
theorem CheckpointCell.becomes_write (cell : CheckpointCell) (checkpoint : Option String)
    (b : Backend) : b.Becomes (cell.write checkpoint b).2.2 := by
  have h := b.becomes_call .storeCheckpoint (fun _ => ()) (·.storeCheckpoint cell.connector checkpoint)
    (Store.evolves_storeCheckpoint cell.connector checkpoint)
  unfold write Backend.storeCheckpoint
  split <;> next he => rw [he] at h; exact h

/-- A step of a run calls the store to read its checkpoint or to save the next one, or not at all. -/
theorem RunStage.becomes_advance (token : TokenId) (tripped : Bool) (w : Workbench)
    (stage : RunStage) : w.backend.Becomes (stage.advance token tripped w).2.1.backend := by
  have hread := w.cell.becomes_read w.backend
  have hwrite (next : String) := w.cell.becomes_write (some next) w.backend
  have h := stage.advances token tripped w
  generalize stage.advance token tripped w = a at h ⊢
  cases h with
  | misread he | read he =>
    rw [he] at hread
    exact hread
  | @missave _ next _ _ _ he | @save _ next _ _ he =>
    have hsaved := hwrite next
    rw [he] at hsaved
    exact hsaved
  | _ => exact .refl _

/-! ## Processes -/

namespace Site

variable {s s' : Site} {t : TaskId}

/-- Upkeep leaves the store alone, and an edit calls it once. -/
theorem Chore.becomes (h : Chore s s') : s.backend.Becomes s'.backend := by
  cases h with
  | upkeep h =>
    rw [h.backend]
    exact .refl s.backend
  | edit h =>
    cases h with
    | amend | enlist | detach => exact .refl s.backend
    | look m => exact s.backend.becomes_used m
    | storeConfiguration name config =>
      exact s.backend.becomes_call _ _ _ (Store.evolves_storeConfiguration name config)
    | storeSchedule name schedule =>
      exact s.backend.becomes_call _ _ _ (Store.evolves_storeSchedule name schedule)
    | removeTask name => exact s.backend.becomes_call _ _ _ (Store.evolves_removeTask name)
    | clearCheckpoint hk => exact CheckpointCell.becomes_write _ none s.backend

/-- A turn of a batch calls the store for its checkpoint, or to store the schedule it has disabled. -/
theorem Turn.becomes (h : Turn t s s') : s.backend.Becomes s'.backend := by
  cases h with
  | take | answer | crash | retire | choke | count => exact .refl s.backend
  | @move b k r =>
    exact RunStage.becomes_advance t (s.scheduler.pool.isTripped t)
      { traverser := r, cell := k.cell, backend := s.backend } b.stage
  | @settle b k code =>
    rcases settleBatch_cases (s.counted t k (BatchResult.ofCode code).count) t b k (.ofCode code) with
      ⟨-, he⟩ | ⟨-, disabled, -, he⟩ <;> rw [he]
    · exact .refl s.backend
    · cases disabled with
      | none => exact .refl s.backend
      | some d => exact s.backend.becomes_call _ _ _ (Store.evolves_storeSchedule k.name d)

/-- What a process does from one moment to a later one, it does to its store by calls. -/
theorem Moves.becomes (h : Moves s s') : s.backend.Becomes s'.backend := by
  induction h with
  | refl => exact .refl s.backend
  | tail _ h ih =>
    cases h with
    | chore h => exact ih.trans h.becomes
    | turn t h => exact ih.trans h.becomes

/-- A store that works goes on working. -/
theorem Moves.reliable (h : Moves s s') (hb : s.backend.Reliable) : s'.backend.Reliable :=
  (Moves.becomes h).reliable hb

/-- Whatever a process does, it does by calls. -/
theorem act_becomes (hr : s.scheduler.Registered) (a : Action) :
    s.backend.Becomes (s.act a).backend := by
  obtain ⟨s', inventory, h, e⟩ := act_moves hr a
  have hbecomes := Moves.becomes h
  rw [e]
  exact hbecomes

/-- No action makes a store fail. -/
theorem reliable_act (hr : s.scheduler.Registered) (hb : s.backend.Reliable) (a : Action) :
    (s.act a).backend.Reliable := (act_becomes hr a).reliable hb

end Site

end BatchTraversal
