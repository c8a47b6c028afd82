import Mathlib.Data.List.Dedup
import Mathlib.Data.Sum.Basic
import RoomHistory.Proofs.Timeline.Copies
import RoomHistory.Proofs.Timeline.Keeping

/-!
# What an insertion counts

The number of events that an insertion adds is told by how much longer the merge is than what was
held.  Among the events held and merged every identity stands once, and a merge loses none, so that
number is the number of new identities: the ids in the batch that were not held, each once, and the
events without an id that were not held, each once.  The rest of the batch are duplicates.
-/

namespace RoomHistory

namespace Event

theorem inl_mem_identities_iff
    {events : List Event}
    {id : EventId} :
    Sum.inl id ∈ events.map identity ↔ id ≠ "" ∧ ∃ event ∈ events, event.id = id := by
  rw [List.mem_map]
  constructor
  · rintro ⟨event, present, same⟩
    unfold identity at same
    split at same
    next named =>
      obtain rfl := Sum.inl.inj same
      exact ⟨bne_iff_ne.mp named, event, present, rfl⟩
    next => cases same
  · rintro ⟨named, event, present, rfl⟩
    exact ⟨event, present, if_pos (bne_iff_ne.mpr named)⟩

theorem inr_mem_identities_iff
    {events : List Event}
    {event : Event} :
    Sum.inr event ∈ events.map identity ↔ event.hasId = false ∧ event ∈ events := by
  rw [List.mem_map]
  constructor
  · rintro ⟨other, present, same⟩
    unfold identity at same
    split at same
    next => cases same
    next nameless =>
      obtain rfl := Sum.inr.inj same
      exact ⟨Bool.not_eq_true _ ▸ nameless, present⟩
  · rintro ⟨nameless, present⟩
    refine ⟨event, present, if_neg ?_⟩
    rw [nameless]
    exact Bool.false_ne_true

/-- A merge loses no identity and makes none up. -/
theorem Orderly.mem_identities_settled_iff
    {events : List Event}
    (orderly : Orderly events)
    (mark : EventId ⊕ Event) :
    mark ∈ (settled events).map identity ↔ mark ∈ events.map identity := by
  constructor
  · exact fun present => List.map_subset identity (settled_subset events) present
  · intro present
    obtain ⟨event, eventIn, rfl⟩ := List.mem_map.mp present
    obtain ⟨first, firstIn, same, -⟩ := orderly.settled_firstCopies.represents event eventIn
    exact List.mem_map.mpr ⟨first, firstIn, same⟩

end Event

/-- How many events or values a call is given. -/
def Insertion.size : Insertion → Nat
  | .plain _ _ batch => batch.length
  | .arriving _ _ batch => batch.length
  | .raw _ _ values => values.length

namespace Timeline

theorem holds_iff (timeline : Timeline) (id : EventId) :
    timeline.holds id = true ↔ ∃ event ∈ timeline.events, event.id = id := by
  simp [holds, place?]

/-- The ids of a batch that a timeline does not hold, each once. -/
def newIds (timeline : Timeline) (batch : List Event) : List EventId :=
  ((batch.map (·.id)).filter fun id => id != "" && !timeline.holds id).dedup

/-- The events without an id that a timeline does not hold, each once. -/
def newNameless (timeline : Timeline) (completed : List Event) : List Event :=
  (completed.filter fun event =>
    !event.hasId && timeline.events.all fun held => decide (held ≠ event)).dedup

/-- The identities that are new to a timeline. -/
def newIdentities (timeline : Timeline) (completed : List Event) : List (EventId ⊕ Event) :=
  (timeline.newIds completed).map Sum.inl ++ (timeline.newNameless completed).map Sum.inr

section

variable {timeline : Timeline} {completed : List Event} {insertion : Insertion}

theorem mem_newIds_iff (id : EventId) :
    id ∈ timeline.newIds completed ↔
      (id ≠ "" ∧ ∃ event ∈ completed, event.id = id) ∧
        ¬∃ event ∈ timeline.events, event.id = id := by
  rw [newIds, List.mem_dedup, List.mem_filter, List.mem_map, Bool.and_eq_true, bne_iff_ne,
    Bool.not_eq_true', ← Bool.not_eq_true, holds_iff, ← and_assoc, and_comm (a := _ ≠ _)]

theorem mem_newNameless_iff (event : Event) :
    event ∈ timeline.newNameless completed ↔
      (event.hasId = false ∧ event ∈ completed) ∧ event ∉ timeline.events := by
  rw [newNameless, List.mem_dedup, List.mem_filter, Bool.and_eq_true, Bool.not_eq_true',
    ← and_assoc, and_comm (a := event ∈ completed)]
  simp only [List.all_eq_true, decide_eq_true_eq, List.forall_mem_ne']

/-- An identity is new if the batch has it and the timeline has not. -/
theorem mem_newIdentities_iff (mark : EventId ⊕ Event) :
    mark ∈ timeline.newIdentities completed ↔
      mark ∈ completed.map Event.identity ∧ mark ∉ timeline.events.map Event.identity := by
  rw [newIdentities, List.mem_append]
  cases mark with
  | inl id =>
      rw [Event.inl_mem_identities_iff, Event.inl_mem_identities_iff,
        List.mem_map_of_injective Sum.inl_injective, mem_newIds_iff]
      have notNameless : Sum.inl id ∉ (timeline.newNameless completed).map Sum.inr := by
        simp
      rw [or_iff_left notNameless]
      apply and_congr_right
      rintro ⟨named, -⟩
      rw [and_iff_right named]
  | inr event =>
      rw [Event.inr_mem_identities_iff, Event.inr_mem_identities_iff,
        List.mem_map_of_injective Sum.inr_injective, mem_newNameless_iff]
      have notNamed : Sum.inr event ∉ (timeline.newIds completed).map Sum.inl := by
        simp
      rw [or_iff_right notNamed]
      apply and_congr_right
      rintro ⟨nameless, -⟩
      rw [and_iff_right nameless]

theorem nodup_newIdentities (timeline : Timeline) (completed : List Event) :
    (timeline.newIdentities completed).Nodup := by
  have ids := (List.nodup_dedup _ : (timeline.newIds completed).Nodup)
  have nameless := (List.nodup_dedup _ : (timeline.newNameless completed).Nodup)
  rw [newIdentities, List.nodup_append]
  refine ⟨ids.map Sum.inl_injective, nameless.map Sum.inr_injective, ?_⟩
  intro mark isId other isNameless
  obtain ⟨id, -, rfl⟩ := List.mem_map.mp isId
  obtain ⟨event, -, rfl⟩ := List.mem_map.mp isNameless
  exact Sum.inl_ne_inr

/-- After a merge every identity that was held stands once, and every new one does. -/
theorem identities_settled_perm
    (orderly : Event.Orderly (timeline.events ++ completed))
    (settles : Settled timeline.events) :
    ((settled (timeline.events ++ completed)).map Event.identity).Perm
      (timeline.events.map Event.identity ++ timeline.newIdentities completed) := by
  have merged := orderly.settled_firstCopies.identities
  have apart : (timeline.events.map Event.identity ++ timeline.newIdentities completed).Nodup := by
    rw [List.nodup_append]
    refine ⟨settles.identities, nodup_newIdentities timeline completed, ?_⟩
    intro mark held other isNew same
    rw [same] at held
    exact ((mem_newIdentities_iff other).mp isNew).2 held
  rw [List.perm_ext_iff_of_nodup merged apart]
  intro mark
  rw [orderly.mem_identities_settled_iff, List.map_append, List.mem_append, List.mem_append,
    mem_newIdentities_iff]
  tauto

/-- No batch has more new identities than events. -/
theorem length_newIdentities_le (timeline : Timeline) (completed : List Event) :
    (timeline.newIdentities completed).length ≤ completed.length := by
  have within : timeline.newIdentities completed ⊆ completed.map Event.identity :=
    fun mark present => ((mem_newIdentities_iff mark).mp present).1
  have fewer := ((nodup_newIdentities timeline completed).subperm within).length_le
  rw [List.length_map] at fewer
  exact fewer

/-- After a merge there are as many events as were held and new identities. -/
theorem length_settled_append
    (orderly : Event.Orderly (timeline.events ++ completed))
    (settles : Settled timeline.events) :
    (settled (timeline.events ++ completed)).length =
      timeline.length + (timeline.newIdentities completed).length := by
  have counts := (identities_settled_perm orderly settles).length_eq
  rw [List.length_append, List.length_map, List.length_map] at counts
  exact counts

/-- A batch that is taken counts by how much the merge is longer, and the rest as duplicates. -/
theorem accepted_counts
    {batch merged : List Event}
    {count : Nat}
    (longer : merged.length = timeline.length + count)
    (within : count ≤ batch.length)
    (clock : Timestamp) :
    (timeline.accepted clock batch merged).1.added = count ∧
      (timeline.accepted clock batch merged).1.added +
        (timeline.accepted clock batch merged).1.duplicates = batch.length := by
  have added : (timeline.accepted clock batch merged).1.added = count := by
    show merged.length - timeline.length = count
    rw [longer, Nat.add_sub_cancel_left]
  have duplicates : (timeline.accepted clock batch merged).1.duplicates =
      batch.length - (timeline.accepted clock batch merged).1.added := rfl
  rw [duplicates, added]
  exact ⟨rfl, Nat.add_sub_cancel' within⟩

/-- An insertion adds the new identities and counts the rest of its batch as duplicates. -/
theorem applyTo_counts
    (orderly : Event.Orderly (timeline.events ++ insertion.entering timeline.room))
    (settles : Settled timeline.events) :
    (insertion.applyTo timeline).1.added =
        (timeline.newIdentities (insertion.entering timeline.room)).length ∧
      (insertion.applyTo timeline).1.added + (insertion.applyTo timeline).1.duplicates =
        insertion.batch.length := by
  obtain ⟨skipped, outcome⟩ := Insertion.applyTo_fst timeline insertion
  rw [outcome]
  by_cases empty : insertion.batch = []
  · rw [Insertion.entering, empty, insert_nil]
    exact ⟨rfl, rfl⟩
  · have longer := length_settled_append orderly settles
    have within := length_newIdentities_le timeline (insertion.entering timeline.room)
    have arranged := (Sorting.byInsertion_perm Event.precedes
      (insertion.entering timeline.room)).length_eq
    have counts := accepted_counts longer (within.trans_eq arranged.symm) insertion.clock
    rw [arranged, Insertion.entering, List.length_map] at counts
    rw [timeline.insert_of_orderly insertion.arrival insertion.clock empty orderly settles]
    exact counts

/-- An insertion of events counts as one change, and of none as no change. -/
theorem applyTo_generation
    (orderly : Event.Orderly (timeline.events ++ insertion.entering timeline.room))
    (settles : Settled timeline.events) :
    (insertion.applyTo timeline).1.generation = (insertion.applyTo timeline).2.generation ∧
      (insertion.applyTo timeline).2.generation =
        if insertion.batch = [] then timeline.generation else timeline.generation + 1 := by
  obtain ⟨skipped, outcome⟩ := Insertion.applyTo_fst timeline insertion
  rw [outcome, Insertion.applyTo_snd]
  split
  next empty =>
    rw [empty, insert_nil]
    exact ⟨rfl, rfl⟩
  next nonempty =>
    rw [timeline.insert_of_orderly insertion.arrival insertion.clock nonempty orderly settles]
    exact ⟨rfl, rfl⟩

end

/-- Events are never skipped. -/
theorem insert_skipped
    (timeline : Timeline)
    (arrival : Arrival)
    (clock : Timestamp)
    (batch : List Event) :
    (timeline.insert arrival clock batch).1.skipped = 0 := by
  rcases timeline.insert_cases arrival clock batch with
    ⟨-, idle⟩ | ⟨-, failure⟩ | ⟨_, _, -, -, accepts⟩
  · rw [idle]
    rfl
  · rw [failure]
    rfl
  · rw [accepts]
    rfl

/-- Whatever is given to a call is an event of its batch or skipped. -/
theorem applyTo_skipped (timeline : Timeline) (insertion : Insertion) :
    insertion.batch.length + (insertion.applyTo timeline).1.skipped = insertion.size := by
  cases insertion with
  | plain now clock batch =>
      exact congrArg (batch.length + ·) (timeline.insert_skipped (.atTime now) clock batch)
  | arriving arrival clock batch =>
      exact congrArg (batch.length + ·) (timeline.insert_skipped arrival clock batch)
  | raw arrival clock values =>
      rw [Insertion.applyTo, insertValues_eq]
      exact length_receiveAll values

/-- An insertion adds the ids of its batch that were not held, each once, and the events without an
id that were not held, each once.  The rest of the batch are duplicates, and what is no event is
skipped.  By what is added the timeline grows, less what is trimmed.  A batch of events counts as
one change, an empty one as none, and the outcome tells the count that the timeline keeps. -/
theorem applyTo_accounts
    {given : Json → Prop}
    {timeline : Timeline}
    {insertion : Insertion}
    (told : Json.ToldByTexts given)
    (reached : timeline.Reached given)
    (gives : ∀ event ∈ insertion.batch, given event.content) :
    let outcome := (insertion.applyTo timeline).1
    let changed := (insertion.applyTo timeline).2
    outcome.failed = false ∧
    outcome.added = (timeline.newIds insertion.batch).length +
      (timeline.newNameless (insertion.entering timeline.room)).length ∧
    outcome.added + outcome.duplicates = insertion.batch.length ∧
    outcome.added + outcome.duplicates + outcome.skipped = insertion.size ∧
    changed.length + outcome.trimmed = timeline.length + outcome.added ∧
    changed.generation =
      (if insertion.batch = [] then timeline.generation else timeline.generation + 1) ∧
    outcome.generation = changed.generation := by
  intro outcome changed
  have keeps := reached.keeps told
  have orderly := keeps.orderly told gives
  have settles := keeps.kept.settles
  obtain ⟨added, wholeBatch⟩ := applyTo_counts orderly settles
  obtain ⟨sameGeneration, generation⟩ := applyTo_generation orderly settles
  have sameIds : timeline.newIds (insertion.entering timeline.room) =
      timeline.newIds insertion.batch := by
    rw [newIds, Insertion.entering, List.map_map]
    rfl
  rw [newIdentities, List.length_append, List.length_map, List.length_map, sameIds] at added
  have whole : outcome.added + outcome.duplicates + outcome.skipped = insertion.size := by
    rw [wholeBatch]
    exact timeline.applyTo_skipped insertion
  exact ⟨(applyTo_of_orderly orderly settles).1, added, wholeBatch, whole,
    (timeline.applyTo_balance insertion).1, generation, sameGeneration⟩

/-- A copy of a message that is held, a new message twice, and events without an id, of which one
is held and another comes twice. -/
def mixedBatch : Insertion :=
  .arriving (.atTime 40) 120 [
    { Event.bare "$a" "m.room.message" with sentAt := some 25 },
    { Event.bare "$c" "m.room.message" with sentAt := some 50 },
    { Event.bare "$c" "m.room.message" with sentAt := some 60 },
    { Event.bare "" "m.room.message" with sentAt := some 10 },
    Event.bare "" "m.room.message",
    { Event.bare "" "m.room.message" with sentAt := some 40 }]

/-- Where the messages that come again lead. -/
def redelivered : Timeline :=
  (empty 1 ⟨4, true⟩ (some "!r:x")).insertAll redeliveryRun

theorem applyTo_accounts_mixedBatch :
    (mixedBatch.applyTo redelivered).1.failed = false ∧
    (mixedBatch.applyTo redelivered).1.added = 2 ∧
    (mixedBatch.applyTo redelivered).1.added + (mixedBatch.applyTo redelivered).1.duplicates = 6 ∧
    (mixedBatch.applyTo redelivered).2.length + (mixedBatch.applyTo redelivered).1.trimmed =
      redelivered.length + (mixedBatch.applyTo redelivered).1.added ∧
    (mixedBatch.applyTo redelivered).2.generation = redelivered.generation + 1 := by
  have reached : redelivered.Reached
      (Event.GivenBy (Insertion.offered redeliveryRun ++ mixedBatch.batch)) :=
    reached_run 1 ⟨4, true⟩ (some "!r:x") redeliveryRun mixedBatch.batch
  have told : Json.ToldByTexts
      (Event.GivenBy (Insertion.offered redeliveryRun ++ mixedBatch.batch)) :=
    Event.TextsTellContents.toldByTexts (by decide)
  have newOnes : (redelivered.newIds mixedBatch.batch).length +
      (redelivered.newNameless (mixedBatch.entering redelivered.room)).length = 2 := by
    decide +kernel
  obtain ⟨succeeds, added, wholeBatch, -, balance, generation, -⟩ :=
    applyTo_accounts told reached fun event present =>
      Event.givenBy_of_mem (List.mem_append_right _ present)
  exact ⟨succeeds, added.trans newOnes, wholeBatch, balance, generation.trans (if_neg (by decide))⟩

end Timeline

end RoomHistory
