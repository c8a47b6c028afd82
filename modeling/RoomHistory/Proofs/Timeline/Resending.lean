import RoomHistory.Proofs.Timeline.Counting

/-!
# Batches that come again, and in another order

What an insertion does depends on the set of events that arrive and on how many they are, not on
their sequence: orderly events are arranged in one way only, and a merge is a function of the events
that go into it.  So a batch in another order does the same, and where the events that are left
after an insertion merge with the same batch to what they were taken from, the batch does nothing
when it comes again.  That is so if no event was given up, and if nothing was held before.  Where
growth into history gives up events of a timeline that held some, a batch that comes again may be
taken for growth toward the present.
-/

namespace RoomHistory

namespace Event

namespace Orderly

variable {left right held kept batch : List Event}

/-- Orderly events are arranged in one way only. -/
theorem byInsertion_congr
    (orderly : Orderly left)
    (rearranged : left.Perm right) :
    Sorting.byInsertion precedes left = Sorting.byInsertion precedes right := by
  have leftPerm := Sorting.byInsertion_perm precedes left
  have rightPerm := Sorting.byInsertion_perm precedes right
  have leftArranged := orderly.byInsertion_pairwise
  have rightArranged := (orderly.subset rearranged.symm.subset).byInsertion_pairwise
  have perm := leftPerm.trans (rearranged.trans rightPerm.symm)
  refine List.Perm.eq_of_pairwise ?_ leftArranged rightArranged perm
  intro first second firstIn secondIn notAfter notBefore
  have firstGiven := leftPerm.subset firstIn
  have secondGiven := rearranged.symm.subset (rightPerm.subset secondIn)
  exact orderly.antisymm firstGiven secondGiven notAfter notBefore

/-- A batch merges to the same events as before with all of what its merge left, and with any part
of it if nothing else went into that merge. -/
theorem settled_append_again
    (orderly : Orderly (held ++ batch))
    (part : kept ⊆ settled (held ++ batch))
    (enough : held = [] ∨ kept = settled (held ++ batch)) :
    settled (kept ++ batch) = settled (held ++ batch) := by
  rcases enough with rfl | rfl
  · have within : kept ⊆ batch := fun event present => settled_subset _ (part present)
    apply Eq.symm
    apply orderly.settled_congr
    intro event
    rw [List.nil_append, List.mem_append]
    refine ⟨Or.inr, ?_⟩
    rintro (inKept | inBatch)
    · exact within inKept
    · exact inBatch
  · have twice : ∀ event, event ∈ held ++ batch ++ batch ↔ event ∈ held ++ batch := by
      intro event
      rw [List.mem_append, or_iff_left_of_imp (List.mem_append_right held)]
    have again := orderly.subset fun event => (twice event).mp
    rw [again.settled_settled_append, again.settled_congr twice]

end Orderly

end Event

namespace Timeline

/-- A batch in another order is arranged and merged to the same. -/
theorem merged?_congr
    {timeline : Timeline}
    {completed other : List Event}
    (orderly : Event.Orderly (timeline.events ++ completed))
    (rearranged : completed.Perm other) :
    timeline.merged? completed = timeline.merged? other := by
  have sameEvents : ∀ event, event ∈ timeline.events ++ completed ↔
      event ∈ timeline.events ++ other := fun event =>
    (rearranged.append_left timeline.events).mem_iff
  have alone := orderly.subset (List.subset_append_right timeline.events completed)
  rw [merged?_of_orderly orderly,
    merged?_of_orderly (orderly.subset fun event => (sameEvents event).mpr),
    alone.byInsertion_congr rearranged, orderly.settled_congr sameEvents]

section

variable {timeline : Timeline} {insertion again : Insertion}
variable (kept : timeline.KeptFrom timeline.events)
include kept

/-- The events of a batch are orderly along with what their insertion left. -/
theorem KeptFrom.orderly_again
    (orderly : Event.Orderly (timeline.events ++ insertion.entering timeline.room)) :
    Event.Orderly ((insertion.applyTo timeline).2.events ++ insertion.entering timeline.room) :=
  orderly.subset <| List.append_subset.mpr
    ⟨(kept.applyTo rfl orderly).subset, List.subset_append_right timeline.events _⟩

/-- What an insertion leaves merges with the same events to what it was taken from, if it is all of
that or nothing was held before. -/
theorem KeptFrom.settled_append_again
    (orderly : Event.Orderly (timeline.events ++ insertion.entering timeline.room))
    (enough : timeline.events = [] ∨ (insertion.applyTo timeline).1.trimmed = 0) :
    settled ((insertion.applyTo timeline).2.events ++ insertion.entering timeline.room) =
      settled (timeline.events ++ insertion.entering timeline.room) := by
  apply orderly.settled_append_again
  · rw [kept.applyTo_events orderly]
    exact (restoreBudget_sublist _ _ _).subset
  · exact enough.imp_right (applyTo_events_of_untrimmed orderly kept.settles)

/-- A batch that comes again leaves the events as they are, if none were given up at first or none
were held before. -/
theorem KeptFrom.applyTo_again
    (orderly : Event.Orderly (timeline.events ++ insertion.entering timeline.room))
    (sameEvents : again.entering timeline.room = insertion.entering timeline.room)
    (enough : timeline.events = [] ∨ (insertion.applyTo timeline).1.trimmed = 0) :
    (again.applyTo (insertion.applyTo timeline).2).2.events =
      (insertion.applyTo timeline).2.events := by
  have entersAgain : again.entering (insertion.applyTo timeline).2.room =
      insertion.entering timeline.room := by
    rw [applyTo_room, sameEvents]
  have sameMerge := kept.settled_append_again orderly enough
  have orderlyAgain := kept.orderly_again orderly
  rw [← entersAgain] at orderlyAgain
  have once := (kept.applyTo rfl orderly).own
  calc (again.applyTo (insertion.applyTo timeline).2).2.events
      = restoreBudget (insertion.applyTo timeline).2.policy.limit
          ((insertion.applyTo timeline).2.growth again)
          (settled ((insertion.applyTo timeline).2.events ++
            again.entering (insertion.applyTo timeline).2.room)) :=
        once.applyTo_events orderlyAgain
    _ = restoreBudget timeline.policy.limit (timeline.growth insertion)
          (settled (timeline.events ++ insertion.entering timeline.room)) := by
        rw [growth, growth, entersAgain, sameMerge, applyTo_policy]
    _ = (insertion.applyTo timeline).2.events := (kept.applyTo_events orderly).symm

/-- A batch that comes again adds nothing and takes nothing away, if nothing was given up at
first. -/
theorem KeptFrom.applyTo_again_counts
    (orderly : Event.Orderly (timeline.events ++ insertion.entering timeline.room))
    (sameEvents : again.entering timeline.room = insertion.entering timeline.room)
    (noneTrimmed : (insertion.applyTo timeline).1.trimmed = 0) :
    (again.applyTo (insertion.applyTo timeline).2).1.added = 0 ∧
    (again.applyTo (insertion.applyTo timeline).2).1.trimmed = 0 ∧
    (again.applyTo (insertion.applyTo timeline).2).1.duplicates = again.batch.length := by
  have entersAgain : again.entering (insertion.applyTo timeline).2.room =
      insertion.entering timeline.room := by
    rw [applyTo_room, sameEvents]
  have orderlyAgain := kept.orderly_again orderly
  have once := (kept.applyTo rfl orderly).own
  have whole := applyTo_events_of_untrimmed orderly kept.settles noneTrimmed
  have longer := length_settled_append orderlyAgain once.settles
  rw [kept.settled_append_again orderly (Or.inr noneTrimmed), ← whole] at longer
  rw [← entersAgain] at orderlyAgain longer
  have noneNew : ((insertion.applyTo timeline).2.newIdentities
      (again.entering (insertion.applyTo timeline).2.room)).length = 0 :=
    Nat.left_eq_add.mp longer
  obtain ⟨added, wholeBatch⟩ := applyTo_counts orderlyAgain once.settles
  rw [noneNew] at added
  rw [added, Nat.zero_add] at wholeBatch
  have balance := ((insertion.applyTo timeline).2.applyTo_balance again).1
  rw [added, length, kept.applyTo_again orderly sameEvents (Or.inr noneTrimmed)] at balance
  exact ⟨added, Nat.add_left_cancel balance, wholeBatch⟩

end

/-- A batch that comes again, right after it came and in the same way, leaves the events as they
are, if nothing was held before it or nothing was given up for it.  In the second case it adds
nothing and takes nothing away. -/
theorem insert_twice
    {given : Json → Prop}
    {timeline : Timeline}
    {batch : List Event}
    (told : Json.ToldByTexts given)
    (reached : timeline.Reached given)
    (gives : ∀ event ∈ batch, given event.content)
    (arrival : Arrival)
    (clock later : Timestamp) :
    let once := timeline.insert arrival clock batch
    let twice := once.2.insert arrival later batch
    once.1.failed = false ∧ twice.1.failed = false ∧
    (timeline.events = [] ∨ once.1.trimmed = 0 → twice.2.events = once.2.events) ∧
    (once.1.trimmed = 0 →
      twice.1.added = 0 ∧ twice.1.trimmed = 0 ∧ twice.1.duplicates = batch.length) := by
  intro once twice
  let insertion : Insertion := .arriving arrival clock batch
  let again : Insertion := .arriving arrival later batch
  have keeps := reached.keeps told
  have keepsOnce : (insertion.applyTo timeline).2.Keeps given := keeps.applyTo told gives
  have orderly : Event.Orderly (timeline.events ++ insertion.entering timeline.room) :=
    keeps.orderly told gives
  have orderlyAgain : Event.Orderly (once.2.events ++ again.entering once.2.room) :=
    keepsOnce.orderly told gives
  have sameEvents : again.entering timeline.room = insertion.entering timeline.room := rfl
  exact ⟨(applyTo_of_orderly orderly keeps.kept.settles).1,
    (applyTo_of_orderly orderlyAgain keepsOnce.kept.settles).1,
    keeps.kept.applyTo_again orderly sameEvents,
    keeps.kept.applyTo_again_counts orderly sameEvents⟩

/-- Three messages, the last of which was sent twice. -/
def messages : List Event := [
  { Event.bare "$c" "m.room.message" with sentAt := some 30 },
  { Event.bare "$b" "m.room.message" with sentAt := some 20 },
  { Event.bare "$a" "m.room.message" with sentAt := some 10 },
  { Event.bare "$c" "m.room.message" with sentAt := some 35 }]

/-- A timeline without a limit that holds some messages. -/
def unbounded : Timeline :=
  (empty 1 ⟨0, true⟩ none).insertAll [.plain 9 100 messages]

theorem insert_twice_messages :
    let once := (empty 1 ⟨1, true⟩ none).insert (.atTime 9) 100 messages
    let twice := once.2.insert (.atTime 9) 101 messages
    let first := unbounded.insert (.atTime 9) 101 mixedBatch.batch
    let second := first.2.insert (.atTime 9) 102 mixedBatch.batch
    (once.1.trimmed = 2 ∧ once.1.failed = false ∧ twice.1.failed = false ∧
      twice.2.events = once.2.events) ∧
    first.1.trimmed = 0 ∧ second.2.events = first.2.events ∧
      second.1.added = 0 ∧ second.1.duplicates = 6 := by
  dsimp only
  have told : Json.ToldByTexts
      (Event.GivenBy (Insertion.offered [.plain 9 100 messages] ++ mixedBatch.batch)) :=
    Event.TextsTellContents.toldByTexts (by decide)
  have reached : unbounded.Reached
      (Event.GivenBy (Insertion.offered [.plain 9 100 messages] ++ mixedBatch.batch)) :=
    reached_run 1 ⟨0, true⟩ none [.plain 9 100 messages] mixedBatch.batch
  have untrimmed : (unbounded.insert (.atTime 9) 101 mixedBatch.batch).1.trimmed = 0 := by
    decide +kernel
  obtain ⟨succeeds, succeedsAgain, same, -⟩ := insert_twice told (.empty 1 ⟨1, true⟩ none)
    (fun event present => Event.givenBy_of_mem (List.mem_append_left _ present))
    (.atTime 9) 100 101
  obtain ⟨-, -, sameAgain, counts⟩ := insert_twice told reached
    (fun event present => Event.givenBy_of_mem (List.mem_append_right _ present))
    (.atTime 9) 101 102
  obtain ⟨added, -, duplicates⟩ := counts untrimmed
  exact ⟨⟨by decide, succeeds, succeedsAgain, same (Or.inl rfl)⟩, untrimmed,
    sameAgain (Or.inr untrimmed), added, duplicates⟩

/-- Behind a later message the same batch is taken for history at first.  When it comes again the
later message is gone, and the batch is taken for growth toward the present. -/
example :
    let held := ((empty 1 ⟨2, true⟩ none).insert (.atTime 9) 100
      [{ Event.bare "$d" "m.room.message" with sentAt := some 40 }]).2
    let once := held.insert (.atTime 9) 101 (messages.take 3)
    let twice := once.2.insert (.atTime 9) 102 (messages.take 3)
    once.2.events.map (·.id) = ["$a", "$b"] ∧ twice.2.events.map (·.id) = ["$b", "$c"] := by
  decide

/-- A batch does the same in any order: the timeline and the outcome are the same. -/
theorem insert_rearranged
    {given : Json → Prop}
    {timeline : Timeline}
    {batch other : List Event}
    (told : Json.ToldByTexts given)
    (reached : timeline.Reached given)
    (gives : ∀ event ∈ batch, given event.content)
    (rearranged : batch.Perm other)
    (arrival : Arrival)
    (clock : Timestamp) :
    (timeline.insert arrival clock batch).1.failed = false ∧
    timeline.insert arrival clock other = timeline.insert arrival clock batch := by
  let insertion : Insertion := .arriving arrival clock batch
  have keeps := reached.keeps told
  have settles := keeps.kept.settles
  have orderly : Event.Orderly (timeline.events ++ insertion.entering timeline.room) :=
    keeps.orderly told gives
  refine ⟨(applyTo_of_orderly orderly settles).1, ?_⟩
  by_cases empty : batch = []
  · rw [empty] at rearranged ⊢
    rw [List.nil_perm.mp rearranged]
  · have otherNonempty : other ≠ [] := by
      rintro rfl
      exact empty (List.perm_nil.mp rearranged)
    have sameMerge : timeline.merged? (timeline.completeBatch arrival batch) =
        timeline.merged? (timeline.completeBatch arrival other) :=
      merged?_congr orderly (rearranged.map _)
    rw [timeline.insert_of_ne_nil arrival clock empty,
      timeline.insert_of_ne_nil arrival clock otherNonempty, insertCompleted, insertCompleted,
      sameMerge]

theorem insert_rearranged_messages :
    let timeline := (empty 1 ⟨1, true⟩ none).insertAll [.plain 9 100 messages]
    (timeline.insert (.atTime 9) 101 mixedBatch.batch).1.failed = false ∧
    timeline.insert (.atTime 9) 101 mixedBatch.batch.reverse =
      timeline.insert (.atTime 9) 101 mixedBatch.batch := by
  intro timeline
  have reached : timeline.Reached
      (Event.GivenBy (Insertion.offered [.plain 9 100 messages] ++ mixedBatch.batch)) :=
    reached_run 1 ⟨1, true⟩ none [.plain 9 100 messages] mixedBatch.batch
  have told : Json.ToldByTexts
      (Event.GivenBy (Insertion.offered [.plain 9 100 messages] ++ mixedBatch.batch)) :=
    Event.TextsTellContents.toldByTexts (by decide)
  exact insert_rearranged told reached
    (fun event present => Event.givenBy_of_mem (List.mem_append_right _ present))
    (List.reverse_perm _).symm (.atTime 9) 101

end Timeline

end RoomHistory
