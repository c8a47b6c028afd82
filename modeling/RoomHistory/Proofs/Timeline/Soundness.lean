import RoomHistory.Proofs.Timeline.Runs

/-!
# Soundness of timelines

Every event that is held came with some batch and has a time.  The events stand in strictly
ascending order, no id occurs twice among them, and no more of them than the budget allows are not
state events.  All of this is kept by every insertion, whatever was merged, replaced or evicted
before.
-/

namespace RoomHistory

namespace Timeline

/-- The events held come from a source, in order and without repeats, and the budget holds. -/
structure KeptFrom (source : List Event) (timeline : Timeline) : Prop where
  subset : timeline.events ⊆ source
  settles : Settled timeline.events
  withinBudget : 0 < timeline.policy.limit → timeline.budgetUse ≤ timeline.policy.limit

theorem keptFrom_empty (tag : TimelineTag) (policy : TimelinePolicy) (room : Option RoomId) :
    (empty tag policy room).KeptFrom [] where
  subset := List.Subset.refl []
  settles := Settled.nil
  withinBudget _ := Nat.zero_le policy.limit

section

variable {source : List Event} {room : Option RoomId} {timeline : Timeline} {insertion : Insertion}

theorem KeptFrom.orderly
    (kept : timeline.KeptFrom source)
    (orderly : Event.Orderly (source ++ insertion.entering room)) :
    Event.Orderly (timeline.events ++ insertion.entering room) :=
  orderly.subset (append_subset_append _ kept.subset)

theorem KeptFrom.applyTo
    (kept : timeline.KeptFrom source)
    (inRoom : timeline.room = room)
    (orderly : Event.Orderly (source ++ insertion.entering room)) :
    (insertion.applyTo timeline).2.KeptFrom (source ++ insertion.entering room) := by
  subst inRoom
  have arriving := kept.orderly orderly
  rcases (applyTo_of_orderly arriving kept.settles).2 with ⟨nothing, same⟩ | ⟨-, changed, -⟩
  · rw [same, nothing, List.append_nil]
    exact kept
  · have merged := arriving.settled_firstCopies
    have fewer := restoreBudget_sublist timeline.policy.limit (timeline.growth insertion)
      (settled (timeline.events ++ insertion.entering timeline.room))
    rw [← changed] at fewer
    refine ⟨?_, merged.toSettled.sublist fewer, ?_⟩
    · intro event present
      apply append_subset_append _ kept.subset
      exact settled_subset _ (fewer.subset present)
    · intro bounded
      rw [applyTo_policy] at bounded ⊢
      rw [budgetUse, changed]
      exact budgetUse_restoreBudget_le bounded _ _

theorem KeptFrom.succeeds
    (kept : timeline.KeptFrom source)
    (inRoom : timeline.room = room)
    (orderly : Event.Orderly (source ++ insertion.entering room)) :
    (insertion.applyTo timeline).1.failed = false := by
  subst inRoom
  exact (applyTo_of_orderly (kept.orderly orderly) kept.settles).1

end

section

variable {room : Option RoomId} {insertions done : List Insertion} {insertion : Insertion}

/-- Throughout a run the events held come from those that entered. -/
theorem keptFrom_insertAll
    (tag : TimelineTag)
    (policy : TimelinePolicy)
    (orderly : Event.Orderly (Insertion.allEntering room insertions))
    (reached : done <+: insertions) :
    ((empty tag policy room).insertAll done).KeptFrom (Insertion.allEntering room done) := by
  refine insertAll_induction (motive := fun done timeline =>
    timeline.KeptFrom (Insertion.allEntering room done)) (keptFrom_empty tag policy room) ?_ reached
  intro done insertion further kept
  have entered := Insertion.orderly_entering orderly further
  rw [Insertion.allEntering_concat]
  exact kept.applyTo (insertAll_room _ done) entered

/-- No insertion of orderly events fails. -/
theorem outcomes_succeed
    (tag : TimelineTag)
    (policy : TimelinePolicy)
    (orderly : Event.Orderly (Insertion.allEntering room insertions)) :
    ∀ outcome ∈ (empty tag policy room).outcomes insertions, outcome.failed = false := by
  intro outcome present
  obtain ⟨done, insertion, further, rfl⟩ := (mem_outcomes_iff _ _ _).mp present
  have kept := keptFrom_insertAll tag policy orderly
    ((List.prefix_append done [insertion]).trans further)
  exact kept.succeeds (insertAll_room _ done) (Insertion.orderly_entering orderly further)

end

/-- What holds of the events of every timeline. -/
structure Sound (timeline : Timeline) : Prop where
  timed : ∀ event ∈ timeline.events, event.sentAt.isSome = true
  ascending : timeline.events.Pairwise fun older newer => older.order newer = .lt
  uniqueIds : timeline.events.Pairwise fun older newer => older.id = newer.id → older.id = ""
  withinBudget : 0 < timeline.policy.limit → timeline.budgetUse ≤ timeline.policy.limit

theorem KeptFrom.sound
    {source : List Event}
    {timeline : Timeline}
    (kept : timeline.KeptFrom source)
    (orderly : Event.Orderly source) :
    timeline.Sound where
  timed event present := orderly.timed event (kept.subset present)
  ascending := kept.settles.ascending
  uniqueIds := by
    apply (List.pairwise_map.mp kept.settles.identities).imp
    intro older newer differ sameId
    by_contra named
    apply differ
    rw [Event.identity_eq_iff]
    exact Or.inl ⟨by simpa [Event.hasId] using named, sameId⟩
  withinBudget := kept.withinBudget

/-- After every insertion of a run the timeline is sound, and no insertion fails. -/
theorem insertAll_sound
    (tag : TimelineTag)
    (policy : TimelinePolicy)
    (room : Option RoomId)
    (insertions : List Insertion)
    (texts : Event.TextsTellContents (Insertion.offered insertions)) :
    (∀ done, done <+: insertions → ((empty tag policy room).insertAll done).Sound) ∧
      ∀ outcome ∈ (empty tag policy room).outcomes insertions, outcome.failed = false := by
  have orderly := Insertion.orderly_allEntering texts room
  constructor
  · intro done reached
    have entered := orderly.subset (Insertion.allEntering_subset reached room)
    exact (keptFrom_insertAll tag policy orderly reached).sound entered
  · exact outcomes_succeed tag policy orderly

/-- A run in which a message comes again with an earlier time, among events without an id, values
that are no events, and a message that is told the time of its arrival. -/
def redeliveryRun : List Insertion := [
  .plain 5 100 [
    { Event.bare "$a" "m.room.message" with sentAt := some 30 },
    { Event.bare "" "m.room.message" with sentAt := some 10 }],
  .raw ⟨none, some "@u:x", some .join, 7⟩ 90 [
    .string "m.room.message",
    .object [
      ("content", .object [("body", .string "hi")]),
      ("event_id", .string "$b"),
      ("type", .string "m.room.message")]],
  .arriving (.atTime 40) 110 [
    { Event.bare "$a" "m.room.message" with sentAt := some 20 },
    { Event.bare "" "m.room.message" with sentAt := some 10 }]]

theorem insertAll_sound_redeliveryRun :
    Event.TextsTellContents (Insertion.offered redeliveryRun) ∧
      (∀ done, done <+: redeliveryRun →
        ((empty 1 ⟨1, true⟩ (some "!r:x")).insertAll done).Sound) ∧
      ∀ outcome ∈ (empty 1 ⟨1, true⟩ (some "!r:x")).outcomes redeliveryRun,
        outcome.failed = false :=
  ⟨by decide, insertAll_sound 1 ⟨1, true⟩ (some "!r:x") redeliveryRun (by decide)⟩

end Timeline

end RoomHistory
