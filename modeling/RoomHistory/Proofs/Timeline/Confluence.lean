import RoomHistory.Proofs.Timeline.Soundness

/-!
# Merging without a budget is confluent

A timeline without a budget holds, after any run, what a single merge leaves of all the events
that ever entered.  So the sequence of events does not depend on how they were cut into batches,
on the order of the batches, or on how often an event came.
-/

namespace RoomHistory

namespace Timeline

theorem applyTo_events_of_unlimited
    {source : List Event}
    {room : Option RoomId}
    {timeline : Timeline}
    {insertion : Insertion}
    (unlimited : timeline.policy.limit = 0)
    (inRoom : timeline.room = room)
    (held : timeline.events = settled source)
    (orderly : Event.Orderly (source ++ insertion.entering room)) :
    (insertion.applyTo timeline).2.events = settled (source ++ insertion.entering room) := by
  subst inRoom
  have settles : Settled timeline.events := by
    rw [held]
    exact (orderly.subset (List.subset_append_left _ _)).settled_firstCopies.toSettled
  have arriving : Event.Orderly (timeline.events ++ insertion.entering timeline.room) := by
    apply orderly.subset
    rw [held]
    exact append_subset_append _ (settled_subset source)
  rcases (applyTo_of_orderly arriving settles).2 with ⟨nothing, same⟩ | ⟨-, changed, -⟩
  · rw [same, nothing, List.append_nil, held]
  · rw [changed, unlimited, restoreBudget_zero, held, orderly.settled_settled_append]

/-- Without a budget a run comes to one merge of all that entered. -/
theorem events_insertAll_of_unlimited
    (tag : TimelineTag)
    {policy : TimelinePolicy}
    {room : Option RoomId}
    {insertions done : List Insertion}
    (unlimited : policy.limit = 0)
    (orderly : Event.Orderly (Insertion.allEntering room insertions))
    (reached : done <+: insertions) :
    ((empty tag policy room).insertAll done).events =
      settled (Insertion.allEntering room done) := by
  refine insertAll_induction (motive := fun done timeline =>
    timeline.events = settled (Insertion.allEntering room done)) rfl ?_ reached
  intro done insertion further held
  have stillUnlimited : ((empty tag policy room).insertAll done).policy.limit = 0 := by
    rw [insertAll_policy]
    exact unlimited
  rw [Insertion.allEntering_concat]
  exact applyTo_events_of_unlimited stillUnlimited (insertAll_room _ done) held
    (Insertion.orderly_entering orderly further)

end Timeline

/-- A list that holds the least copy of every event with an id and every event without one, in
strictly ascending order. -/
structure LeastCopies (entered kept : List Event) : Prop where
  ascending : kept.Pairwise fun older newer => older.order newer = .lt
  arrived : kept ⊆ entered
  named : ∀ event ∈ entered, event.hasId = true → ∃! least, least ∈ kept ∧ least.id = event.id
  smallest : ∀ least ∈ kept, ∀ copy ∈ entered,
    least.hasId = true → copy.id = least.id → least.order copy ≠ .gt
  nameless : ∀ event ∈ entered, event.hasId = false → event ∈ kept

/-- A merge leaves the least copies. -/
theorem Event.Orderly.settled_leastCopies
    {events : List Event}
    (orderly : Event.Orderly events) :
    LeastCopies events (settled events) where
  ascending := orderly.settled_firstCopies.ascending
  arrived := settled_subset events
  named event present named := by
    obtain ⟨first, firstIn, same, -⟩ := orderly.settled_firstCopies.represents event present
    have sameId : first.id = event.id := by
      rcases (Event.identity_eq_iff first event).mp same with ⟨-, sameId⟩ | rfl
      · exact sameId
      · rfl
    refine ⟨first, ⟨firstIn, sameId⟩, ?_⟩
    rintro other ⟨otherIn, otherId⟩
    apply orderly.settled_firstCopies.eq_of_identity otherIn firstIn
    rw [same]
    apply Eq.symm
    exact (Event.identity_eq_iff event other).mpr (Or.inl ⟨named, otherId.symm⟩)
  smallest least leastIn copy copyIn named sameId := by
    apply ((orderly.mem_settled_iff least).mp leastIn).2 copy copyIn
    apply Eq.symm
    exact (Event.identity_eq_iff least copy).mpr (Or.inl ⟨named, sameId.symm⟩)
  nameless event present nameless := by
    rw [orderly.mem_settled_iff]
    refine ⟨present, ?_⟩
    intro copy copyIn same
    rcases (Event.identity_eq_iff event copy).mp same.symm with ⟨named, -⟩ | rfl
    · rw [nameless] at named
      exact absurd named Bool.false_ne_true
    · rw [Event.order_self]
      decide

namespace Timeline

/-- Two runs without a budget in which the same events entered end with the same events, the least
copies of what entered, and no insertion of either fails. -/
theorem insertAll_confluent
    (leftTag rightTag : TimelineTag)
    (leftPolicy rightPolicy : TimelinePolicy)
    (leftRoom rightRoom : Option RoomId)
    (left right : List Insertion)
    (leftUnlimited : leftPolicy.limit = 0)
    (rightUnlimited : rightPolicy.limit = 0)
    (sameEvents : ∀ event,
      event ∈ Insertion.allEntering leftRoom left ↔ event ∈ Insertion.allEntering rightRoom right)
    (texts : Event.TextsTellContents (Insertion.offered left)) :
    ((empty leftTag leftPolicy leftRoom).insertAll left).events =
        ((empty rightTag rightPolicy rightRoom).insertAll right).events ∧
      LeastCopies (Insertion.allEntering leftRoom left)
        ((empty leftTag leftPolicy leftRoom).insertAll left).events ∧
      (∀ outcome ∈ (empty leftTag leftPolicy leftRoom).outcomes left, outcome.failed = false) ∧
      ∀ outcome ∈ (empty rightTag rightPolicy rightRoom).outcomes right,
        outcome.failed = false := by
  have leftOrderly := Insertion.orderly_allEntering texts leftRoom
  have rightOrderly : Event.Orderly (Insertion.allEntering rightRoom right) :=
    leftOrderly.subset fun event => (sameEvents event).mpr
  have leftEvents := events_insertAll_of_unlimited leftTag leftUnlimited leftOrderly
    (List.prefix_refl left)
  have rightEvents := events_insertAll_of_unlimited rightTag rightUnlimited rightOrderly
    (List.prefix_refl right)
  refine ⟨?_, ?_, ?_, ?_⟩
  · rw [leftEvents, rightEvents, leftOrderly.settled_congr sameEvents]
  · rw [leftEvents]
    exact leftOrderly.settled_leastCopies
  · exact outcomes_succeed leftTag leftPolicy leftOrderly
  · exact outcomes_succeed rightTag rightPolicy rightOrderly

/-- Two batches, with two copies of one message and an event without an id. -/
def scatteredRun : List Insertion := [
  .arriving (.atTime 7) 1 [
    { Event.bare "$a" "m.room.message" with sentAt := some 20 },
    { Event.bare "" "m.room.message" with sentAt := some 15 }],
  .arriving (.atTime 7) 2 [
    { Event.bare "$a" "m.room.message" with sentAt := some 10 },
    Event.bare "$b" "m.room.message"]]

/-- The same events in one batch, told their room on arrival, one of them twice. -/
def gatheredRun : List Insertion := [
  .arriving ⟨some "!r:x", none, none, 7⟩ 9 [
    { Event.bare "$a" "m.room.message" with sentAt := some 10 },
    Event.bare "$b" "m.room.message",
    { Event.bare "" "m.room.message" with sentAt := some 15 },
    { Event.bare "$a" "m.room.message" with sentAt := some 20 },
    { Event.bare "$a" "m.room.message" with sentAt := some 10 }]]

theorem allEntering_scatteredRun_iff (event : Event) :
    event ∈ Insertion.allEntering (some "!r:x") scatteredRun ↔
      event ∈ Insertion.allEntering none gatheredRun := by
  have scattered : Insertion.allEntering (some "!r:x") scatteredRun = [
      { Event.bare "$a" "m.room.message" with room := some "!r:x", sentAt := some 20 },
      { Event.bare "" "m.room.message" with room := some "!r:x", sentAt := some 15 },
      { Event.bare "$a" "m.room.message" with room := some "!r:x", sentAt := some 10 },
      { Event.bare "$b" "m.room.message" with room := some "!r:x", sentAt := some 7 }] := rfl
  have gathered : Insertion.allEntering none gatheredRun = [
      { Event.bare "$a" "m.room.message" with room := some "!r:x", sentAt := some 10 },
      { Event.bare "$b" "m.room.message" with room := some "!r:x", sentAt := some 7 },
      { Event.bare "" "m.room.message" with room := some "!r:x", sentAt := some 15 },
      { Event.bare "$a" "m.room.message" with room := some "!r:x", sentAt := some 20 },
      { Event.bare "$a" "m.room.message" with room := some "!r:x", sentAt := some 10 }] := rfl
  rw [scattered, gathered]
  simp only [List.mem_cons, List.not_mem_nil, or_false]
  tauto

theorem insertAll_confluent_scatteredRun :
    ((empty 1 ⟨0, true⟩ (some "!r:x")).insertAll scatteredRun).events =
        ((empty 2 ⟨0, false⟩ none).insertAll gatheredRun).events ∧
      LeastCopies (Insertion.allEntering (some "!r:x") scatteredRun)
        ((empty 1 ⟨0, true⟩ (some "!r:x")).insertAll scatteredRun).events ∧
      (∀ outcome ∈ (empty 1 ⟨0, true⟩ (some "!r:x")).outcomes scatteredRun,
        outcome.failed = false) ∧
      ∀ outcome ∈ (empty 2 ⟨0, false⟩ none).outcomes gatheredRun, outcome.failed = false :=
  insertAll_confluent 1 2 ⟨0, true⟩ ⟨0, false⟩ (some "!r:x") none scatteredRun gatheredRun
    rfl rfl allEntering_scatteredRun_iff (by decide)

end Timeline

end RoomHistory
