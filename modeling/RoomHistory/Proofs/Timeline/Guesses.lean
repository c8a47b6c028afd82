import RoomHistory.Proofs.Timeline.Growth

/-!
# What the guess of the direction goes by

The direction of growth is guessed from two ids: that of the newest event of the batch as it
arrived, and that of the event that ends the merge.  Of an event that comes in several copies the
merge keeps the earliest, so the newest event of the batch may be gone by then, and events without
an id all have the same.  A batch into an empty timeline counts as growth toward the present exactly
if the earliest copy of its newest event still comes after the earliest copies of all others.  A
batch that is older than the newest event held counts as growth into history unless neither that
event nor the newest of the batch has an id.
-/

namespace RoomHistory

namespace Event

/-- An event that no copy of it among some events comes before. -/
structure IsEarliest (events : List Event) (event : Event) : Prop where
  present : event ∈ events
  notAfter : ∀ copy ∈ events, copy.identity = event.identity → event.order copy ≠ .gt

/-- The newest of the earliest copies among some events. -/
structure EndsMerge (events : List Event) (last : Event) : Prop where
  isEarliest : IsEarliest events last
  notBefore : ∀ other, IsEarliest events other → other.order last ≠ .gt

section

variable {events held batch : List Event} {event left right newest top : Event}

/-- A merge leaves the earliest copies. -/
theorem Orderly.mem_settled_iff_isEarliest (orderly : Orderly events) :
    event ∈ settled events ↔ IsEarliest events event := by
  rw [orderly.mem_settled_iff]
  exact ⟨fun kept => ⟨kept.1, kept.2⟩, fun earliest => ⟨earliest.present, earliest.notAfter⟩⟩

theorem Orderly.endsMerge_unique
    (orderly : Orderly events)
    (leftEnds : EndsMerge events left)
    (rightEnds : EndsMerge events right) :
    left = right :=
  orderly.antisymm leftEnds.isEarliest.present rightEnds.isEarliest.present
    (rightEnds.notBefore left leftEnds.isEarliest) (leftEnds.notBefore right rightEnds.isEarliest)

/-- Unless there are no events a merge ends with the newest of the earliest copies. -/
theorem Orderly.exists_endsMerge
    (orderly : Orderly events)
    (present : event ∈ events) :
    ∃ last, (settled events).getLast? = some last ∧ EndsMerge events last := by
  have copies := orderly.settled_firstCopies
  obtain ⟨first, firstIn, -⟩ := copies.represents event present
  obtain ⟨last, isLast, isNewest⟩ := exists_last_isNewest copies.ascending.arranged firstIn
  refine ⟨last, isLast, orderly.mem_settled_iff_isEarliest.mp isNewest.present, ?_⟩
  intro other earliest
  exact isNewest.notBefore other (orderly.mem_settled_iff_isEarliest.mpr earliest)

/-- An event without an id has no copies but itself. -/
theorem isEarliest_of_nameless
    (present : event ∈ events)
    (nameless : event.hasId = false) :
    IsEarliest events event where
  present := present
  notAfter copy copyIn same := by
    rcases (identity_eq_iff event copy).mp same.symm with ⟨named, -⟩ | rfl
    · rw [nameless] at named
      cases named
    · rw [order_self]
      decide

/-- The newest of all events ends the merge if it is its own earliest copy. -/
theorem IsNewest.endsMerge
    (isNewest : IsNewest events newest)
    (earliest : IsEarliest events newest) :
    EndsMerge events newest :=
  ⟨earliest, fun other otherEarliest => isNewest.notBefore other otherEarliest.present⟩

/-- The event that ends the merge of a batch with nothing has the id of the newest event exactly if
it is a copy of it. -/
theorem Orderly.id_eq_iff_identity_eq
    {last : Event}
    (orderly : Orderly batch)
    (isNewest : IsNewest batch newest)
    (ends : EndsMerge batch last) :
    last.id = newest.id ↔ last.identity = newest.identity := by
  rw [identity_eq_iff]
  constructor
  · intro sameId
    cases named : newest.hasId with
    | true =>
        left
        exact ⟨by rw [hasId, sameId, ← hasId, named], sameId⟩
    | false =>
        right
        apply orderly.endsMerge_unique ends
        exact isNewest.endsMerge (isEarliest_of_nameless isNewest.present named)
  · rintro (⟨-, sameId⟩ | rfl)
    · exact sameId
    · rfl

/-- The newest event held ends the merge with a batch of older events that are no copies of it. -/
theorem endsMerge_of_older
    (settles : Settled held)
    (isTop : held.getLast? = some top)
    (older : ∀ event ∈ batch, event.order top = .lt)
    (noCopies : top.hasId = true → ∀ event ∈ batch, event.id ≠ top.id) :
    EndsMerge (held ++ batch) top := by
  have topHeld := List.mem_of_getLast? isTop
  have topIn : top ∈ held ++ batch := List.mem_append_left batch topHeld
  refine ⟨⟨topIn, ?_⟩, ?_⟩
  · intro copy copyIn same
    rcases List.mem_append.mp copyIn with inHeld | inBatch
    · rw [settles.eq_of_identity inHeld topHeld same, order_self]
      decide
    · rcases (identity_eq_iff top copy).mp same.symm with ⟨named, sameId⟩ | rfl
      · exact absurd sameId.symm (noCopies named copy inBatch)
      · rw [order_self]
        decide
  · intro other earliest
    rcases List.mem_append.mp earliest.present with inHeld | inBatch
    · exact order_last settles.ascending.arranged isTop inHeld
    · rw [older other inBatch]
      decide

end

end Event

namespace Timeline

/-- The direction of a batch that is not empty is guessed from the ids of its newest event and of
the event that ends the merge.  Nothing being held, it is toward the present exactly if the latter
is a copy of the former, and so if the newest event is its own earliest copy.  If all events of the
batch come before the newest one held and none has its id, then that one ends the merge, and the
direction is into history exactly if it or the newest of the batch has an id. -/
theorem insert_guesses
    {given : Json → Prop}
    {timeline : Timeline}
    {batch : List Event}
    (told : Json.ToldByTexts given)
    (reached : timeline.Reached given)
    (gives : ∀ event ∈ batch, given event.content)
    (nonempty : batch ≠ [])
    (arrival : Arrival)
    (clock : Timestamp) :
    let direction := (timeline.insert arrival clock batch).1.direction
    let completed := timeline.completeBatch arrival batch
    ∃ newest last, Event.IsNewest completed newest ∧
      Event.EndsMerge (timeline.events ++ completed) last ∧
      direction = some (if last.id = newest.id then .forward else .backward) ∧
      (timeline.events = [] →
        (direction = some .forward ↔ last.identity = newest.identity) ∧
        (Event.IsEarliest completed newest → direction = some .forward)) ∧
      ∀ top ∈ timeline.events.getLast?,
        (∀ event ∈ completed, event.order top = .lt) →
          (top.hasId = true → ∀ event ∈ completed, event.id ≠ top.id) →
            last = top ∧
              (direction = some .backward ↔ top.hasId = true ∨ newest.hasId = true) := by
  intro direction completed
  let insertion : Insertion := .arriving arrival clock batch
  have keeps := reached.keeps told
  have settles := keeps.kept.settles
  have orderly : Event.Orderly (timeline.events ++ insertion.entering timeline.room) :=
    keeps.orderly told gives
  have batchOrderly := orderly.subset (List.subset_append_right timeline.events completed)
  have enters : completed ≠ [] := fun nothing => nonempty (List.map_eq_nil_iff.mp nothing)
  obtain ⟨first, firstIn⟩ := List.exists_mem_of_ne_nil _ enters
  obtain ⟨newest, -, isNewest⟩ := batchOrderly.exists_isNewest firstIn
  obtain ⟨last, isLast, ends⟩ :=
    orderly.exists_endsMerge (List.mem_append_right timeline.events firstIn)
  have growth : direction = some (timeline.growth insertion) :=
    applyTo_direction orderly settles nonempty
  have guess : direction = some (if last.id = newest.id then .forward else .backward) :=
    growth.trans (congrArg some (batchOrderly.directionOf_eq isNewest isLast))
  have forward : direction = some .forward ↔ last.id = newest.id := by
    rw [guess]
    by_cases sameId : last.id = newest.id <;> simp [sameId]
  have backward : direction = some .backward ↔ last.id ≠ newest.id := by
    rw [guess]
    by_cases sameId : last.id = newest.id <;> simp [sameId]
  refine ⟨newest, last, isNewest, ends, guess, ?_, ?_⟩
  · intro nothingHeld
    have endsBatch : Event.EndsMerge completed last := by
      rw [nothingHeld, List.nil_append] at ends
      exact ends
    refine ⟨forward.trans (batchOrderly.id_eq_iff_identity_eq isNewest endsBatch), ?_⟩
    intro earliest
    rw [forward, batchOrderly.endsMerge_unique endsBatch (isNewest.endsMerge earliest)]
  · intro top isTop older noCopies
    obtain rfl := orderly.endsMerge_unique ends
      (Event.endsMerge_of_older settles isTop older noCopies)
    refine ⟨rfl, ?_⟩
    rw [backward]
    cases named : last.hasId with
    | true => simpa using (noCopies named newest isNewest.present).symm
    | false =>
        -- the empty id tells this event from those of the batch that have one
        have noId : last.id = "" := by simpa [Event.hasId] using named
        rw [noId, ne_comm]
        simp [Event.hasId]

/-- A message in two copies, the later of which was stamped on arrival, and one between them. -/
def restampedBatch : List Event := [
  { Event.bare "$a" "m.room.message" with sentAt := some 5 },
  { Event.bare "$b" "m.room.message" with sentAt := some 7 },
  Event.bare "$a" "m.room.message"]

/-- A message without an id. -/
def namelessMessage (sentAt : Timestamp) : Event :=
  { Event.bare "" "m.room.message" with sentAt := some sentAt }

theorem insert_guesses_restampedBatch :
    (let completed := (empty 1 ⟨0, true⟩ none).completeBatch (.atTime 9) restampedBatch
    ∃ newest last, Event.IsNewest completed newest ∧ Event.EndsMerge completed last ∧
      last.identity ≠ newest.identity) ∧
    let held := ((empty 1 ⟨0, true⟩ none).insert (.atTime 9) 100 restampedBatch).2
    (held.insert (.atTime 9) 101 [namelessMessage 3]).1.direction = some .backward := by
  let given := Event.GivenBy (restampedBatch ++ [namelessMessage 3])
  have told : Json.ToldByTexts given := Event.TextsTellContents.toldByTexts (by decide)
  have gives : ∀ event ∈ restampedBatch, given event.content :=
    fun event present => Event.givenBy_of_mem (List.mem_append_left _ present)
  have atFirst : (empty 1 ⟨0, true⟩ none).Reached given := .empty 1 ⟨0, true⟩ none
  refine ⟨?_, ?_⟩
  · obtain ⟨newest, last, isNewest, ends, -, intoEmpty, -⟩ :=
      insert_guesses told atFirst gives (by decide) (.atTime 9) 100
    refine ⟨newest, last, isNewest, ends, fun same => ?_⟩
    have forward := (intoEmpty rfl).1.mpr same
    revert forward
    decide
  · intro held
    have reached : held.Reached given :=
      .applyTo atFirst (.arriving (.atTime 9) 100 restampedBatch) gives
    obtain ⟨newest, last, -, -, -, -, afterOlder⟩ :=
      insert_guesses told reached
        (fun event present => Event.givenBy_of_mem (List.mem_append_right restampedBatch present))
        (List.cons_ne_nil (namelessMessage 3) []) (.atTime 9) 101
    exact (afterOlder { Event.bare "$b" "m.room.message" with sentAt := some 7 }
      (by decide) (by decide) (by decide)).2.mpr (Or.inl (by decide))

/-- Copies of its newest event make a batch into an empty timeline count as growth into history, and
an older message without an id counts as growth toward the present after another one. -/
theorem insert_guesses_wrongly :
    ((empty 1 ⟨0, true⟩ none).insert (.atTime 9) 100 restampedBatch).1.direction =
      some .backward ∧
    let held := ((empty 2 ⟨0, true⟩ none).insert (.atTime 9) 100 [namelessMessage 30]).2
    held.events.getLast? = some (namelessMessage 30) ∧
    held.completeBatch (.atTime 9) [namelessMessage 10] = [namelessMessage 10] ∧
    (namelessMessage 10).order (namelessMessage 30) = .lt ∧
    (namelessMessage 30).hasId = false ∧
    (held.insert (.atTime 9) 101 [namelessMessage 10]).1.direction = some .forward := by
  decide

end Timeline

end RoomHistory
