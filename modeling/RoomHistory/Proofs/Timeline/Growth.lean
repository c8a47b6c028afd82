import RoomHistory.Proofs.Timeline.Scrollback
import RoomHistory.Proofs.Timeline.Standing

/-!
# Which way a timeline grows

Nobody says which way a timeline grows.  It is read off from the ids of two events, the newest of
the merge and the newest of the batch.  Where the ids of the batch are new, each to an event of its
own, these two are the same event exactly if the batch reaches beyond all that was held, so the
guess agrees with the order of events.  Events that all have ids of their own are orderly whatever
their contents are, as these are never compared.  The budget then takes events away at the other end: growth
toward the present keeps the newest event of all, and growth into history keeps the oldest.
-/

namespace RoomHistory

/-- A budget that is restored at the oldest end keeps the newest event. -/
theorem getLast?_restoreBudget_forward (limit : Nat) (events : List Event) :
    (restoreBudget limit .forward events).getLast? = events.getLast? := by
  by_cases within : 0 < limit → budgetUse events ≤ limit
  · rw [restoreBudget_of_within within]
  push Not at within
  obtain ⟨bounded, exceeds⟩ := within
  obtain ⟨older, later, rfl, usedOlder, laterTalks⟩ :=
    exists_talking (Nat.sub_le (budgetUse events) limit)
  obtain ⟨front, middle, rfl, usedFront, talks⟩ := exists_talking (Nat.zero_le (budgetUse older))
  have usedMiddle : budgetUse middle = budgetUse (front ++ middle ++ later) - limit := by
    rw [← usedOlder, budgetUse_append front middle, usedFront, Nat.zero_add]
  -- the newest events fill the budget, so the newest of them is not given up
  have filled : later ≠ [] := by
    rintro rfl
    rw [List.append_nil] at usedOlder exceeds
    omega
  rw [restoreBudget_of_pos bounded, ← usedMiddle, List.append_assoc]
  show (evictOldest (budgetUse middle) (front ++ (middle ++ later))).getLast? = _
  rw [evictOldest_append (budgetUse_eq_zero_iff.mp usedFront) talks laterTalks,
    List.getLast?_append_of_ne_nil _ filled, ← List.append_assoc,
    List.getLast?_append_of_ne_nil _ filled]

/-- A budget that is restored at the newest end keeps the oldest event. -/
theorem head?_restoreBudget_backward (limit : Nat) (events : List Event) :
    (restoreBudget limit .backward events).head? = events.head? := by
  rcases Nat.eq_zero_or_pos limit with rfl | bounded
  · rfl
  rw [restoreBudget_of_pos bounded]
  show (evictNewest (budgetUse events - limit) events).head? = events.head?
  have longest := evictNewest_longest limit events
  cases events with
  | nil => rw [List.prefix_nil.mp longest.isPrefix]
  | cons first rest =>
      have oneFits : budgetUse [first] ≤ limit :=
        Nat.le_trans List.countP_le_length bounded
      have notEmpty := longest.longest [first] (List.prefix_append [first] rest) oneFits
      obtain ⟨newer, split⟩ := longest.isPrefix
      rw [← List.head?_append_of_ne_nil _ (List.ne_nil_of_length_pos notEmpty), split]

namespace Event

/-- An event that no other one of some events comes after. -/
structure IsNewest (events : List Event) (event : Event) : Prop where
  present : event ∈ events
  notBefore : ∀ other ∈ events, other.order event ≠ .gt

/-- An event that no other one of some events comes before. -/
structure IsOldest (events : List Event) (event : Event) : Prop where
  present : event ∈ events
  notAfter : ∀ other ∈ events, event.order other ≠ .gt

section

variable {events held batch : List Event} {event left right newest : Event}

theorem IsNewest.congr
    {other : List Event}
    (newest : IsNewest events event)
    (same : ∀ event, event ∈ events ↔ event ∈ other) :
    IsNewest other event where
  present := (same event).mp newest.present
  notBefore later laterIn := newest.notBefore later ((same later).mpr laterIn)

theorem Orderly.newest_unique
    (orderly : Orderly events)
    (leftNewest : IsNewest events left)
    (rightNewest : IsNewest events right) :
    left = right :=
  orderly.antisymm leftNewest.present rightNewest.present
    (rightNewest.notBefore left leftNewest.present) (leftNewest.notBefore right rightNewest.present)

/-- The last event of an arranged list is its newest. -/
theorem exists_last_isNewest
    (arranged : events.Pairwise fun older newer => older.order newer ≠ .gt)
    (present : event ∈ events) :
    ∃ last, events.getLast? = some last ∧ IsNewest events last := by
  obtain ⟨last, isLast⟩ := Option.isSome_iff_exists.mp
    (List.getLast?_isSome.mpr (List.ne_nil_of_mem present))
  exact ⟨last, isLast, List.mem_of_getLast? isLast, fun _ => order_last arranged isLast⟩

theorem Ascending.arranged
    (ascending : Ascending events) :
    events.Pairwise fun older newer => older.order newer ≠ .gt := by
  apply List.Pairwise.imp _ ascending
  intro older newer before
  rw [before]
  decide

/-- The first event of an arranged list is its oldest. -/
theorem exists_head_isOldest
    (arranged : events.Pairwise fun older newer => older.order newer ≠ .gt)
    (present : event ∈ events) :
    ∃ first, events.head? = some first ∧ IsOldest events first := by
  cases events with
  | nil => exact absurd present List.not_mem_nil
  | cons first later =>
      refine ⟨first, rfl, List.mem_cons_self, ?_⟩
      intro other otherIn
      rcases List.mem_cons.mp otherIn with rfl | inLater
      · rw [order_self]
        decide
      · exact (List.pairwise_cons.mp arranged).1 other inLater

/-- Orderly events have a newest one, unless there are none. -/
theorem Orderly.exists_isNewest
    (orderly : Orderly events)
    (present : event ∈ events) :
    ∃ newest, (Sorting.byInsertion precedes events).getLast? = some newest ∧
      IsNewest events newest := by
  have rearranged := Sorting.byInsertion_perm precedes events
  obtain ⟨newest, isLast, isNewest⟩ :=
    exists_last_isNewest orderly.byInsertion_pairwise (rearranged.mem_iff.mpr present)
  exact ⟨newest, isLast, isNewest.congr fun _ => rearranged.mem_iff⟩

/-- Where nothing is replaced a merge ends with the newest event of all. -/
theorem Unequivocal.getLast?_settled
    (unequivocal : Unequivocal events)
    (orderly : Orderly events)
    (present : event ∈ events) :
    ∃ newest, (settled events).getLast? = some newest ∧ IsNewest events newest := by
  have sameEvents := unequivocal.mem_settled_iff orderly
  obtain ⟨newest, isLast, isNewest⟩ := exists_last_isNewest
    orderly.settled_firstCopies.ascending.arranged ((sameEvents event).mpr present)
  exact ⟨newest, isLast, isNewest.congr sameEvents⟩

/-- Where nothing is replaced a merge begins with the oldest event of all. -/
theorem Unequivocal.head?_settled
    (unequivocal : Unequivocal events)
    (orderly : Orderly events)
    (present : event ∈ events) :
    ∃ oldest, (settled events).head? = some oldest ∧ IsOldest events oldest := by
  have sameEvents := unequivocal.mem_settled_iff orderly
  obtain ⟨oldest, isFirst, isOldest⟩ := exists_head_isOldest
    orderly.settled_firstCopies.ascending.arranged ((sameEvents event).mpr present)
  refine ⟨oldest, isFirst, (sameEvents oldest).mp isOldest.present, ?_⟩
  exact fun other otherIn => isOldest.notAfter other ((sameEvents other).mpr otherIn)

/-- Events that are new, each under an id of its own, and settled ones never share an id. -/
theorem unequivocal_append
    (settles : Settled held)
    (distinct : (batch.map (·.id)).Nodup)
    (fresh : ∀ event ∈ batch, ∀ older ∈ held, older.id ≠ event.id) :
    Unequivocal (held ++ batch) := by
  intro left leftIn right rightIn named sameId
  rcases List.mem_append.mp leftIn with leftHeld | leftNew <;>
    rcases List.mem_append.mp rightIn with rightHeld | rightNew
  · exact settles.eq_of_identity leftHeld rightHeld
      ((identity_eq_iff left right).mpr (Or.inl ⟨named, sameId⟩))
  · exact absurd sameId (fresh right rightNew left leftHeld)
  · exact absurd sameId.symm (fresh left leftNew right rightHeld)
  · exact List.inj_on_of_nodup_map distinct leftNew rightNew sameId

/-- The contents of events that all have ids of their own are never compared. -/
theorem Unequivocal.orderly
    (unequivocal : Unequivocal events)
    (timed : ∀ event ∈ events, event.sentAt.isSome = true)
    (named : ∀ event ∈ events, event.hasId = true) :
    Orderly events := by
  refine ⟨timed, fun left leftIn right rightIn alike => ?_⟩
  rw [unequivocal left leftIn right rightIn (named left leftIn) alike.id]
  simp [Json.beq_self]

/-- The ids of the newest event of a merge and of the batch tell which way it grew. -/
theorem Orderly.directionOf_eq
    {merged : List Event}
    {last : Event}
    (orderly : Orderly batch)
    (isNewest : IsNewest batch newest)
    (isLast : merged.getLast? = some last) :
    directionOf merged (Sorting.byInsertion precedes batch) =
      if last.id = newest.id then .forward else .backward := by
  obtain ⟨latest, isLatest, latestNewest⟩ := orderly.exists_isNewest isNewest.present
  obtain rfl := orderly.newest_unique latestNewest isNewest
  simp [directionOf, lastId?, isLast, isLatest]

/-- A merge counts as growth toward the present exactly if the newest event of the batch is the
newest of all. -/
theorem Orderly.directionOf_eq_forward_iff
    (orderly : Orderly (held ++ batch))
    (unequivocal : Unequivocal (held ++ batch))
    (isNewest : IsNewest batch newest)
    (named : newest.hasId = true) :
    directionOf (settled (held ++ batch)) (Sorting.byInsertion precedes batch) = .forward ↔
      IsNewest (held ++ batch) newest := by
  have newestIn : newest ∈ held ++ batch := List.mem_append_right held isNewest.present
  have batchOrderly := orderly.subset (List.subset_append_right held batch)
  obtain ⟨last, isLast, lastNewest⟩ := unequivocal.getLast?_settled orderly newestIn
  rw [batchOrderly.directionOf_eq isNewest isLast]
  constructor
  · intro forward
    have sameId : last.id = newest.id := by
      by_contra differs
      rw [if_neg differs] at forward
      cases forward
    rw [unequivocal newest newestIn last lastNewest.present named sameId.symm]
    exact lastNewest
  · intro newestOfAll
    rw [orderly.newest_unique lastNewest newestOfAll, if_pos rfl]

/-- The newest event of a batch is the newest of all exactly if nothing was held or the last event
that was held comes before it. -/
theorem Orderly.isNewest_append_iff
    (orderly : Orderly (held ++ batch))
    (ascending : Ascending held)
    (isNewest : IsNewest batch newest)
    (unheld : newest ∉ held) :
    IsNewest (held ++ batch) newest ↔
      held = [] ∨ ∃ last ∈ held.getLast?, last.order newest = .lt := by
  have newestIn : newest ∈ held ++ batch := List.mem_append_right held isNewest.present
  cases isLast : held.getLast? with
  | none =>
      rw [List.getLast?_eq_none_iff] at isLast
      rw [isLast, List.nil_append]
      simp [isNewest]
  | some last =>
      have lastIn := List.mem_of_getLast? isLast
      have lastGiven : last ∈ held ++ batch := List.mem_append_left batch lastIn
      have before : IsNewest (held ++ batch) newest ↔ last.order newest = .lt := by
        constructor
        · intro newestOfAll
          rcases orderly.eq_or_lt lastGiven newestIn (newestOfAll.notBefore last lastGiven) with
            rfl | before
          · exact absurd lastIn unheld
          · exact before
        · intro before
          refine ⟨newestIn, ?_⟩
          intro other otherIn
          rcases List.mem_append.mp otherIn with inHeld | inBatch
          · apply orderly.not_gt_trans otherIn lastGiven newestIn
              (order_last ascending.arranged isLast inHeld)
            rw [before]
            decide
          · exact isNewest.notBefore other inBatch
      rw [before]
      simp [List.ne_nil_of_mem lastIn]

end

end Event

/-- The events that enter carry the ids of the batch. -/
theorem Insertion.exists_id_of_entering
    {insertion : Insertion}
    {room : Option RoomId}
    {event : Event}
    (entered : event ∈ insertion.entering room) :
    ∃ given ∈ insertion.batch, given.id = event.id := by
  obtain ⟨given, givenIn, rfl⟩ := List.mem_map.mp entered
  exact ⟨given, givenIn, rfl⟩

/-- Events that had ids have them when they enter. -/
theorem Insertion.hasId_of_entering
    {insertion : Insertion}
    {room : Option RoomId}
    (named : ∀ event ∈ insertion.batch, event.hasId = true) :
    ∀ event ∈ insertion.entering room, event.hasId = true := by
  intro event entered
  obtain ⟨given, givenIn, sameId⟩ := Insertion.exists_id_of_entering entered
  rw [Event.hasId, ← sameId]
  exact named given givenIn

namespace Timeline

section

variable {timeline : Timeline} {insertion : Insertion} {event newest : Event}

/-- An insertion of orderly events tells which way the timeline grows. -/
theorem applyTo_direction
    (orderly : Event.Orderly (timeline.events ++ insertion.entering timeline.room))
    (settles : Settled timeline.events)
    (nonempty : insertion.batch ≠ []) :
    (insertion.applyTo timeline).1.direction = some (timeline.growth insertion) := by
  rcases (applyTo_of_orderly orderly settles).2 with ⟨nothing, -⟩ | ⟨direction, -, -⟩
  · exact absurd (List.map_eq_nil_iff.mp nothing) nonempty
  · exact direction

/-- An event that enters under a new id is not held, nor any other under its id. -/
theorem id_ne_of_entering
    (entered : event ∈ insertion.entering timeline.room)
    (fresh : ∀ event ∈ insertion.batch, timeline.holds event.id = false) :
    ∀ held ∈ timeline.events, held.id ≠ event.id := by
  intro held heldIn sameId
  obtain ⟨given, givenIn, sameGiven⟩ := Insertion.exists_id_of_entering entered
  have isHeld := (timeline.holds_iff given.id).mpr ⟨held, heldIn, sameId.trans sameGiven.symm⟩
  rw [fresh given givenIn] at isHeld
  cases isHeld

/-- The events of a batch whose ids are new, each to an event of its own, are told from each other
and from those held by their ids. -/
theorem unequivocal_entering
    (settles : Settled timeline.events)
    (distinct : (insertion.batch.map (·.id)).Nodup)
    (fresh : ∀ event ∈ insertion.batch, timeline.holds event.id = false) :
    Event.Unequivocal (timeline.events ++ insertion.entering timeline.room) := by
  apply Event.unequivocal_append settles
  · rw [Insertion.entering, List.map_map]
    exact distinct
  · exact fun event entered => id_ne_of_entering entered fresh

/-- A batch of events with ids has a newest one, and that has an id too. -/
theorem exists_newest_entering
    (orderly : Event.Orderly (timeline.events ++ insertion.entering timeline.room))
    (nonempty : insertion.batch ≠ [])
    (named : ∀ event ∈ insertion.batch, event.hasId = true) :
    ∃ newest, Event.IsNewest (insertion.entering timeline.room) newest ∧ newest.hasId = true := by
  have enters : insertion.entering timeline.room ≠ [] := fun nothing =>
    nonempty (List.map_eq_nil_iff.mp nothing)
  obtain ⟨first, firstIn⟩ := List.exists_mem_of_ne_nil _ enters
  have batchOrderly := orderly.subset (List.subset_append_right timeline.events _)
  obtain ⟨newest, -, isNewest⟩ := batchOrderly.exists_isNewest firstIn
  exact ⟨newest, isNewest, Insertion.hasId_of_entering named newest isNewest.present⟩

/-- Growth toward the present leaves the newest of all events last. -/
theorem KeptFrom.getLast?_applyTo
    (kept : timeline.KeptFrom timeline.events)
    (orderly : Event.Orderly (timeline.events ++ insertion.entering timeline.room))
    (unequivocal : Event.Unequivocal (timeline.events ++ insertion.entering timeline.room))
    (grows : timeline.growth insertion = .forward)
    (isNewest : Event.IsNewest (timeline.events ++ insertion.entering timeline.room) newest) :
    (insertion.applyTo timeline).2.events.getLast? = some newest := by
  obtain ⟨last, isLast, lastNewest⟩ := unequivocal.getLast?_settled orderly isNewest.present
  rw [kept.applyTo_events orderly, grows, getLast?_restoreBudget_forward, isLast,
    orderly.newest_unique lastNewest isNewest]

/-- Growth into history leaves the oldest of all events first. -/
theorem KeptFrom.head?_applyTo
    (kept : timeline.KeptFrom timeline.events)
    (orderly : Event.Orderly (timeline.events ++ insertion.entering timeline.room))
    (unequivocal : Event.Unequivocal (timeline.events ++ insertion.entering timeline.room))
    (grows : timeline.growth insertion = .backward)
    (present : event ∈ timeline.events ++ insertion.entering timeline.room) :
    ∃ oldest, (insertion.applyTo timeline).2.events.head? = some oldest ∧
      Event.IsOldest (timeline.events ++ insertion.entering timeline.room) oldest := by
  obtain ⟨oldest, isFirst, isOldest⟩ := unequivocal.head?_settled orderly present
  refine ⟨oldest, ?_, isOldest⟩
  rw [kept.applyTo_events orderly, grows, head?_restoreBudget_backward, isFirst]

end

/-- A batch of new ids, each to an event of its own, is growth toward the present exactly if nothing
was held or the last event that was held comes before the newest of the batch, and otherwise growth
into history.  Growth toward the present leaves the newest event of the batch last, and growth into
history leaves the oldest of all events first. -/
theorem insert_grows
    {given : Json → Prop}
    {timeline : Timeline}
    {batch : List Event}
    (reached : timeline.Reached given)
    (heldNamed : ∀ event ∈ timeline.events, event.hasId = true)
    (nonempty : batch ≠ [])
    (named : ∀ event ∈ batch, event.hasId = true)
    (distinct : (batch.map (·.id)).Nodup)
    (fresh : ∀ event ∈ batch, timeline.holds event.id = false)
    (arrival : Arrival)
    (clock : Timestamp) :
    let outcome := (timeline.insert arrival clock batch).1
    let changed := (timeline.insert arrival clock batch).2
    let completed := timeline.completeBatch arrival batch
    ∃ newest, Event.IsNewest completed newest ∧
      (outcome.direction = some .forward ∨ outcome.direction = some .backward) ∧
      (outcome.direction = some .forward ↔
        timeline.events = [] ∨ ∃ last ∈ timeline.events.getLast?, last.order newest = .lt) ∧
      (outcome.direction = some .forward → changed.events.getLast? = some newest) ∧
      (outcome.direction = some .backward →
        ∃ oldest, changed.events.head? = some oldest ∧
          Event.IsOldest (timeline.events ++ completed) oldest) := by
  intro outcome changed completed
  let insertion : Insertion := .arriving arrival clock batch
  have stands := reached.stands
  have kept := stands.keptFrom heldNamed
  have settles := kept.settles
  have unequivocal : Event.Unequivocal (timeline.events ++ insertion.entering timeline.room) :=
    unequivocal_entering settles distinct fresh
  have orderly : Event.Orderly (timeline.events ++ insertion.entering timeline.room) :=
    unequivocal.orderly
      (List.forall_mem_append.mpr ⟨stands.timed, timed_entering insertion timeline.room⟩)
      (List.forall_mem_append.mpr ⟨heldNamed, Insertion.hasId_of_entering named⟩)
  have direction : outcome.direction = some (timeline.growth insertion) :=
    applyTo_direction orderly settles nonempty
  obtain ⟨newest, isNewest, newestNamed⟩ :=
    exists_newest_entering orderly nonempty named
  have unheld : newest ∉ timeline.events := fun held =>
    id_ne_of_entering isNewest.present fresh newest held rfl
  have forward : timeline.growth insertion = .forward ↔
      Event.IsNewest (timeline.events ++ insertion.entering timeline.room) newest :=
    orderly.directionOf_eq_forward_iff unequivocal isNewest newestNamed
  rw [direction, Option.some_inj, Option.some_inj]
  refine ⟨newest, isNewest, ?_, ?_, ?_, ?_⟩
  · cases timeline.growth insertion with
    | forward => exact Or.inl rfl
    | backward => exact Or.inr rfl
  · rw [forward]
    exact orderly.isNewest_append_iff settles.ascending isNewest unheld
  · intro grows
    exact kept.getLast?_applyTo orderly unequivocal grows (forward.mp grows)
  · intro grows
    exact kept.head?_applyTo orderly unequivocal grows
      (List.mem_append_right _ isNewest.present)

/-- Two messages and the name of their room. -/
def namedRoom : Timeline :=
  (empty 1 ⟨2, true⟩ none).insertAll (scrollbackRun.take 1)

/-- A content that is a zero with a sign. -/
def signedZero (bits : UInt64) : Json :=
  .object [("n", .number (.float ⟨bits⟩))]

/-- Messages from before the room was named; their contents are equal and written differently. -/
def olderMessages : List Event := [
  { Event.bare "$b" "m.room.message" with
    sentAt := some 20, content := signedZero 0x8000000000000000 },
  { Event.bare "$a" "m.room.message" with sentAt := some 10, content := signedZero 0 }]

/-- Messages, one of which does not tell its time. -/
def newerMessages : List Event := [
  Event.bare "$f" "m.room.message",
  { Event.bare "$e" "m.room.message" with sentAt := some 60 }]

theorem insert_grows_namedRoom :
    ((namedRoom.insert (.atTime 70) 101 olderMessages).1.direction = some .backward ∧
      ∃ oldest, (namedRoom.insert (.atTime 70) 101 olderMessages).2.events.head? = some oldest ∧
        Event.IsOldest (namedRoom.events ++ namedRoom.completeBatch (.atTime 70) olderMessages)
          oldest) ∧
    ((namedRoom.insert (.atTime 70) 101 newerMessages).1.direction = some .forward ∧
      ∃ newest, (namedRoom.insert (.atTime 70) 101 newerMessages).2.events.getLast? =
          some newest ∧
        Event.IsNewest (namedRoom.completeBatch (.atTime 70) newerMessages) newest) := by
  have reached : namedRoom.Reached fun _ => True :=
    reached_insertAll (.empty 1 ⟨2, true⟩ none) fun _ _ => trivial
  have heldNamed : ∀ event ∈ namedRoom.events, event.hasId = true := by decide
  have backward : (namedRoom.insert (.atTime 70) 101 olderMessages).1.direction =
      some .backward := by
    decide
  have forward : (namedRoom.insert (.atTime 70) 101 newerMessages).1.direction =
      some .forward := by
    decide
  obtain ⟨-, -, -, -, -, first⟩ := insert_grows reached heldNamed
    (by decide : olderMessages ≠ []) (by decide) (by decide) (by decide) (.atTime 70) 101
  obtain ⟨newest, isNewest, -, -, last, -⟩ := insert_grows reached heldNamed
    (by decide : newerMessages ≠ []) (by decide) (by decide) (by decide) (.atTime 70) 101
  exact ⟨⟨backward, first backward⟩, forward, newest, last forward, isNewest⟩

end Timeline

end RoomHistory
