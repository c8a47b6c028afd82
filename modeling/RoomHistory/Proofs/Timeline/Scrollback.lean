import RoomHistory.Proofs.Timeline.Survivors
import RoomHistory.Proofs.Timeline.Window

/-!
# Scrolling back leaves no gaps

Two timelines take the same batches, one of them without a budget.  If the first batch fits the
budget and every later one comes from history, the bounded timeline holds the longest beginning of
the other that keeps to the budget.  What it has given up is newer than all it holds.  A batch
that comes from history is older than the newest event held, so the merge leaves what was given up
at the end, where the bounded timeline would give it up again.
-/

namespace RoomHistory

theorem longestWithin_self
    {limit : Nat}
    {events : List Event}
    (within : budgetUse events ≤ limit) :
    LongestWithin limit events events where
  isPrefix := List.prefix_refl events
  withinBudget := within
  longest _ isPrefix _ := isPrefix.length_le

/-- If the budget had no room for the events at the end, it has none when more of it is used before
them. -/
theorem LongestWithin.append
    {limit : Nat}
    {held merged kept newer : List Event}
    (before : LongestWithin limit (held ++ newer) held)
    (moreUse : budgetUse held ≤ budgetUse merged)
    (left : LongestWithin limit merged kept) :
    LongestWithin limit (merged ++ newer) kept where
  isPrefix := left.isPrefix.trans (List.prefix_append merged newer)
  withinBudget := left.withinBudget
  longest other isPrefix uses := by
    rcases List.prefix_or_prefix_of_prefix isPrefix (List.prefix_append merged newer) with
      within | ⟨further, rfl⟩
    · exact left.longest other within uses
    · have furtherPrefix := (List.prefix_append_right_inj merged).mp isPrefix
      rw [budgetUse_append] at uses
      have noLonger := before.longest (held ++ further)
        ((List.prefix_append_right_inj held).mpr furtherPrefix)
        (by rw [budgetUse_append]; omega)
      have nothing : further = [] := by
        apply List.eq_nil_of_length_eq_zero
        rw [List.length_append] at noLonger
        omega
      rw [nothing, List.append_nil]
      apply left.longest merged (List.prefix_refl merged)
      omega

namespace Event

/-- No event of an arranged list comes after its last. -/
theorem order_last
    {events : List Event}
    {event last : Event}
    (arranged : events.Pairwise fun older newer => older.order newer ≠ .gt)
    (isLast : events.getLast? = some last)
    (present : event ∈ events) :
    event.order last ≠ .gt := by
  obtain ⟨earlier, rfl⟩ := List.getLast?_eq_some_iff.mp isLast
  rcases List.mem_append.mp present with inEarlier | atEnd
  · exact (List.pairwise_append.mp arranged).2.2 event inEarlier last List.mem_cons_self
  · rw [List.mem_singleton.mp atEnd, order_self]
    decide

section

variable {source held batch newer : List Event}

/-- If a merge counts as growth into history, an event that was held is the newest of all. -/
theorem Orderly.exists_newest
    (orderly : Orderly (held ++ batch))
    (unequivocal : Unequivocal (held ++ batch))
    (grows : directionOf (settled (held ++ batch)) (Sorting.byInsertion precedes batch) =
      .backward) :
    ∃ newest ∈ held, ∀ event ∈ held ++ batch, event.order newest ≠ .gt := by
  have otherId : lastId? (settled (held ++ batch)) ≠
      lastId? (Sorting.byInsertion precedes batch) := by
    intro sameId
    rw [directionOf, if_pos sameId] at grows
    cases grows
  have memMerged := unequivocal.mem_settled_iff orderly
  have mergedArranged : (settled (held ++ batch)).Pairwise
      fun older newer => older.order newer ≠ .gt := by
    apply orderly.settled_firstCopies.ascending.imp
    intro older newer before
    rw [before]
    decide
  have batchArranged := (orderly.subset (List.subset_append_right held batch)).byInsertion_pairwise
  have rearranged := Sorting.byInsertion_perm precedes batch
  cases last : (settled (held ++ batch)).getLast? with
  | none =>
      have nothing : held ++ batch = [] := by
        apply List.eq_nil_iff_forall_not_mem.mpr
        intro event present
        rw [← memMerged, List.getLast?_eq_none_iff.mp last] at present
        exact List.not_mem_nil present
      rw [List.append_eq_nil_iff] at nothing
      rw [nothing.1, nothing.2] at otherId
      exact absurd rfl otherId
  | some newest =>
      have greatest : ∀ event ∈ held ++ batch, event.order newest ≠ .gt := fun event present =>
        order_last mergedArranged last ((memMerged event).mpr present)
      have newestIn := (memMerged newest).mp (List.mem_of_getLast? last)
      refine ⟨newest, ?_, greatest⟩
      rcases List.mem_append.mp newestIn with inHeld | inBatch
      · exact inHeld
      · -- then it would be the newest of the batch, and the growth toward the present
        exfalso
        have inArranged := rearranged.mem_iff.mpr inBatch
        obtain ⟨latest, isLatest⟩ :=
          Option.isSome_iff_exists.mp (List.getLast?_isSome.mpr (List.ne_nil_of_mem inArranged))
        have latestIn : latest ∈ held ++ batch := List.mem_append_right held
          (rearranged.mem_iff.mp (List.mem_of_getLast? isLatest))
        have same : newest = latest := orderly.antisymm newestIn latestIn
          (order_last batchArranged isLatest inArranged) (greatest latest latestIn)
        apply otherId
        rw [lastId?, lastId?, last, isLatest, same]

/-- After growth into history the events that were newer than all held still stand at the end. -/
theorem Orderly.settled_append_of_backward
    (orderly : Orderly (source ++ batch))
    (unequivocal : Unequivocal (source ++ batch))
    (split : settled source = held ++ newer)
    (grows : directionOf (settled (held ++ batch)) (Sorting.byInsertion precedes batch) =
      .backward) :
    settled (source ++ batch) = settled (held ++ batch) ++ newer := by
  have fromSource : source ⊆ source ++ batch := List.subset_append_left _ _
  have memSource := (unequivocal.subset fromSource).mem_settled_iff (orderly.subset fromSource)
  rw [split] at memSource
  have within : held ++ batch ⊆ source ++ batch :=
    append_subset_append batch fun event present =>
      (memSource event).mp (List.mem_append_left newer present)
  have newerWithin : newer ⊆ source ++ batch := fun event present =>
    fromSource ((memSource event).mp (List.mem_append_right held present))
  have heldOrderly := orderly.subset within
  have heldUnequivocal := unequivocal.subset within
  obtain ⟨newest, newestIn, greatest⟩ := heldOrderly.exists_newest heldUnequivocal grows
  have ascending := (orderly.subset fromSource).settled_firstCopies.ascending
  rw [split] at ascending
  obtain ⟨-, newerAscending, apart⟩ := List.pairwise_append.mp ascending
  have joined : Ascending (settled (held ++ batch) ++ newer) := by
    apply List.pairwise_append.mpr
    refine ⟨heldOrderly.settled_firstCopies.ascending, newerAscending, ?_⟩
    intro older olderIn later laterIn
    have olderPresent := settled_subset _ olderIn
    rcases heldOrderly.eq_or_lt olderPresent (List.mem_append_left batch newestIn)
      (greatest older olderPresent) with rfl | before
    · exact apart older newestIn later laterIn
    · exact orderly.lt_trans (within olderPresent)
        (within (List.mem_append_left batch newestIn)) (newerWithin laterIn) before
        (apart newest newestIn later laterIn)
  apply Ascending.eq_of_mem_iff orderly.settled_firstCopies.ascending joined orderly
    (settled_subset _)
  intro event
  rw [unequivocal.mem_settled_iff orderly, List.mem_append, List.mem_append,
    heldUnequivocal.mem_settled_iff heldOrderly, ← memSource, List.mem_append, List.mem_append]
  tauto

end

end Event

namespace Timeline

section

variable
  {limit : Nat}
  {source : List Event}
  {room : Option RoomId}
  {timeline : Timeline}
  {insertion : Insertion}

/-- An insertion after which none are given up, into a timeline that holds all, leaves a
beginning. -/
theorem applyTo_longestWithin_of_untrimmed
    (kept : timeline.KeptFrom source)
    (limited : timeline.policy.limit = limit)
    (inRoom : timeline.room = room)
    (bounded : 0 < limit)
    (holds : timeline.events = settled source)
    (orderly : Event.Orderly (source ++ insertion.entering room))
    (noneTrimmed : (insertion.applyTo timeline).1.trimmed = 0) :
    LongestWithin limit (settled (source ++ insertion.entering room))
      (insertion.applyTo timeline).2.events := by
  have stillKept := kept.applyTo inRoom orderly
  subst limited inRoom
  have whole := applyTo_events_of_untrimmed (kept.orderly orderly) kept.settles noneTrimmed
  rw [holds, orderly.settled_settled_append] at whole
  have fits := stillKept.withinBudget
  rw [applyTo_policy] at fits
  rw [← whole]
  exact longestWithin_self (fits bounded)

/-- Growth into history leaves a beginning. -/
theorem applyTo_longestWithin
    (kept : timeline.KeptFrom source)
    (limited : timeline.policy.limit = limit)
    (inRoom : timeline.room = room)
    (bounded : 0 < limit)
    (longest : LongestWithin limit (settled source) timeline.events)
    (orderly : Event.Orderly (source ++ insertion.entering room))
    (unequivocal : Event.Unequivocal (source ++ insertion.entering room))
    (fromHistory : (insertion.applyTo timeline).1.direction ≠ some .forward) :
    LongestWithin limit (settled (source ++ insertion.entering room))
      (insertion.applyTo timeline).2.events := by
  subst limited inRoom
  have arriving := kept.orderly orderly
  obtain ⟨newer, split⟩ := longest.isPrefix
  rcases (applyTo_of_orderly arriving kept.settles).2 with
    ⟨nothing, same⟩ | ⟨direction, changed, -⟩
  · rw [same, nothing, List.append_nil]
    exact longest
  · rw [direction] at fromHistory
    have grows : timeline.growth insertion = .backward := by
      cases growth : timeline.growth insertion with
      | forward => exact absurd (congrArg some growth) fromHistory
      | backward => rfl
    have heldUnequivocal := unequivocal.subset
      (append_subset_append (insertion.entering timeline.room) kept.subset)
    have heldSublist : timeline.events.Sublist
        (settled (timeline.events ++ insertion.entering timeline.room)) := by
      have sublist := heldUnequivocal.settled_sublist arriving (List.subset_append_left _ _)
      have alone := arriving.subset (List.subset_append_left timeline.events _)
      rw [alone.settled_eq_self kept.settles] at sublist
      exact sublist
    rw [changed, grows, restoreBudget_of_pos bounded,
      orderly.settled_append_of_backward unequivocal split.symm grows]
    rw [← split] at longest
    exact longest.append heldSublist.countP_le (evictNewest_longest _ _)

end

/-- The outcome of an insertion that is not the first of a run is among the later ones. -/
theorem mem_tail_outcomes
    {timeline : Timeline}
    {insertions done : List Insertion}
    {first insertion : Insertion}
    (reached : first :: done ++ [insertion] <+: insertions) :
    (insertion.applyTo (timeline.insertAll (first :: done))).1 ∈
      (timeline.outcomes insertions).tail := by
  cases insertions with
  | nil => cases List.prefix_nil.mp reached
  | cons second later =>
      obtain ⟨rfl, within⟩ := List.cons_prefix_cons.mp reached
      exact (mem_outcomes_iff _ _ _).mpr ⟨done, insertion, within, rfl⟩

/-- After every insertion of a run whose first batch fits the budget and whose later ones come from
history, a bounded timeline holds the longest beginning within its budget of what the timeline
without a budget holds. -/
theorem insertAll_scrollback
    (heldTag wholeTag : TimelineTag)
    (heldPolicy wholePolicy : TimelinePolicy)
    (room : Option RoomId)
    (insertions : List Insertion)
    (bounded : 0 < heldPolicy.limit)
    (unlimited : wholePolicy.limit = 0)
    (texts : Event.TextsTellContents (Insertion.offered insertions))
    (unequivocal : Event.Unequivocal (Insertion.allEntering room insertions))
    (firstFits : ∀ outcome ∈ ((empty heldTag heldPolicy room).outcomes insertions).head?,
      outcome.trimmed = 0)
    (fromHistory : ∀ outcome ∈ ((empty heldTag heldPolicy room).outcomes insertions).tail,
      outcome.direction ≠ some .forward)
    (done : List Insertion)
    (reached : done <+: insertions) :
    LongestWithin heldPolicy.limit
      ((empty wholeTag wholePolicy room).insertAll done).events
      ((empty heldTag heldPolicy room).insertAll done).events := by
  have orderly := Insertion.orderly_allEntering texts room
  rw [events_insertAll_of_unlimited wholeTag unlimited orderly reached]
  refine insertAll_induction (motive := fun done timeline =>
    LongestWithin heldPolicy.limit (settled (Insertion.allEntering room done)) timeline.events)
    (longestWithin_self (Nat.zero_le _)) ?_ reached
  intro done insertion further longest
  have kept := keptFrom_insertAll heldTag heldPolicy orderly
    ((List.prefix_append done [insertion]).trans further)
  have limited : ((empty heldTag heldPolicy room).insertAll done).policy.limit =
      heldPolicy.limit := by
    rw [insertAll_policy]
    rfl
  have entered := Insertion.allEntering_subset further room
  rw [Insertion.allEntering_concat] at entered ⊢
  cases done with
  | nil =>
      apply applyTo_longestWithin_of_untrimmed kept limited rfl bounded rfl
        (orderly.subset entered)
      apply firstFits
      obtain ⟨later, rfl⟩ := further
      rfl
  | cons first between =>
      apply applyTo_longestWithin kept limited (insertAll_room _ _) bounded longest
        (orderly.subset entered) (unequivocal.subset entered)
      exact fromHistory _ (mem_tail_outcomes further)

/-- Two messages and the name of their room, and then twice what came before them. -/
def scrollbackRun : List Insertion := [
  .plain 9 100 [
    { Event.bare "$c" "m.room.message" with sentAt := some 30 },
    { Event.bare "$d" "m.room.message" with sentAt := some 40 },
    { Event.state "$n" ⟨"m.room.name", ""⟩ (.ofMembers [("name", .string "den")]) with
      sentAt := some 50 }],
  .plain 9 101 [
    { Event.bare "$b" "m.room.message" with sentAt := some 20 },
    { Event.bare "$c" "m.room.message" with sentAt := some 30 }],
  .plain 9 102 [
    { Event.bare "" "m.room.message" with sentAt := some 10 }]]

theorem insertAll_scrollback_scrollbackRun :
    LongestWithin 2
      ((empty 2 ⟨0, true⟩ none).insertAll scrollbackRun).events
      ((empty 1 ⟨2, true⟩ none).insertAll scrollbackRun).events ∧
    ((empty 1 ⟨2, true⟩ none).insertAll scrollbackRun).events.map (·.id) = ["", "$b"] :=
  ⟨insertAll_scrollback 1 2 ⟨2, true⟩ ⟨0, true⟩ none scrollbackRun (by decide) rfl (by decide)
    (by decide) (by decide) (by decide) scrollbackRun (List.prefix_refl scrollbackRun), by decide⟩

end Timeline

end RoomHistory
