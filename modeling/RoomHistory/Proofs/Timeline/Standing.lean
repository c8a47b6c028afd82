import RoomHistory.Proofs.Sorting.LongLists
import RoomHistory.Proofs.Timeline.Lookups

/-!
# How every timeline stands

Where contents hold zeros of both signs the order of events has cycles, and what a merge leaves then
depends on how events are sorted.  Contents are compared only between events that agree in their
times, rooms and ids, though.  By these three every timeline is in order, whatever was inserted, and
where its events have ids it is in strictly ascending order, as no id is kept twice.
-/

namespace RoomHistory

namespace Event

/-- The parts of events that no cycle can pass through. -/
def leadOrder : Event → Event → Ordering :=
  compareLex (compareOn (·.sentAt)) <|
  compareLex (compareOn (·.room)) (compareOn (·.id))

instance : Std.TransCmp leadOrder := by
  unfold leadOrder
  infer_instance

/-- Events stand by these parts. -/
def StandBy (events : List Event) : Prop :=
  events.Pairwise fun older newer => leadOrder older newer ≠ .gt

section

variable {events : List Event} {left right : Event}

/-- Between events that have a time these parts decide first. -/
theorem order_eq_leadOrder_then
    (leftTimed : left.sentAt.isSome = true)
    (rightTimed : right.sentAt.isSome = true) :
    ∃ further, left.order right = (leadOrder left right).then further := by
  obtain ⟨leftTime, leftTimed⟩ := Option.isSome_iff_exists.mp leftTimed
  obtain ⟨rightTime, rightTimed⟩ := Option.isSome_iff_exists.mp rightTimed
  have time : timeOrder left right = compare left.sentAt right.sentAt := by
    rw [timeOrder, leftTimed, rightTimed]
    rfl
  have regroup (time room id rest : Ordering) :
      time.then (room.then (id.then rest)) = (time.then (room.then id)).then rest := by
    rw [Ordering.then_assoc, Ordering.then_assoc]
  show ∃ further, (timeOrder left right).then (left.ranked.envelopeOrder right.ranked) = _
  rw [time]
  exact ⟨_, regroup _ _ _ _⟩

/-- An event that comes before another by these parts comes before it. -/
theorem order_of_leadOrder
    (leftTimed : left.sentAt.isSome = true)
    (rightTimed : right.sentAt.isSome = true)
    (before : leadOrder left right = .lt) :
    left.order right = .lt := by
  obtain ⟨further, decides⟩ := order_eq_leadOrder_then leftTimed rightTimed
  rw [decides, before]
  rfl

/-- Among events that have a time the order keeps to these parts. -/
theorem ranks_leadOrder
    (timed : ∀ event ∈ events, event.sentAt.isSome = true) :
    Sorting.Ranks Ranked.precedes
      (fun older newer => leadOrder older.event newer.event ≠ .gt) (events.map ranked) where
  trans first second := by
    apply Ordering.isLE_iff_ne_gt.mp
    exact Std.TransCmp.isLE_trans (Ordering.isLE_iff_ne_gt.mpr first)
      (Ordering.isLE_iff_ne_gt.mpr second)
  of_before firstIn secondIn precedes after := by
    obtain ⟨first, firstGiven, rfl⟩ := List.mem_map.mp firstIn
    obtain ⟨second, secondGiven, rfl⟩ := List.mem_map.mp secondIn
    obtain ⟨further, decides⟩ := order_eq_leadOrder_then (timed first firstGiven)
      (timed second secondGiven)
    rw [precedes_ranked, precedes_iff, decides, show leadOrder first second = .gt from after]
      at precedes
    cases precedes
  of_not_before firstIn secondIn notBefore after := by
    obtain ⟨first, firstGiven, rfl⟩ := List.mem_map.mp firstIn
    obtain ⟨second, secondGiven, rfl⟩ := List.mem_map.mp secondIn
    rw [precedes_ranked, precedes_eq_false_iff] at notBefore
    exact notBefore (order_of_leadOrder (timed first firstGiven) (timed second secondGiven)
      (Std.OrientedCmp.lt_of_gt after))

end

end Event

theorem arrange?_subset
    {events arranged : List Event}
    (arranges : arrange? events = some arranged) :
    arranged ⊆ events := by
  obtain ⟨ranked, arrangesRanked, rfl⟩ := Option.map_eq_some_iff.mp arranges
  have rankedIn : ranked ⊆ events.map Event.ranked := by
    simp only [arrangeRanked?] at arrangesRanked
    split at arrangesRanked
    next _ =>
      rw [← Option.some.inj arrangesRanked]
      exact Sorting.byInsertion_subset _
    next _ => exact Sorting.sort?_makesUpNothing _ _ arrangesRanked
  intro event present
  obtain ⟨entry, entryIn, rfl⟩ := List.mem_map.mp present
  obtain ⟨given, givenIn, rfl⟩ := List.mem_map.mp (rankedIn entryIn)
  exact givenIn

/-- However events are sorted, they stand by these parts. -/
theorem arrange?_standBy
    {events arranged : List Event}
    (timed : ∀ event ∈ events, event.sentAt.isSome = true)
    (arranges : arrange? events = some arranged) :
    Event.StandBy arranged := by
  have ranks := Event.ranks_leadOrder timed
  obtain ⟨ranked, arrangesRanked, rfl⟩ := Option.map_eq_some_iff.mp arranges
  refine List.pairwise_map.mpr ?_
  simp only [arrangeRanked?] at arrangesRanked
  split at arrangesRanked
  next _ =>
    rw [← Option.some.inj arrangesRanked]
    exact ranks.byInsertion (List.Subset.refl _)
  next _ => exact ranks.sort? (List.Subset.refl _) arrangesRanked

namespace Timeline

theorem merged?_subset
    {timeline : Timeline}
    {completed batch merged : List Event}
    (merges : timeline.merged? completed = some (batch, merged)) :
    merged ⊆ timeline.events ++ completed := by
  obtain ⟨arrangesBatch, arranged, arranges, rfl⟩ := arranges_of_merged? merges
  refine List.Subset.trans (List.Subset.trans (distinct_subset arranged)
    (arrange?_subset arranges)) (List.append_subset.mpr ⟨?_, ?_⟩)
  · exact List.subset_append_left _ _
  · exact List.Subset.trans (arrange?_subset arrangesBatch) (List.subset_append_right _ _)

/-- An insertion brings nothing but its own events, as they enter. -/
theorem applyTo_subset (timeline : Timeline) (insertion : Insertion) :
    (insertion.applyTo timeline).2.events ⊆
      timeline.events ++ insertion.entering timeline.room := by
  rcases timeline.applyTo_cases insertion with same | ⟨_, merged, merges, changed⟩
  · rw [same]
    exact List.subset_append_left _ _
  · rw [changed]
    exact List.Subset.trans (restoreBudget_sublist _ _ merged).subset (merged?_subset merges)

/-- The events that enter have a time. -/
theorem timed_entering (insertion : Insertion) (room : Option RoomId) :
    ∀ event ∈ insertion.entering room, event.sentAt.isSome = true := by
  intro event entered
  obtain ⟨given, -, rfl⟩ := List.mem_map.mp entered
  rfl

/-- What holds of every timeline, whatever the contents of its events. -/
structure Stands (timeline : Timeline) : Prop where
  timed : ∀ event ∈ timeline.events, event.sentAt.isSome = true
  standBy : Event.StandBy timeline.events
  idsOnce : IdsOnce timeline.events
  withinBudget : 0 < timeline.policy.limit → timeline.budgetUse ≤ timeline.policy.limit

theorem Stands.applyTo
    {timeline : Timeline}
    (stands : timeline.Stands)
    (insertion : Insertion) :
    (insertion.applyTo timeline).2.Stands := by
  have timed : ∀ event ∈ timeline.events ++ insertion.entering timeline.room,
      event.sentAt.isSome = true :=
    List.forall_mem_append.mpr ⟨stands.timed, timed_entering insertion timeline.room⟩
  rcases timeline.applyTo_cases insertion with same | ⟨batch, merged, merges, changed⟩
  · rw [same]
    exact stands
  · obtain ⟨arrangesBatch, arranged, arranges, rfl⟩ := arranges_of_merged? merges
    refine ⟨fun event present => timed event (timeline.applyTo_subset insertion present), ?_,
      idsOnce_applyTo stands.idsOnce insertion, ?_⟩
    · have batchIn := List.append_subset.mpr ⟨List.subset_append_left _ _,
        List.subset_append_of_subset_right timeline.events (arrange?_subset arrangesBatch)⟩
      have arrangedBy := arrange?_standBy (fun event present => timed event (batchIn present))
        arranges
      rw [changed]
      exact (arrangedBy.sublist (distinct_sublist arranged)).sublist
        (restoreBudget_sublist _ _ _)
    · intro bounded
      rw [applyTo_policy] at bounded ⊢
      rw [changed]
      exact budgetUse_restoreBudget_le bounded _ _

/-- So does every timeline stand that is reached. -/
theorem Reached.stands
    {given : Json → Prop}
    {timeline : Timeline}
    (reached : timeline.Reached given) :
    timeline.Stands := by
  induction reached with
  | empty tag policy room =>
      exact ⟨List.forall_mem_nil _, List.Pairwise.nil, List.Pairwise.nil,
        fun _ => Nat.zero_le policy.limit⟩
  | applyTo reached insertion gives stands => exact stands.applyTo insertion
  | rememberHorizon reached stands =>
      exact ⟨stands.timed, stands.standBy, stands.idsOnce, stands.withinBudget⟩

/-- Where all its events have ids, a timeline is in strictly ascending order. -/
theorem Stands.keptFrom
    {timeline : Timeline}
    (stands : timeline.Stands)
    (named : ∀ event ∈ timeline.events, event.hasId = true) :
    timeline.KeptFrom timeline.events := by
  refine ⟨List.Subset.refl _, ⟨?_, ?_⟩, stands.withinBudget⟩
  · refine (stands.standBy.and stands.idsOnce).imp_of_mem ?_
    rintro older newer olderIn newerIn ⟨notAfter, differ⟩
    apply Event.order_of_leadOrder (stands.timed older olderIn) (stands.timed newer newerIn)
    cases comparison : Event.leadOrder older newer with
    | lt => rfl
    | eq =>
        simp only [Event.leadOrder, compareLex_eq_eq, compareOn,
          Std.LawfulEqOrd.compare_eq_iff_eq] at comparison
        exact absurd comparison.2.2 (differ (named older olderIn))
    | gt => exact absurd comparison notAfter
  · refine List.pairwise_map.mpr (stands.idsOnce.imp_of_mem ?_)
    intro older newer olderIn newerIn differ same
    rcases (Event.identity_eq_iff older newer).mp same with ⟨-, sameId⟩ | rfl
    · exact differ (named older olderIn) sameId
    · exact differ (named older olderIn) rfl

end Timeline

end RoomHistory
