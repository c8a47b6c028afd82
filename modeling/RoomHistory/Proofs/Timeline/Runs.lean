import RoomHistory.Proofs.Timeline.Settling
import RoomHistory.Proofs.Timeline.Sweeping
import RoomHistory.Timeline.Insertion

/-!
# Runs of insertions

A timeline grows by insertions only.  An insertion leaves the timeline as it was, or gives it new
events and counts one more change.  Where the events are orderly it never stops: what is held and
what arrives are merged, and the budget is restored.  What each insertion keeps, a run keeps.
-/

namespace RoomHistory

/-- A call that inserts a batch into a timeline. -/
inductive Insertion where
  /-- Events at the time `now`, of which nothing else is known. -/
  | plain (now clock : Timestamp) (batch : List Event)
  /-- Events that arrive in a way that is known. -/
  | arriving (arrival : Arrival) (clock : Timestamp) (batch : List Event)
  /-- Values received from a server. -/
  | raw (arrival : Arrival) (clock : Timestamp) (values : List Json)

namespace Insertion

/-- How the batch arrives. -/
def arrival : Insertion → Arrival
  | .plain now _ _ => .atTime now
  | .arriving arrival _ _ => arrival
  | .raw arrival _ _ => arrival

/-- The time of the change. -/
def clock : Insertion → Timestamp
  | .plain _ clock _ => clock
  | .arriving _ clock _ => clock
  | .raw _ clock _ => clock

/-- The events of the batch. -/
def batch : Insertion → List Event
  | .plain _ _ batch => batch
  | .arriving _ _ batch => batch
  | .raw _ _ values => Timeline.received values

/-- Makes the call. -/
def applyTo (timeline : Timeline) : Insertion → Outcome × Timeline
  | .plain now clock batch => timeline.insert (.atTime now) clock batch
  | .arriving arrival clock batch => timeline.insert arrival clock batch
  | .raw arrival clock values => timeline.insertValues arrival clock values

/-- The events of the batch as they enter a timeline of a room. -/
def entering (room : Option RoomId) (insertion : Insertion) : List Event :=
  insertion.batch.map (Event.complete (insertion.arrival.orRoom room))

/-- The events of several batches. -/
def offered (insertions : List Insertion) : List Event :=
  insertions.flatMap batch

/-- The events of several batches as they enter a timeline of a room. -/
def allEntering (room : Option RoomId) (insertions : List Insertion) : List Event :=
  insertions.flatMap (entering room)

theorem applyTo_snd (timeline : Timeline) (insertion : Insertion) :
    (insertion.applyTo timeline).2 =
      (timeline.insert insertion.arrival insertion.clock insertion.batch).2 := by
  cases insertion with
  | plain now clock batch => rfl
  | arriving arrival clock batch => rfl
  | raw arrival clock values => rw [applyTo, Timeline.insertValues_eq]; rfl

/-- Values that are no events only show in how many were skipped. -/
theorem applyTo_fst (timeline : Timeline) (insertion : Insertion) :
    ∃ skipped, (insertion.applyTo timeline).1 =
      { (timeline.insert insertion.arrival insertion.clock insertion.batch).1 with
        skipped := skipped } := by
  cases insertion with
  | plain now clock batch => exact ⟨_, rfl⟩
  | arriving arrival clock batch => exact ⟨_, rfl⟩
  | raw arrival clock values =>
      rw [applyTo, Timeline.insertValues_eq]
      exact ⟨_, rfl⟩

end Insertion

namespace Timeline

/-- The timeline after several insertions. -/
def insertAll (timeline : Timeline) : List Insertion → Timeline
  | [] => timeline
  | insertion :: later => (insertion.applyTo timeline).2.insertAll later

/-- What several insertions did, one after another. -/
def outcomes (timeline : Timeline) : List Insertion → List Outcome
  | [] => []
  | insertion :: later =>
      (insertion.applyTo timeline).1 :: (insertion.applyTo timeline).2.outcomes later

/-- The outcome of a merge that is accepted, and the timeline after it. -/
def accepted (timeline : Timeline) (clock : Timestamp) (batch merged : List Event) :
    Outcome × Timeline :=
  let added := merged.length - timeline.length
  let direction := directionOf merged batch
  let kept := restoreBudget timeline.policy.limit direction merged
  let changed := { timeline with events := kept }.stamp clock
  ({ added := added
     duplicates := batch.length - added
     skipped := 0
     trimmed := merged.length - kept.length
     direction := some direction
     generation := changed.generation
     failed := false }, changed)

/-- A merge is accepted unless there are fewer events than were held. -/
theorem accept?_eq
    (timeline : Timeline)
    (clock : Timestamp)
    (batch merged : List Event) :
    timeline.accept? clock batch merged =
      if merged.length < timeline.length then none
      else some (timeline.accepted clock batch merged) := by
  obtain ⟨removed, trims, counts⟩ :=
    trim?_eq timeline.policy.limit (directionOf merged batch) merged
  simp only [accept?, trims, accepted, ← counts, Nat.add_sub_cancel]
  rfl

/-- What an insertion can do: nothing, as there are no events; or it stops, as they cannot be
merged or there are fewer than were held; or else it accepts what was merged. -/
theorem insert_cases
    (timeline : Timeline)
    (arrival : Arrival)
    (clock : Timestamp)
    (batch : List Event) :
    (batch = [] ∧ timeline.insert arrival clock batch = (.idle timeline.generation, timeline)) ∨
      ((∀ arranged merged,
          timeline.merged? (timeline.completeBatch arrival batch) = some (arranged, merged) →
          merged.length < timeline.length) ∧
        timeline.insert arrival clock batch = (.failure timeline.generation, timeline)) ∨
      ∃ arranged merged,
        timeline.merged? (timeline.completeBatch arrival batch) = some (arranged, merged) ∧
        timeline.length ≤ merged.length ∧
        timeline.insert arrival clock batch = timeline.accepted clock arranged merged := by
  by_cases nothing : batch = []
  · rw [nothing]
    exact Or.inl ⟨rfl, rfl⟩
  · right
    rw [timeline.insert_of_ne_nil arrival clock nothing, insertCompleted]
    cases success : timeline.merged? (timeline.completeBatch arrival batch) with
    | none => exact Or.inl ⟨fun _ _ merges => (Option.some_ne_none _ merges.symm).elim, rfl⟩
    | some result =>
        obtain ⟨arranged, merged⟩ := result
        dsimp only
        rw [accept?_eq]
        split
        · next fewer =>
            refine Or.inl ⟨fun _ _ merges => ?_, rfl⟩
            obtain ⟨-, rfl⟩ := Prod.mk.inj (Option.some.inj merges)
            exact fewer
        · next enough => exact Or.inr ⟨arranged, merged, rfl, Nat.not_lt.mp enough, rfl⟩

/-- An insertion leaves a timeline as it was, or the timeline has accepted what was merged. -/
theorem applyTo_cases (timeline : Timeline) (insertion : Insertion) :
    (insertion.applyTo timeline).2 = timeline ∨
      ∃ arranged merged,
        timeline.merged? (insertion.entering timeline.room) = some (arranged, merged) ∧
        (insertion.applyTo timeline).2 =
          (timeline.accepted insertion.clock arranged merged).2 := by
  rw [Insertion.applyTo_snd]
  rcases timeline.insert_cases insertion.arrival insertion.clock insertion.batch with
    ⟨-, idle⟩ | ⟨-, failure⟩ | ⟨arranged, merged, success, -, accepts⟩
  · exact Or.inl (congrArg Prod.snd idle)
  · exact Or.inl (congrArg Prod.snd failure)
  · exact Or.inr ⟨arranged, merged, success, congrArg Prod.snd accepts⟩

/-- What was merged is what is left of the events, arranged, without repeats. -/
theorem arranges_of_merged?
    {timeline : Timeline}
    {completed batch merged : List Event}
    (merges : timeline.merged? completed = some (batch, merged)) :
    arrange? completed = some batch ∧
      ∃ arranged, arrange? (timeline.events ++ batch) = some arranged ∧
        merged = distinct arranged := by
  obtain ⟨arrangedBatch, arrangesBatch, mergesThen⟩ := Option.bind_eq_some_iff.mp merges
  obtain ⟨found, mergesFound, same⟩ := Option.bind_eq_some_iff.mp mergesThen
  cases same
  obtain ⟨arranged, arranges, rfl⟩ := Option.map_eq_some_iff.mp mergesFound
  exact ⟨arrangesBatch, arranged, arranges, rfl⟩

@[simp] theorem applyTo_policy (timeline : Timeline) (insertion : Insertion) :
    (insertion.applyTo timeline).2.policy = timeline.policy := by
  rcases timeline.applyTo_cases insertion with same | ⟨_, _, -, changed⟩
  · rw [same]
  · rw [changed, accepted, stamp]

@[simp] theorem applyTo_room (timeline : Timeline) (insertion : Insertion) :
    (insertion.applyTo timeline).2.room = timeline.room := by
  rcases timeline.applyTo_cases insertion with same | ⟨_, _, -, changed⟩
  · rw [same]
  · rw [changed, accepted, stamp]

/-- Orderly events that arrive can be arranged and merged with those held. -/
theorem merged?_of_orderly
    {timeline : Timeline}
    {completed : List Event}
    (orderly : Event.Orderly (timeline.events ++ completed)) :
    timeline.merged? completed =
      some (Sorting.byInsertion Event.precedes completed,
        settled (timeline.events ++ completed)) := by
  have completedOrderly := orderly.subset (List.subset_append_right timeline.events _)
  have rearranged := Sorting.byInsertion_perm Event.precedes completed
  have sameEvents : ∀ event,
      event ∈ timeline.events ++ Sorting.byInsertion Event.precedes completed ↔
        event ∈ timeline.events ++ completed := fun event =>
    (rearranged.append_left timeline.events).mem_iff
  have arrangedOrderly := orderly.subset fun event => (sameEvents event).mp
  rw [merged?, arrange?_of_orderly completedOrderly]
  show (merge? _ _).bind (fun merged => some (_, merged)) = _
  rw [arrangedOrderly.merge?_eq, arrangedOrderly.settled_congr sameEvents]
  rfl

theorem insert_of_orderly
    (timeline : Timeline)
    (arrival : Arrival)
    (clock : Timestamp)
    {batch : List Event}
    (nonempty : batch ≠ [])
    (orderly : Event.Orderly (timeline.events ++ timeline.completeBatch arrival batch))
    (settles : Settled timeline.events) :
    timeline.insert arrival clock batch =
      timeline.accepted clock
        (Sorting.byInsertion Event.precedes (timeline.completeBatch arrival batch))
        (settled (timeline.events ++ timeline.completeBatch arrival batch)) := by
  have longEnough : timeline.length ≤
      (settled (timeline.events ++ timeline.completeBatch arrival batch)).length :=
    orderly.length_le_length_settled settles
  rw [timeline.insert_of_ne_nil arrival clock nonempty, insertCompleted,
    merged?_of_orderly orderly]
  dsimp only
  rw [accept?_eq, if_neg (Nat.not_lt.mpr longEnough)]
  rfl

/-- Which way a timeline grows by an insertion of orderly events. -/
def growth (timeline : Timeline) (insertion : Insertion) : Direction :=
  directionOf (settled (timeline.events ++ insertion.entering timeline.room))
    (Sorting.byInsertion Event.precedes (insertion.entering timeline.room))

/-- What an insertion of orderly events does: nothing if there are none, and otherwise it merges
them and restores the budget. -/
theorem applyTo_of_orderly
    {timeline : Timeline}
    {insertion : Insertion}
    (orderly : Event.Orderly (timeline.events ++ insertion.entering timeline.room))
    (settles : Settled timeline.events) :
    (insertion.applyTo timeline).1.failed = false ∧
    ((insertion.entering timeline.room = [] ∧ (insertion.applyTo timeline).2 = timeline) ∨
      ((insertion.applyTo timeline).1.direction = some (timeline.growth insertion) ∧
        (insertion.applyTo timeline).2.events =
          restoreBudget timeline.policy.limit (timeline.growth insertion)
            (settled (timeline.events ++ insertion.entering timeline.room)) ∧
        (insertion.applyTo timeline).1.trimmed =
          (settled (timeline.events ++ insertion.entering timeline.room)).length -
            (insertion.applyTo timeline).2.events.length)) := by
  obtain ⟨skipped, outcome⟩ := Insertion.applyTo_fst timeline insertion
  have changed := Insertion.applyTo_snd timeline insertion
  by_cases empty : insertion.batch = []
  · rw [empty, insert_nil] at outcome changed
    refine ⟨by rw [outcome]; rfl, Or.inl ⟨?_, changed⟩⟩
    rw [Insertion.entering, empty, List.map_nil]
  · rw [timeline.insert_of_orderly insertion.arrival insertion.clock empty orderly settles]
      at outcome changed
    rw [outcome, changed]
    exact ⟨rfl, Or.inr ⟨rfl, rfl, rfl⟩⟩

/-- An insertion of orderly events after which none are given up leaves all that were merged. -/
theorem applyTo_events_of_untrimmed
    {timeline : Timeline}
    {insertion : Insertion}
    (orderly : Event.Orderly (timeline.events ++ insertion.entering timeline.room))
    (settles : Settled timeline.events)
    (noneTrimmed : (insertion.applyTo timeline).1.trimmed = 0) :
    (insertion.applyTo timeline).2.events =
      settled (timeline.events ++ insertion.entering timeline.room) := by
  rcases (applyTo_of_orderly orderly settles).2 with ⟨nothing, same⟩ | ⟨-, changed, trimmed⟩
  · rw [nothing, List.append_nil] at orderly ⊢
    rw [same, orderly.settled_eq_self settles]
  · have fewer := restoreBudget_sublist timeline.policy.limit (timeline.growth insertion)
      (settled (timeline.events ++ insertion.entering timeline.room))
    rw [← changed] at fewer
    rw [noneTrimmed] at trimmed
    exact fewer.eq_of_length_le (Nat.le_of_sub_eq_zero trimmed.symm)

theorem insertAll_concat
    (timeline : Timeline)
    (done : List Insertion)
    (insertion : Insertion) :
    timeline.insertAll (done ++ [insertion]) =
      (insertion.applyTo (timeline.insertAll done)).2 := by
  induction done generalizing timeline with
  | nil => rfl
  | cons first rest hypothesis => exact hypothesis (first.applyTo timeline).2

@[simp] theorem insertAll_policy (timeline : Timeline) (insertions : List Insertion) :
    (timeline.insertAll insertions).policy = timeline.policy := by
  induction insertions generalizing timeline with
  | nil => rfl
  | cons insertion later hypothesis =>
      rw [insertAll, hypothesis, applyTo_policy]

@[simp] theorem insertAll_room (timeline : Timeline) (insertions : List Insertion) :
    (timeline.insertAll insertions).room = timeline.room := by
  induction insertions generalizing timeline with
  | nil => rfl
  | cons insertion later hypothesis =>
      rw [insertAll, hypothesis, applyTo_room]

/-- The outcomes of a run are those of its insertions, each where the ones before it led. -/
theorem mem_outcomes_iff
    (timeline : Timeline)
    (insertions : List Insertion)
    (outcome : Outcome) :
    outcome ∈ timeline.outcomes insertions ↔
      ∃ done insertion, done ++ [insertion] <+: insertions ∧
        outcome = (insertion.applyTo (timeline.insertAll done)).1 := by
  induction insertions generalizing timeline with
  | nil =>
      constructor
      · exact fun present => absurd present List.not_mem_nil
      · rintro ⟨done, insertion, reached, -⟩
        have nothing := List.prefix_nil.mp reached
        simp at nothing
  | cons first later hypothesis =>
      rw [outcomes, List.mem_cons, hypothesis]
      constructor
      · rintro (rfl | ⟨done, insertion, reached, rfl⟩)
        · exact ⟨[], first, List.prefix_append [first] later, rfl⟩
        · exact ⟨first :: done, insertion, List.cons_prefix_cons.mpr ⟨rfl, reached⟩, rfl⟩
      · rintro ⟨done, insertion, reached, rfl⟩
        cases done with
        | nil =>
            obtain ⟨rfl, -⟩ := List.cons_prefix_cons.mp reached
            exact Or.inl rfl
        | cons second rest =>
            obtain ⟨rfl, within⟩ := List.cons_prefix_cons.mp reached
            exact Or.inr ⟨rest, insertion, within, rfl⟩

/-- What every insertion of a run keeps holds all through the run. -/
theorem insertAll_induction
    {motive : List Insertion → Timeline → Prop}
    {timeline : Timeline}
    {insertions done : List Insertion}
    (start : motive [] timeline)
    (step : ∀ done insertion, done ++ [insertion] <+: insertions →
      motive done (timeline.insertAll done) →
        motive (done ++ [insertion]) (insertion.applyTo (timeline.insertAll done)).2)
    (reached : done <+: insertions) :
    motive done (timeline.insertAll done) := by
  induction done using List.reverseRecOn with
  | nil => exact start
  | append_singleton earlier insertion hypothesis =>
      rw [insertAll_concat]
      apply step earlier insertion reached
      exact hypothesis ((List.prefix_append earlier [insertion]).trans reached)

end Timeline

namespace Insertion

theorem allEntering_concat
    (room : Option RoomId)
    (done : List Insertion)
    (insertion : Insertion) :
    allEntering room (done ++ [insertion]) =
      allEntering room done ++ insertion.entering room := by
  simp [allEntering]

theorem allEntering_subset
    {done insertions : List Insertion}
    (reached : done <+: insertions)
    (room : Option RoomId) :
    allEntering room done ⊆ allEntering room insertions := by
  obtain ⟨later, rfl⟩ := reached
  rw [allEntering, allEntering, List.flatMap_append]
  exact List.subset_append_left _ _

/-- The events of an insertion are orderly along with those that entered before it. -/
theorem orderly_entering
    {room : Option RoomId}
    {done insertions : List Insertion}
    {insertion : Insertion}
    (orderly : Event.Orderly (allEntering room insertions))
    (reached : done ++ [insertion] <+: insertions) :
    Event.Orderly (allEntering room done ++ insertion.entering room) := by
  rw [← allEntering_concat]
  exact orderly.subset (allEntering_subset reached room)

/-- The events that enter are orderly if their contents are told by their texts. -/
theorem orderly_allEntering
    {insertions : List Insertion}
    (texts : Event.TextsTellContents (offered insertions))
    (room : Option RoomId) :
    Event.Orderly (allEntering room insertions) := by
  have origin : ∀ event ∈ allEntering room insertions, event.sentAt.isSome = true ∧
      ∃ given ∈ offered insertions, given.content = event.content := by
    intro event present
    obtain ⟨insertion, insertionIn, entered⟩ := List.mem_flatMap.mp present
    obtain ⟨given, givenIn, rfl⟩ := List.mem_map.mp entered
    exact ⟨rfl, given, List.mem_flatMap.mpr ⟨insertion, insertionIn, givenIn⟩, rfl⟩
  refine ⟨fun event present => (origin event present).1, ?_⟩
  intro left leftIn right rightIn _
  obtain ⟨-, givenLeft, givenLeftIn, sameLeft⟩ := origin left leftIn
  obtain ⟨-, givenRight, givenRightIn, sameRight⟩ := origin right rightIn
  rw [← sameLeft, ← sameRight]
  exact texts givenLeft givenLeftIn givenRight givenRightIn

end Insertion

end RoomHistory
