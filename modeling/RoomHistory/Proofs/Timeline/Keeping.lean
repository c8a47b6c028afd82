import RoomHistory.Proofs.Timeline.Soundness

/-!
# What timelines keep

A timeline is reached from an empty one by insertions, and its horizon may be asked for at any time.
All that it holds came with some insertion, and the contents of what came are all that is needed to
know that it is in order.  Where contents are told by their texts, whatever was merged, replaced or
evicted on the way, the events held are settled and within the budget.
-/

namespace RoomHistory

/-- Given contents are equal exactly when their compact texts are. -/
def Json.ToldByTexts (given : Json → Prop) : Prop :=
  ∀ left right, given left → given right →
    ((left == right) = true ↔ left.compact = right.compact)

namespace Event

/-- A content that came with some event. -/
def GivenBy (events : List Event) (content : Json) : Prop :=
  ∃ event ∈ events, event.content = content

theorem givenBy_of_mem {events : List Event} {event : Event} (present : event ∈ events) :
    GivenBy events event.content :=
  ⟨event, present, rfl⟩

theorem TextsTellContents.toldByTexts
    {events : List Event}
    (texts : TextsTellContents events) :
    Json.ToldByTexts (GivenBy events) := by
  rintro - - ⟨left, leftIn, rfl⟩ ⟨right, rightIn, rfl⟩
  exact texts left leftIn right rightIn

/-- Every event has a time and a content that was given. -/
structure Granted (given : Json → Prop) (events : List Event) : Prop where
  timed : ∀ event ∈ events, event.sentAt.isSome = true
  contents : ∀ event ∈ events, given event.content

section

variable {given : Json → Prop} {events later : List Event}

theorem Granted.orderly (granted : Granted given events) (told : Json.ToldByTexts given) :
    Orderly events where
  timed := granted.timed
  texts left leftIn right rightIn _ :=
    told left.content right.content (granted.contents left leftIn) (granted.contents right rightIn)

theorem Granted.append (first : Granted given events) (second : Granted given later) :
    Granted given (events ++ later) where
  timed event present := (List.mem_append.mp present).elim (first.timed event) (second.timed event)
  contents event present :=
    (List.mem_append.mp present).elim (first.contents event) (second.contents event)

theorem Granted.subset (granted : Granted given events) (subset : later ⊆ events) :
    Granted given later where
  timed event present := granted.timed event (subset present)
  contents event present := granted.contents event (subset present)

end

end Event

/-- The events that enter are granted if the contents of the batch were given. -/
theorem Insertion.granted_entering
    {given : Json → Prop}
    {insertion : Insertion}
    (gives : ∀ event ∈ insertion.batch, given event.content)
    (room : Option RoomId) :
    Event.Granted given (insertion.entering room) := by
  constructor
  · intro event present
    obtain ⟨offered, -, rfl⟩ := List.mem_map.mp present
    rfl
  · intro event present
    obtain ⟨offered, offeredIn, rfl⟩ := List.mem_map.mp present
    exact gives offered offeredIn

namespace Timeline

/-- The events held come from themselves. -/
theorem KeptFrom.own
    {source : List Event}
    {timeline : Timeline}
    (kept : timeline.KeptFrom source) :
    timeline.KeptFrom timeline.events :=
  ⟨List.Subset.refl _, kept.settles, kept.withinBudget⟩

/-- An insertion leaves what the budget leaves of the merge, also if nothing is inserted. -/
theorem KeptFrom.applyTo_events
    {timeline : Timeline}
    {insertion : Insertion}
    (kept : timeline.KeptFrom timeline.events)
    (orderly : Event.Orderly (timeline.events ++ insertion.entering timeline.room)) :
    (insertion.applyTo timeline).2.events =
      restoreBudget timeline.policy.limit (timeline.growth insertion)
        (settled (timeline.events ++ insertion.entering timeline.room)) := by
  rcases (applyTo_of_orderly orderly kept.settles).2 with ⟨nothing, same⟩ | ⟨-, changed, -⟩
  · rw [nothing, List.append_nil] at orderly ⊢
    rw [same, orderly.settled_eq_self kept.settles, restoreBudget_of_within kept.withinBudget]
  · exact changed

/-- The events held are granted, in order and without repeats, and the budget holds. -/
structure Keeps (given : Json → Prop) (timeline : Timeline) : Prop where
  granted : Event.Granted given timeline.events
  kept : timeline.KeptFrom timeline.events

section

variable {given : Json → Prop} {timeline : Timeline} {insertion : Insertion}

theorem keeps_empty (tag : TimelineTag) (policy : TimelinePolicy) (room : Option RoomId) :
    (empty tag policy room).Keeps given where
  granted := ⟨List.forall_mem_nil _, List.forall_mem_nil _⟩
  kept := keptFrom_empty tag policy room

theorem Keeps.orderly
    (keeps : timeline.Keeps given)
    (told : Json.ToldByTexts given)
    (gives : ∀ event ∈ insertion.batch, given event.content) :
    Event.Orderly (timeline.events ++ insertion.entering timeline.room) :=
  (keeps.granted.append (Insertion.granted_entering gives timeline.room)).orderly told

theorem Keeps.applyTo
    (keeps : timeline.Keeps given)
    (told : Json.ToldByTexts given)
    (gives : ∀ event ∈ insertion.batch, given event.content) :
    (insertion.applyTo timeline).2.Keeps given := by
  have kept := keeps.kept.applyTo rfl (keeps.orderly told gives)
  have granted := keeps.granted.append (Insertion.granted_entering gives timeline.room)
  exact ⟨granted.subset kept.subset, kept.own⟩

theorem Keeps.rememberHorizon (keeps : timeline.Keeps given) :
    timeline.rememberHorizon.Keeps given :=
  ⟨keeps.granted, keeps.kept.subset, keeps.kept.settles, keeps.kept.withinBudget⟩

end

/-- The timelines to which insertions of given contents lead, the horizon being asked for at any
time. -/
inductive Reached (given : Json → Prop) : Timeline → Prop where
  /-- Nothing was inserted yet. -/
  | empty (tag : TimelineTag) (policy : TimelinePolicy) (room : Option RoomId) :
      Reached given (.empty tag policy room)
  /-- A batch was inserted. -/
  | applyTo {timeline : Timeline} (reached : Reached given timeline) (insertion : Insertion)
      (gives : ∀ event ∈ insertion.batch, given event.content) :
      Reached given (insertion.applyTo timeline).2
  /-- The horizon was asked for. -/
  | rememberHorizon {timeline : Timeline} (reached : Reached given timeline) :
      Reached given timeline.rememberHorizon

/-- A timeline that is reached keeps what was given. -/
theorem Reached.keeps
    {given : Json → Prop}
    {timeline : Timeline}
    (reached : timeline.Reached given)
    (told : Json.ToldByTexts given) :
    timeline.Keeps given := by
  induction reached with
  | empty tag policy room => exact keeps_empty tag policy room
  | applyTo reached insertion gives keeps => exact keeps.applyTo told gives
  | rememberHorizon reached keeps => exact keeps.rememberHorizon

/-- A run of insertions reaches where it leads. -/
theorem reached_insertAll
    {given : Json → Prop}
    {timeline : Timeline}
    {insertions : List Insertion}
    (reached : timeline.Reached given)
    (gives : ∀ event ∈ Insertion.offered insertions, given event.content) :
    (timeline.insertAll insertions).Reached given := by
  induction insertions generalizing timeline with
  | nil => exact reached
  | cons insertion later hypothesis =>
      rw [Insertion.offered, List.flatMap_cons, List.forall_mem_append] at gives
      exact hypothesis (reached.applyTo insertion gives.1) gives.2

/-- A run into an empty timeline reaches where it leads with the contents that it offers, and with
more. -/
theorem reached_run
    (tag : TimelineTag)
    (policy : TimelinePolicy)
    (room : Option RoomId)
    (insertions : List Insertion)
    (further : List Event) :
    ((empty tag policy room).insertAll insertions).Reached
      (Event.GivenBy (Insertion.offered insertions ++ further)) :=
  reached_insertAll (.empty tag policy room) fun _ present =>
    Event.givenBy_of_mem (List.mem_append_left further present)

end Timeline

end RoomHistory
