import RoomHistory.Event.Basic

/-!
# Timelines

A timeline holds what is known of one room: its events, oldest first, and a count of its changes.
The horizon is the place of the oldest event that is not a state event; everything before it is
state that outlived the events around it.  The place is remembered for the generation at which it
was last asked for.
-/

namespace RoomHistory

/-- What a timeline may hold and ask for. -/
structure TimelinePolicy where
  /-- The budget of events that are not state events; zero for no budget. -/
  limit : Nat
  /-- Whether to ask for history until the budget is used. -/
  autofill : Bool
  deriving DecidableEq

namespace TimelinePolicy

/-- Sixty-four events, asked for. -/
def standard : TimelinePolicy := ⟨64, true⟩

end TimelinePolicy

/-- Tells one timeline from another. -/
abbrev TimelineTag := Nat

/-- The place of the oldest event that is not a state event, or the end. -/
def horizonOf (events : List Event) : Nat :=
  events.findIdx (!·.isState)

/-- How many events are not state events. -/
def budgetUse (events : List Event) : Nat :=
  events.countP (!·.isState)

/-- The ordered events of one room. -/
structure Timeline where
  tag : TimelineTag
  room : Option RoomId
  policy : TimelinePolicy
  /-- Oldest first. -/
  events : List Event
  /-- How often a batch was merged. -/
  generation : Generation
  /-- When a batch was last merged; zero before that. -/
  changedAt : Timestamp
  /-- The horizon last asked for, and the generation that it belongs to. -/
  horizonMemo : Option (Generation × Nat)

namespace Timeline

/-- A timeline without events. -/
def empty (tag : TimelineTag) (policy : TimelinePolicy) (room : Option RoomId) : Timeline where
  tag := tag
  room := room
  policy := policy
  events := []
  generation := 0
  changedAt := 0
  horizonMemo := none

/-- How many events are held. -/
def length (timeline : Timeline) : Nat :=
  timeline.events.length

/-- How many of them are not state events. -/
def budgetUse (timeline : Timeline) : Nat :=
  RoomHistory.budgetUse timeline.events

/-- The horizon, from memory if it was asked for at this generation. -/
def horizon (timeline : Timeline) : Nat :=
  match timeline.horizonMemo with
  | some (generation, place) =>
      if generation = timeline.generation then place else horizonOf timeline.events
  | none => horizonOf timeline.events

/-- The timeline after its horizon was asked for. -/
def rememberHorizon (timeline : Timeline) : Timeline :=
  { timeline with horizonMemo := some (timeline.generation, timeline.horizon) }

/-- How many events stand at the horizon or behind it. -/
def window (timeline : Timeline) : Nat :=
  timeline.length - timeline.horizon

@[simp] theorem events_empty (tag : TimelineTag) (policy : TimelinePolicy) (room : Option RoomId) :
    (empty tag policy room).events = [] := rfl

@[simp] theorem events_rememberHorizon (timeline : Timeline) :
    timeline.rememberHorizon.events = timeline.events := rfl

@[simp] theorem generation_rememberHorizon (timeline : Timeline) :
    timeline.rememberHorizon.generation = timeline.generation := rfl

/-- Asking for the horizon does not move it. -/
@[simp] theorem horizon_rememberHorizon (timeline : Timeline) :
    timeline.rememberHorizon.horizon = timeline.horizon := by
  simp [rememberHorizon, horizon]

end Timeline

end RoomHistory
