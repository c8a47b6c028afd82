import RoomHistory.CurrentState.Defaults
import RoomHistory.Timeline.Search

/-!
# Current state of a timeline

The state of a type is read off the timeline: the state events of the type are replayed over the
defaults, the oldest first, so that the newest event of each key is the one that stays.
-/

namespace RoomHistory

namespace CurrentState

/-- Files a state event under its key; other events are left out. -/
def replay (state : StateByKey) (event : Event) : StateByKey :=
  match event.stateKey with
  | some key => state.insert key event
  | none => state

/-- The state events of a type, the oldest first. -/
def eventsOf (timeline : Timeline) (type : String) : List Event :=
  (timeline.matching fun event _ => event.isState && event.hasType type).reverse.filterMap
    timeline.event?

/-- The current state of a type. -/
def ofTimeline (timeline : Timeline) (type : String) : StateByKey :=
  (eventsOf timeline type).foldl replay (initial type)

@[simp] theorem replay_of_key {event : Event} {key : String} (hasKey : event.stateKey = some key)
    (state : StateByKey) : replay state event = state.insert key event := by
  simp [replay, hasKey]

end CurrentState

end RoomHistory
