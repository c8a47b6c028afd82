import RoomHistory.Timeline.Basic

/-!
# Questions about a timeline

Searches run from the newest event to the oldest and name events by their place.  Tallies list
types and servers in the order of their first appearance.
-/

namespace RoomHistory

namespace Timeline

/-- The places of the events that pass a filter, the newest first. -/
def matching (timeline : Timeline) (filter : Event → Nat → Bool) : List Nat :=
  (timeline.events.zipIdx.reverse.filter fun entry => filter entry.1 entry.2).map Prod.snd

/-- The places of newest-first entries whose events pass a filter, until `limit` are found. -/
def scan (filter : Event → Nat → Bool) : Nat → List (Event × Nat) → List Nat
  | 0, _ => []
  | _ + 1, [] => []
  | limit + 1, (event, place) :: older =>
      if filter event place then place :: scan filter limit older
      else scan filter (limit + 1) older

/-- The places of the newest events that pass a filter, at most `limit` of them. -/
def search (timeline : Timeline) (filter : Event → Nat → Bool) (limit : Nat) : List Nat :=
  scan filter limit timeline.events.zipIdx.reverse

/-- The place of the newest event that passes a filter. -/
def newest? (timeline : Timeline) (filter : Event → Nat → Bool) : Option Nat :=
  (timeline.search filter 1).head?

/-- The event at a place. -/
def event? (timeline : Timeline) (place : Nat) : Option Event :=
  timeline.events[place]?

/-- The newest event that passes a filter. -/
def newestEvent? (timeline : Timeline) (filter : Event → Nat → Bool) : Option Event :=
  (timeline.newest? filter).bind timeline.event?

/-- The place of the oldest event with an id. -/
def place? (timeline : Timeline) (id : EventId) : Option Nat :=
  timeline.events.findIdx? (·.id == id)

/-- The oldest event with an id. -/
def find? (timeline : Timeline) (id : EventId) : Option Event :=
  (timeline.place? id).bind timeline.event?

/-- Whether an event with an id is held. -/
def holds (timeline : Timeline) (id : EventId) : Bool :=
  (timeline.place? id).isSome

/-- Whether an event of a type is held. -/
def holdsType (timeline : Timeline) (type : String) : Bool :=
  timeline.events.any (·.hasType type)

/-- How many events meet a condition. -/
def count (timeline : Timeline) (condition : Event → Bool) : Nat :=
  timeline.events.countP condition

/-- The event at the horizon, if not everything is state. -/
def atHorizon? (timeline : Timeline) : Option Event :=
  timeline.event? timeline.horizon

/-- The types of the events held, each once. -/
def types (timeline : Timeline) : List String :=
  (timeline.events.map (·.type)).eraseDups

/-- The servers of the senders, each once. -/
def servers (timeline : Timeline) : List String :=
  (timeline.events.filterMap (·.senderServer?)).eraseDups

/-- The events that a user sent. -/
def sentBy (timeline : Timeline) (user : UserId) : List Event :=
  timeline.events.filter (·.sender == some user)

/-- The events whose sender belongs to a server. -/
def sentFrom (timeline : Timeline) (server : String) : List Event :=
  timeline.events.filter (·.senderServer? == some server)

/-- Counts that sum up a timeline. -/
structure Stats where
  total : Nat
  types : Nat
  state : Nat
  servers : Nat
  horizon : Nat
  deriving DecidableEq

/-- The counts of a timeline. -/
def stats (timeline : Timeline) : Stats where
  total := timeline.length
  types := timeline.types.length
  state := timeline.count (·.isState)
  servers := timeline.servers.length
  horizon := timeline.horizon

end Timeline

end RoomHistory
