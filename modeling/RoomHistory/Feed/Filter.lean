import RoomHistory.Feed.Notice

/-!
# What a subscriber wants

A filter names the rooms and the sorts of changes that a subscriber follows.  Views follow the
choice of rooms alone, and notices about the subscription itself are always wanted.
-/

namespace RoomHistory

/-- The rooms and the sorts of changes that a subscriber follows. -/
structure FeedFilter where
  /-- The rooms followed; all rooms if none are named. -/
  rooms : Option (List RoomId)
  timeline : Bool
  state : Bool
  membership : Bool
  deriving DecidableEq

namespace FeedFilter

/-- Everything. -/
def all : FeedFilter := ⟨none, true, true, true⟩

/-- Everything about some rooms. -/
def only (rooms : List RoomId) : FeedFilter := { all with rooms := some rooms }

/-- The batches that enter timelines. -/
def timelineOnly : FeedFilter := ⟨none, true, false, false⟩

/-- The changes of membership. -/
def membershipOnly : FeedFilter := ⟨none, false, false, true⟩

/-- Whether a room is followed. -/
def follows (filter : FeedFilter) (room : RoomId) : Bool :=
  match filter.rooms with
  | some rooms => rooms.contains room
  | none => true

/-- Whether a notice is wanted. -/
def wants (filter : FeedFilter) : Notice → Bool
  | .inserted change => filter.timeline && filter.follows change.room
  | .stateInvalidated room _ => filter.state && filter.follows room
  | .membership room _ => filter.membership && filter.follows room
  | .view view => filter.follows view.room
  | .caughtUp => true
  | .dropped _ => true

end FeedFilter

/-- What a subscription is made with. -/
structure FeedSettings where
  /-- How many notices may wait; the owner decides if nothing is said. -/
  buffer : Option Nat
  /-- Whether to be told what rooms are like first. -/
  viewsFirst : Bool
  filter : FeedFilter
  deriving DecidableEq

namespace FeedSettings

/-- How many notices may wait where nobody says. -/
def standardBuffer : Nat := 1000

end FeedSettings

end RoomHistory
