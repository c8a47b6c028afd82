import RoomHistory.Event.Basic

/-!
# Completion of arriving events

An event that enters a timeline gets the room and the time it lacks.  An event that tells the local
user's own membership, but not which, gets the membership of the sync that it arrived under.
Nothing that an event already has is changed.
-/

namespace RoomHistory

/-- How a batch of events arrives. -/
structure Arrival where
  /-- The receiving room. -/
  room : Option RoomId
  /-- The local user. -/
  user : Option UserId
  /-- The list of a sync that the room stood in. -/
  action : Option Membership
  /-- The time given to events without one. -/
  now : Timestamp
  deriving DecidableEq

namespace Arrival

/-- An arrival that tells only the time. -/
def atTime (now : Timestamp) : Arrival := ⟨none, none, none, now⟩

/-- The arrival with its room, or the given one where it has none. -/
def orRoom (arrival : Arrival) (room : Option RoomId) : Arrival :=
  { arrival with room := arrival.room.or room }

end Arrival

namespace Event

/-- Whether the event is about the membership of `user` and does not tell it. -/
def lacksMembershipOf (event : Event) (user : UserId) : Bool :=
  event.type == memberType && event.stateKey == some user && event.membershipName?.isNone

/-- The membership that an event has after its arrival. -/
def arrivedMembership (event : Event) (arrival : Arrival) : Option Membership :=
  match arrival.action, arrival.user with
  | some action, some user =>
      if event.lacksMembershipOf user then some action else event.membership
  | _, _ => event.membership

/-- The event with the gaps filled that its arrival can fill. -/
def complete (arrival : Arrival) (event : Event) : Event :=
  { event with
    room := event.room.or arrival.room
    sentAt := some (event.sentAt.getD arrival.now)
    membership := event.arrivedMembership arrival }

@[simp] theorem complete_id (arrival : Arrival) (event : Event) :
    (event.complete arrival).id = event.id := rfl

@[simp] theorem complete_type (arrival : Arrival) (event : Event) :
    (event.complete arrival).type = event.type := rfl

@[simp] theorem complete_stateKey (arrival : Arrival) (event : Event) :
    (event.complete arrival).stateKey = event.stateKey := rfl

@[simp] theorem complete_sender (arrival : Arrival) (event : Event) :
    (event.complete arrival).sender = event.sender := rfl

@[simp] theorem complete_content (arrival : Arrival) (event : Event) :
    (event.complete arrival).content = event.content := rfl

@[simp] theorem complete_unsigned (arrival : Arrival) (event : Event) :
    (event.complete arrival).unsigned = event.unsigned := rfl

@[simp] theorem complete_sentAt (arrival : Arrival) (event : Event) :
    (event.complete arrival).sentAt = some (event.sentAt.getD arrival.now) := rfl

@[simp] theorem complete_room (arrival : Arrival) (event : Event) :
    (event.complete arrival).room = event.room.or arrival.room := rfl

end Event

end RoomHistory
