import RoomHistory.Identifier
import RoomHistory.Json.Basic

/-!
# Events

An event is a plain value.  It is a state event when it has a state key, and then it speaks for
one slot: the pair of its type and its state key.
-/

namespace RoomHistory

/-- What a server adds to an event on delivery. -/
structure Unsigned where
  /-- Milliseconds since the event was sent, at delivery. -/
  age : Option Int
  /-- The transaction of the sender's own event. -/
  transaction : Option String
  deriving DecidableEq

namespace Unsigned

/-- Nothing added. -/
def empty : Unsigned := ⟨none, none⟩

/-- Whether nothing was added. -/
def isEmpty (unsigned : Unsigned) : Bool :=
  unsigned.age.isNone && unsigned.transaction.isNone

end Unsigned

/-- The type and the state key that a state event speaks for. -/
structure Slot where
  type : String
  key : String
  deriving DecidableEq

/-- An event of a room. -/
structure Event where
  id : EventId
  type : String
  /-- Present on state events. -/
  stateKey : Option String
  room : Option RoomId
  sender : Option UserId
  /-- When the sender's server took the event. -/
  sentAt : Option Timestamp
  content : Json
  /-- The local user's membership, where a sync told it. -/
  membership : Option Membership
  unsigned : Unsigned
  deriving DecidableEq, BEq

namespace Event

/-- The type of the events that tell a user's membership. -/
def memberType : String := "m.room.member"

/-- The type of the event that starts a room. -/
def createType : String := "m.room.create"

/-- An event with an id and a type, and an empty object as content. -/
def bare (id : EventId) (type : String) : Event where
  id := id
  type := type
  stateKey := none
  room := none
  sender := none
  sentAt := none
  content := .object []
  membership := none
  unsigned := .empty

/-- A state event with the given content. -/
def state (id : EventId) (slot : Slot) (content : Json) : Event :=
  { bare id slot.type with stateKey := some slot.key, content := content }

/-- Whether the event has a state key. -/
def isState (event : Event) : Bool :=
  event.stateKey.isSome

/-- Whether the event has an id. -/
def hasId (event : Event) : Bool :=
  event.id != ""

/-- Whether the event has the given type. -/
def hasType (event : Event) (type : String) : Bool :=
  event.type == type

/-- The slot of a state event. -/
def slot? (event : Event) : Option Slot :=
  event.stateKey.map (Slot.mk event.type)

/-- Whether two events are state events of one slot. -/
def sharesSlot (left right : Event) : Bool :=
  match left.slot?, right.slot? with
  | some leftSlot, some rightSlot => leftSlot == rightSlot
  | _, _ => false

/-- The membership told by the envelope, or else by the content. -/
def membershipName? (event : Event) : Option String :=
  match event.membership with
  | some membership => some membership.name
  | none => (event.content.member? "membership").bind Json.string?

/-- The server of the sender. -/
def senderServer? (event : Event) : Option String :=
  event.sender.bind serverOf?

@[simp] theorem isState_iff (event : Event) :
    event.isState = true ↔ ∃ key, event.stateKey = some key := by
  simp [isState, Option.isSome_iff_exists]

@[simp] theorem slot?_eq_none_iff (event : Event) :
    event.slot? = none ↔ event.stateKey = none := by
  simp [slot?]

/-- Events share a slot exactly when both have the same one. -/
theorem sharesSlot_iff (left right : Event) :
    left.sharesSlot right = true ↔ ∃ slot, left.slot? = some slot ∧ right.slot? = some slot := by
  unfold sharesSlot
  cases left.slot? <;> cases right.slot? <;> simp
  exact ⟨Eq.symm, Eq.symm⟩

end Event

end RoomHistory
