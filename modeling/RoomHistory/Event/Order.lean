import RoomHistory.Event.Basic
import RoomHistory.Json.Compact

/-!
# The order of events

Events are ordered by the time they were sent where both have one; of two events without a time
the one with the larger age comes first.  The room, the id, the sender, the content and the other
parts of the envelope decide between events that this leaves equal.  Texts compare by code point,
an absent part comes before a present one, and contents that are not equal compare by their
compact texts.
-/

namespace RoomHistory

namespace Event

/-- Larger ages first, where both are known. -/
def ageOrder : Option Int → Option Int → Ordering
  | some left, some right => compare right left
  | _, _ => .eq

/-- The order by time, or by age where neither event has a time. -/
def timeOrder (left right : Event) : Ordering :=
  match left.sentAt, right.sentAt with
  | some leftTime, some rightTime => compare leftTime rightTime
  | none, none => ageOrder left.unsigned.age right.unsigned.age
  | _, _ => .eq

/-- An event together with the compact text of its content, which is written once, when it is
first compared. -/
structure Ranked where
  event : Event
  contentText : Thunk String

/-- The event ready for comparison. -/
def ranked (event : Event) : Ranked :=
  ⟨event, Thunk.mk fun _ => event.content.compact⟩

namespace Ranked

/-- Equal contents are alike; others compare by text. -/
def contentOrder (left right : Ranked) : Ordering :=
  if left.event.content == right.event.content then .eq
  else compare left.contentText.get right.contentText.get

/-- The order of everything that is not a time. -/
def envelopeOrder (left right : Ranked) : Ordering :=
  (compare left.event.room right.event.room).then <|
  (compare left.event.id right.event.id).then <|
  (compare left.event.sender right.event.sender).then <|
  (contentOrder left right).then <|
  (compare left.event.type right.event.type).then <|
  (compare left.event.stateKey right.event.stateKey).then <|
  (compare left.event.membership right.event.membership).then <|
  (compare left.event.unsigned.age right.event.unsigned.age).then <|
  compare left.event.unsigned.transaction right.event.unsigned.transaction

/-- The order of a timeline. -/
def order (left right : Ranked) : Ordering :=
  (timeOrder left.event right.event).then (envelopeOrder left right)

/-- Whether one event comes strictly before another. -/
def precedes (left right : Ranked) : Bool :=
  (order left right).isLT

end Ranked

/-- The order of a timeline. -/
def order (left right : Event) : Ordering :=
  left.ranked.order right.ranked

/-- Whether one event comes strictly before another. -/
def precedes (left right : Event) : Bool :=
  left.ranked.precedes right.ranked

@[simp] theorem event_ranked (event : Event) : event.ranked.event = event := rfl

@[simp] theorem precedes_ranked (left right : Event) :
    left.ranked.precedes right.ranked = left.precedes right := rfl

end Event

end RoomHistory
