import RoomHistory.Delivery.Batch
import RoomHistory.Directory.Entry
import RoomHistory.Room.Cursor
import RoomHistory.Room.Outbox
import RoomHistory.Timeline.Insertion

/-!
# Rooms

A room joins a timeline with the memo of its current state, the outbox of the local user and the
page cursors.  A local room lives on the client alone and starts with an event that tells its
creation.
-/

namespace RoomHistory

/-- What the clock reads in the course of an insertion. -/
structure Moment where
  /-- When the batch arrives. -/
  arrival : Timestamp
  /-- When the timeline is changed. -/
  change : Timestamp
  deriving DecidableEq

/-- A room as the local user knows it. -/
structure Room where
  id : RoomId
  user : Option UserId
  /-- Whether the room lives on the client alone. -/
  isLocal : Bool
  membership : Option Membership
  timeline : Timeline
  memo : StateMemo
  outbox : Outbox
  cursors : Cursors

namespace Room

/-- A room that nothing is known of. -/
def empty (tag : TimelineTag) (id : RoomId) (user : Option UserId)
    (policy : TimelinePolicy) : Room where
  id := id
  user := user
  isLocal := false
  membership := none
  timeline := .empty tag policy (some id)
  memo := .initial
  outbox := .empty
  cursors := .initial

/-- How a batch arrives at the room. -/
def arrival (room : Room) (action : Option Membership) (now : Timestamp) : Arrival :=
  ⟨some room.id, room.user, action, now⟩

/-- Puts a changed timeline back into the room. -/
def withTimeline (room : Room) (result : Outcome × Timeline) : Outcome × Room :=
  (result.1, { room with timeline := result.2 })

/-- Inserts events; none of them tells the local user's membership by its arrival. -/
def insert (room : Room) (now : Moment) (events : List Event) : Outcome × Room :=
  room.withTimeline (room.timeline.insert (room.arrival none now.arrival) now.change events)

/-- Inserts the events among values received outside a sync. -/
def insertValues (room : Room) (now : Moment) (values : List Json) : Outcome × Room :=
  room.withTimeline (room.timeline.insertValues (room.arrival none now.arrival) now.change values)

/-- The room under a membership, with the token of a batch where none was known. -/
def enterSync (room : Room) (batch : RoomBatch) (action : Membership) : Room :=
  { room with
    membership := some action
    cursors := match batch.prevBatch with
      | some token => room.cursors.suggestHistory token
      | none => room.cursors }

/-- Applies the room's part of a sync. -/
def sync (room : Room) (now : Moment) (batch : RoomBatch) (action : Membership) :
    Outcome × Room :=
  let entered := room.enterSync batch action
  entered.withTimeline
    (entered.timeline.insertValues (entered.arrival (some action) now.arrival) now.change
      batch.values)

/-- The event that tells the creation of a local room. -/
def creation (id : RoomId) (creator : Option UserId) : Event :=
  { Event.state ("$create/" ++ id) ⟨Event.createType, ""⟩
      (.ofMembers [("creator", .nullableString creator)]) with
    sender := creator }

/-- A room that lives on the client alone. -/
def clientOnly (tag : TimelineTag) (id : RoomId) (creator : Option UserId)
    (policy : TimelinePolicy) (now : Moment) : Room :=
  let room := { empty tag id creator policy with
    isLocal := true
    membership := some .join }
  (room.insert now [creation id creator]).2

/-- The current events of a type, and the room with them remembered. -/
def state (room : Room) (type : String) : StateByKey × Room :=
  let (state, memo) := room.memo.get room.timeline type
  (state, { room with memo := memo })

/-- The digest of the current state, and the room with that state remembered. -/
def directoryEntry (room : Room) : DirectoryEntry × Room :=
  let (directoryEntry, memo) := room.memo.directoryEntry room.timeline
  (directoryEntry, { room with memo := memo })

/-- Forgets the remembered state of a type. -/
def forgetState (room : Room) (type : String) : Room :=
  { room with memo := room.memo.forget type }

/-- Whether history has no more pages. -/
def historyEnded (room : Room) : Bool :=
  room.cursors.backward.exhausted

/-- Whether to ask for history so as to use the budget. -/
def wantsHistory (room : Room) : Bool :=
  room.timeline.policy.autofill && decide (0 < room.timeline.policy.limit) &&
    !room.historyEnded && room.cursors.backward.token.isSome &&
    decide (room.timeline.budgetUse < room.timeline.policy.limit)

end Room

end RoomHistory
