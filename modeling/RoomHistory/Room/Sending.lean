import RoomHistory.Room.Basic

/-!
# Sending events

An event that the local user sends is issued under a new transaction and a provisional id.  It
enters the timeline only when the server confirms it, and is forgotten when it is abandoned.
-/

namespace RoomHistory

namespace Room

/-- The event that is issued under a transaction. -/
def issuedEvent (room : Room) (now : Timestamp) (transaction type : String)
    (stateKey : Option String) (content : Json) : Event where
  id := "~" ++ transaction
  type := type
  stateKey := stateKey
  room := some room.id
  sender := room.user
  sentAt := some now
  content := content
  membership := none
  unsigned := ⟨none, some transaction⟩

/-- Issues an event, unless one of its type already waits. -/
def issue (room : Room) (now : Timestamp) (type : String) (stateKey : Option String)
    (content : Json) : Except Error (OutboxEntry × Room) :=
  match room.outbox.pending? type with
  | some _ => .error (.typePending type)
  | none =>
      let transaction := room.outbox.nextTransaction now
      let event := room.issuedEvent now transaction type stateKey content
      let pending : OutboxEntry := ⟨transaction, event, now⟩
      .ok (pending, { room with outbox := room.outbox.add pending })

/-- The event of a type that waits. -/
def pending? (room : Room) (type : String) : Option OutboxEntry :=
  room.outbox.pending? type

/-- Takes the event of a transaction out of the outbox. -/
def takePending (room : Room) (transaction : String) : Except Error (OutboxEntry × Room) :=
  match room.outbox.take? transaction with
  | some (pending, outbox) => .ok (pending, { room with outbox := outbox })
  | none => .error (.unknownTransaction transaction)

/-- The event under the id that the server gave it; the local user is its sender. -/
def confirmedEvent (room : Room) (pending : OutboxEntry) (id : EventId) : Event :=
  { pending.event with id := id, sender := room.user.or pending.event.sender }

/-- Confirms the event of a transaction and inserts it. -/
def confirm (room : Room) (now : Moment) (transaction : String) (id : EventId) :
    Except Error (Outcome × Room) := do
  let (pending, taken) ← room.takePending transaction
  return taken.insert now [taken.confirmedEvent pending id]

/-- Forgets the event of a transaction. -/
def abandon (room : Room) (transaction : String) : Except Error (OutboxEntry × Room) :=
  room.takePending transaction

end Room

end RoomHistory
