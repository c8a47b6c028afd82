import RoomHistory.Client.Settings
import RoomHistory.Feed.Hub
import RoomHistory.Room.Scrollback
import RoomHistory.Room.Sending

/-!
# Clients

A client is a registry of rooms, each under its own id, together with the subscribers that are
told of their changes.  Rooms are made when they are first needed.
-/

namespace RoomHistory

/-- The rooms of one user and their subscribers. -/
structure Client where
  settings : ClientSettings
  rooms : Std.ExtTreeMap RoomId Room
  hub : FeedHub
  /-- How many timelines were made. -/
  timelinesMade : Nat

namespace Client

/-- A client without rooms and subscribers. -/
def ofSettings (settings : ClientSettings) : Client := ⟨settings, ∅, .empty, 0⟩

/-- A room of the registry. -/
def room? (client : Client) (id : RoomId) : Option Room :=
  client.rooms[id]?

/-- Replaces a room, or files a new one. -/
def putRoom (client : Client) (room : Room) : Client :=
  { client with rooms := client.rooms.insert room.id room }

/-- A room of the registry, or why there is none. -/
def requireRoom (client : Client) (id : RoomId) : Except Error Room :=
  match client.room? id with
  | some room => .ok room
  | none => .error (.unknownRoom id)

/-- An empty room as the client makes it. -/
def newRoom (client : Client) (id : RoomId) : Room :=
  .empty (client.timelinesMade + 1) id client.settings.user client.settings.timeline

/-- A room of the registry, which is made if it is not there. -/
def ensureRoom (client : Client) (id : RoomId) : Room × Client :=
  match client.room? id with
  | some room => (room, client)
  | none =>
      let room := client.newRoom id
      (room, { client.putRoom room with timelinesMade := client.timelinesMade + 1 })

/-- Takes a room out of the registry. -/
def forgetRoom (client : Client) (id : RoomId) : Option Room × Client :=
  (client.room? id, { client with rooms := client.rooms.erase id })

/-- The rooms in which the local user has a membership, by ascending id. -/
def roomsWith (client : Client) (membership : Membership) : List Room :=
  client.rooms.values.filter (·.membership == some membership)

/-- Whether one room was changed later than another, or has the smaller id if neither was. -/
def changedNoEarlier (left right : Room) : Bool :=
  (compare right.timeline.changedAt left.timeline.changedAt |>.then
    (compare left.id right.id)).isLE

/-- All rooms, the last changed first. -/
def roomsLatestFirst (client : Client) : List Room :=
  client.rooms.values.mergeSort changedNoEarlier

@[simp] theorem room?_putRoom_self (client : Client) (room : Room) :
    (client.putRoom room).room? room.id = some room := by
  simp [putRoom, room?]

/-- Replacing a room leaves every other one as it was. -/
theorem room?_putRoom_of_ne {client : Client} {room : Room} {id : RoomId} (differs : room.id ≠ id) :
    (client.putRoom room).room? id = client.room? id := by
  simp [putRoom, room?, Std.ExtTreeMap.getElem?_insert, differs]

end Client

end RoomHistory
