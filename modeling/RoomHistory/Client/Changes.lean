import RoomHistory.Client.Basic

/-!
# Changes to a client's rooms

Whatever changes a room is told to the subscribers: first a membership that is new, then the
batch that entered the timeline.  An operation that fails tells nothing.
-/

namespace RoomHistory

/-- What the clock reads while a room's part of a sync is applied under a membership. -/
abbrev SyncClock := RoomId → Membership → Moment

/-- What the clock reads at a part of a sync. -/
def SyncClock.reading (clock : SyncClock) (slice : SyncLists.Slice) : Moment :=
  clock slice.room slice.action

namespace Client

/-- Tells the subscribers of a batch that entered a room. -/
def announceInsert (client : Client) (room : RoomId) (outcome : Outcome) : Client :=
  { client with hub := client.hub.tellInsertion room outcome }

/-- Tells the subscribers of a new membership. -/
def announceMembership (client : Client) (room : RoomId) (membership : Membership) : Client :=
  { client with hub := client.hub.tellAll (.membership room membership) }

/-- Files a changed room and tells of the batch that entered it. -/
def commit (client : Client) (result : Outcome × Room) : Client :=
  (client.putRoom result.2).announceInsert result.2.id result.1

/-- What the subscribers are told of a local room that was just made. -/
def creationOutcome (room : Room) : Outcome where
  added := room.timeline.length
  duplicates := 0
  skipped := 0
  trimmed := 0
  direction := some .forward
  generation := room.timeline.generation
  failed := false

/-- Makes a room that lives on the client alone. -/
def openLocalRoom (client : Client) (now : Moment) (id : RoomId) :
    Except Error (Room × Client) :=
  match client.room? id with
  | some _ => .error (.misuse (.roomExists id))
  | none =>
      let number := client.timelinesMade + 1
      let room := Room.clientOnly number id client.settings.user client.settings.timeline now
      let announced := (client.announceMembership id .join).announceInsert id (creationOutcome room)
      .ok (room, { announced.putRoom room with timelinesMade := number })

/-- Inserts events into a room of the registry. -/
def insert (client : Client) (now : Moment) (id : RoomId) (events : List Event) :
    Except Error (Outcome × Client) := do
  let room ← client.requireRoom id
  let result := room.insert now events
  return (result.1, client.commit result)

/-- Tells the subscribers of a membership that differs from the one before. -/
def announceMove (client : Client) (room : RoomId) (before : Option Membership)
    (after : Membership) : Client :=
  if before = some after then client else client.announceMembership room after

/-- Applies one room's part of a sync. -/
def deliverSlice (client : Client) (clock : SyncClock) (slice : SyncLists.Slice) :
    Outcome × Client :=
  let (room, client) := client.ensureRoom slice.room
  let (outcome, synced) := room.sync (clock.reading slice) slice.batch slice.action
  let filed := client.putRoom synced
  let moved := filed.announceMove slice.room room.membership slice.action
  (outcome, moved.announceInsert slice.room outcome)

/-- Applies parts of a sync one after another. -/
def deliverSlices (client : Client) (clock : SyncClock) :
    List SyncLists.Slice → List (RoomId × Outcome) × Client
  | [] => ([], client)
  | slice :: rest =>
      let (outcome, changed) := client.deliverSlice clock slice
      let (outcomes, last) := changed.deliverSlices clock rest
      ((slice.room, outcome) :: outcomes, last)

/-- Applies a sync to the rooms that it names. -/
def deliver (client : Client) (clock : SyncClock) (sync : Sync) :
    List (RoomId × Outcome) × Client :=
  client.deliverSlices clock sync.rooms.slices

/-- Asks for a page of a room's history and applies it. -/
def fetchPage (client : Client) (now : Moment) (id : RoomId) (server : PageServer)
    (direction : Direction) (limit : Nat) : Except Error Outcome × Client :=
  match client.requireRoom id with
  | .error error => (.error error, client)
  | .ok room =>
      match room.fetchPage now server direction limit with
      | (.ok outcome, changed) => (.ok outcome, client.commit (outcome, changed))
      | (.error error, changed) => (.error error, client.putRoom changed)

/-- Confirms an event of the local user in a room. -/
def confirm (client : Client) (now : Moment) (id : RoomId) (transaction : String)
    (eventId : EventId) : Except Error (Outcome × Client) := do
  let room ← client.requireRoom id
  let result ← room.confirm now transaction eventId
  return (result.1, client.commit result)

/-- Forgets the remembered state of a type in a room. -/
def forgetState (client : Client) (id : RoomId) (type : String) : Except Error Client := do
  let room ← client.requireRoom id
  let filed := client.putRoom (room.forgetState type)
  return { filed with hub := filed.hub.tellAll (.stateInvalidated id type) }

end Client

end RoomHistory
