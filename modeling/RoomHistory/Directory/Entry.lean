import RoomHistory.CurrentState.Memo
import RoomHistory.Json.Record

/-!
# Directory entries

An entry is what a room directory shows of a room.  It is digested from the current state, and it
can be given as a record.
-/

namespace RoomHistory

open FieldReader

/-- What a directory shows of a room. -/
structure DirectoryEntry where
  room : Option RoomId
  name : Option String
  topic : Option String
  canonicalAlias : Option String
  worldReadable : Bool
  guestCanJoin : Bool
  joinedMembers : Nat
  aliases : List String
  deriving DecidableEq

namespace DirectoryEntry

/-- The fields of the record. -/
def reader : FieldReader DirectoryEntry := do
  let room ← optional "room_id" Decoder.string
  let name ← optional "name" Decoder.string
  let topic ← optional "topic" Decoder.string
  let canonicalAlias ← optional "canonical_alias" Decoder.string
  let worldReadable ← withDefault "world_readable" false Decoder.bool
  let guestCanJoin ← withDefault "guest_can_join" false Decoder.bool
  let joinedMembers ← withDefault "num_joined_members" 0 Decoder.word64
  let aliases ← withDefault "aliases" [] (Decoder.list Decoder.string)
  return ⟨room, name, topic, canonicalAlias, worldReadable, guestCanJoin, joinedMembers, aliases⟩

/-- Reads the record. -/
def decode : Decoder DirectoryEntry := reader.decode

/-- Writes every field. -/
def encode (entry : DirectoryEntry) : Json :=
  .ofMembers [
    ("room_id", .nullableString entry.room),
    ("name", .nullableString entry.name),
    ("topic", .nullableString entry.topic),
    ("canonical_alias", .nullableString entry.canonicalAlias),
    ("world_readable", .bool entry.worldReadable),
    ("guest_can_join", .bool entry.guestCanJoin),
    ("num_joined_members", .nat entry.joinedMembers),
    ("aliases", .strings entry.aliases)]

/-- The text under a field of the content of the current event with an empty key. -/
def contentText? (state : StateByKey) (field : String) : Option String :=
  state[""]?.bind fun event => (event.content.member? field).bind Json.string?

/-- How many members are told to have joined. -/
def joinedCount (members : StateByKey) : Nat :=
  members.values.countP (·.membershipName? == some Membership.join.name)

/-- The texts among the aliases that an event lists. -/
def listedAliases (event : Event) : List String :=
  (((event.content.member? "aliases").bind Json.array?).getD []).filterMap Json.string?

/-- The aliases of all servers. -/
def allAliases (aliases : StateByKey) : List String :=
  aliases.values.flatMap listedAliases

/-- The digest of the current state, given the state of each type. -/
def ofState (room : Option RoomId) (stateOf : String → StateByKey) : DirectoryEntry where
  room := ((stateOf Event.createType)[""]?.bind (·.room)).or room
  name := contentText? (stateOf "m.room.name") "name"
  topic := contentText? (stateOf "m.room.topic") "topic"
  canonicalAlias := contentText? (stateOf "m.room.canonical_alias") "alias"
  worldReadable :=
    contentText? (stateOf "m.room.history_visibility") "history_visibility" ==
      some "world_readable"
  guestCanJoin :=
    contentText? (stateOf "m.room.guest_access") "guest_access" == some "can_join"
  joinedMembers := joinedCount (stateOf Event.memberType)
  aliases := allAliases (stateOf "m.room.aliases")

/-- The types that a digest is made from, in the order in which their states are asked for. -/
def digestedTypes : List String := [
  Event.memberType,
  "m.room.aliases",
  Event.createType,
  "m.room.name",
  "m.room.topic",
  "m.room.canonical_alias",
  "m.room.history_visibility",
  "m.room.guest_access"]

end DirectoryEntry

namespace StateMemo

/-- The memo after the states of several types were asked for. -/
def getAll (memo : StateMemo) (timeline : Timeline) (types : List String) : StateMemo :=
  types.foldl (fun memo type => (memo.get timeline type).2) memo

/-- The digest of a timeline's current state, and the memo afterwards. -/
def directoryEntry (memo : StateMemo) (timeline : Timeline) : DirectoryEntry × StateMemo :=
  let asked := memo.getAll timeline DirectoryEntry.digestedTypes
  (DirectoryEntry.ofState timeline.room fun type => (asked.get timeline type).1, asked)

end StateMemo

end RoomHistory
