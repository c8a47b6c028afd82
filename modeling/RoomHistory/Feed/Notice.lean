import RoomHistory.Timeline.Insertion

/-!
# Notices

A notice tells a subscriber of one change: a batch that entered a timeline, state that was
forgotten, a membership that changed.  Views tell what rooms are like before the changes are told.
-/

namespace RoomHistory

open FieldReader

/-- What a room is like when a subscriber starts to follow it. -/
structure RoomView where
  room : RoomId
  membership : Option Membership
  length : Nat
  horizon : Nat
  generation : Generation
  deriving DecidableEq

/-- Why a subscription ended. -/
inductive EndReason where
  /-- The subscriber was too slow. -/
  | bufferOverflow
  /-- The subscriber asked for it. -/
  | unsubscribed
  deriving DecidableEq

/-- A batch that changed a timeline. -/
structure InsertedNotice where
  room : RoomId
  added : Nat
  trimmed : Nat
  direction : Direction
  generation : Generation
  deriving DecidableEq

/-- What subscribers are told. -/
inductive Notice where
  | view (room : RoomView)
  | inserted (change : InsertedNotice)
  | stateInvalidated (room : RoomId) (type : String)
  | membership (room : RoomId) (membership : Membership)
  /-- All views were told; changes follow. -/
  | caughtUp
  | dropped (reason : EndReason)
  deriving DecidableEq

namespace Notice

/-- The notice of an insertion, unless it neither added nor gave up an event. -/
def ofOutcome? (room : RoomId) (outcome : Outcome) : Option Notice :=
  match outcome.direction with
  | some direction =>
      if outcome.added = 0 ∧ outcome.trimmed = 0 then none
      else some (.inserted
        ⟨room, outcome.added, outcome.trimmed, direction, outcome.generation⟩)
  | none => none

end Notice

namespace RoomView

/-- The fields of the record, given how to read a membership. -/
def readerWith (decodeMembership : Decoder Membership) : FieldReader RoomView := do
  let room ← required "room_id" Decoder.string
  let membership ← optionalByName "membership" decodeMembership
  let length ← required "len" Decoder.word64
  let horizon ← required "horizon" Decoder.word64
  let generation ← required "generation" Decoder.word64
  return ⟨room, membership, length, horizon, generation⟩

/-- Reads the record. -/
def decode : Decoder RoomView := (readerWith Membership.decode).decode

/-- Reads the record inside a notice, where names are read loosely. -/
def decodeInNotice : Decoder RoomView :=
  (readerWith (Decoder.namedLoosely Membership.ofName?)).decode

/-- Writes every field. -/
def encode (view : RoomView) : Json :=
  .ofMembers [
    ("room_id", .string view.room),
    ("membership", .ofOption (view.membership.map Membership.encode)),
    ("len", .nat view.length),
    ("horizon", .nat view.horizon),
    ("generation", .nat view.generation)]

end RoomView

namespace EndReason

/-- The name of a reason. -/
def name : EndReason → String
  | .bufferOverflow => "buffer_overflow"
  | .unsubscribed => "unsubscribed"

/-- The reason of a name. -/
def ofName? : String → Option EndReason
  | "buffer_overflow" => some .bufferOverflow
  | "unsubscribed" => some .unsubscribed
  | _ => none

/-- Reads a reason by its name. -/
def decode : Decoder EndReason := Decoder.named ofName?

/-- Writes a reason by its name. -/
def encode (reason : EndReason) : Json := .string reason.name

end EndReason

namespace Notice

/-- The fields of a notice whose sort has the given name, in their order. -/
def reader? : String → Option (FieldReader Notice)
  | "snapshot" => some do
      let room ← required "room" RoomView.decodeInNotice
      return .view room
  | "inserted" => some do
      let room ← required "room_id" Decoder.string
      let added ← required "added" Decoder.word64
      let trimmed ← required "trimmed" Decoder.word64
      let direction ← required "direction" (Decoder.namedLoosely Direction.ofName?)
      let generation ← required "generation" Decoder.word64
      return .inserted ⟨room, added, trimmed, direction, generation⟩
  | "state_invalidated" => some do
      let room ← required "room_id" Decoder.string
      let type ← required "event_type" Decoder.string
      return .stateInvalidated room type
  | "membership" => some do
      let room ← required "room_id" Decoder.string
      let membership ← required "membership" (Decoder.namedLoosely Membership.ofName?)
      return .membership room membership
  | "caught_up" => some (return .caughtUp)
  | "dropped" => some do
      let reason ← required "reason" (Decoder.namedLoosely EndReason.ofName?)
      return .dropped reason
  | _ => none

/-- The name of the sort of a notice and its fields: the member `type` of an object, or the first
item of an array. -/
def tagged? : Json → Option (String × Fields)
  | .object members => do
      let tag ← (Json.lookup "type" members).bind Json.string?
      return (tag, .named members)
  | .array (.string tag :: items) => some (tag, .listed items)
  | _ => none

/-- Reads a notice. -/
def decode : Decoder Notice := fun value => do
  let (tag, fields) ← tagged? value
  let reader ← reader? tag
  let (notice, rest) ← reader fields
  if rest.isSpent then some notice else none

/-- Writes a notice with the name of its sort. -/
def encode : Notice → Json
  | .view room =>
      .ofMembers [("type", .string "snapshot"), ("room", room.encode)]
  | .inserted change =>
      .ofMembers [
        ("type", .string "inserted"),
        ("room_id", .string change.room),
        ("added", .nat change.added),
        ("trimmed", .nat change.trimmed),
        ("direction", change.direction.encode),
        ("generation", .nat change.generation)]
  | .stateInvalidated room type =>
      .ofMembers [
        ("type", .string "state_invalidated"),
        ("room_id", .string room),
        ("event_type", .string type)]
  | .membership room told =>
      .ofMembers [
        ("type", .string "membership"),
        ("room_id", .string room),
        ("membership", told.encode)]
  | .caughtUp => .ofMembers [("type", .string "caught_up")]
  | .dropped reason => .ofMembers [("type", .string "dropped"), ("reason", reason.encode)]

end Notice

end RoomHistory
