import RoomHistory.Error
import RoomHistory.Event.Basic
import RoomHistory.Json.Record

/-!
# Events in JSON

An event is written with its id, type and content always and its other parts only where it has
them.  Reading takes a record of the same fields.  A value received from a server has to be an
object and to carry an id as well.
-/

namespace RoomHistory

open FieldReader

namespace Direction

/-- Reads a direction by its name. -/
def decode : Decoder Direction := Decoder.named ofName?

/-- Writes a direction by its name. -/
def encode (direction : Direction) : Json := .string direction.name

end Direction

namespace Membership

/-- Reads a membership by its name. -/
def decode : Decoder Membership := Decoder.named ofName?

/-- Writes a membership by its name. -/
def encode (membership : Membership) : Json := .string membership.name

end Membership

namespace Unsigned

/-- The fields of the record. -/
def reader : FieldReader Unsigned := do
  let age ← optional "age" Decoder.int64
  let transaction ← optional "transaction_id" Decoder.string
  return ⟨age, transaction⟩

/-- Reads the record. -/
def decode : Decoder Unsigned := reader.decode

/-- Writes the parts that are present. -/
def encode (unsigned : Unsigned) : Json :=
  .ofMembers <|
    Json.optionalMember "age" (unsigned.age.map .int) ++
    Json.optionalMember "transaction_id" (unsigned.transaction.map .string)

end Unsigned

namespace Event

/-- The fields of the record. -/
def reader : FieldReader Event := do
  let id ← withDefault "event_id" "" Decoder.string
  let type ← required "type" Decoder.string
  let stateKey ← optional "state_key" Decoder.string
  let room ← optional "room_id" Decoder.string
  let sender ← optional "sender" Decoder.string
  let sentAt ← optional "origin_server_ts" Decoder.int64
  let content ← withDefault "content" .null Decoder.any
  let membership ← optional "membership" Membership.decode
  let unsigned ← withDefault "unsigned" .empty Unsigned.decode
  return ⟨id, type, stateKey, room, sender, sentAt, content, membership, unsigned⟩

/-- Reads the record, which may lack an id. -/
def decode : Decoder Event := reader.decode

/-- Writes the id, the type, the content and whatever else is present. -/
def encode (event : Event) : Json :=
  .ofMembers <|
    Json.member "event_id" (.string event.id) ++
    Json.member "type" (.string event.type) ++
    Json.optionalMember "state_key" (event.stateKey.map .string) ++
    Json.optionalMember "room_id" (event.room.map .string) ++
    Json.optionalMember "sender" (event.sender.map .string) ++
    Json.optionalMember "origin_server_ts" (event.sentAt.map .int) ++
    Json.member "content" event.content ++
    Json.optionalMember "membership" (event.membership.map Membership.encode) ++
    Json.optionalMember "unsigned"
      (if event.unsigned.isEmpty then none else some event.unsigned.encode)

/-- Reads an event as a server sends it. -/
def receive (value : Json) : Except EventFault Event :=
  if value.isObject then
    match decode value with
    | some event => if event.hasId then .ok event else .error (.withoutId event.type)
    | none => .error .undecodable
  else .error (.notAnObject value.kind)

end Event

end RoomHistory
