import Std.Data.ExtTreeMap
import RoomHistory.Event.Wire

/-!
# Syncs

A sync delivers one batch for each room, in the list of the local user's membership
there.  The events of a batch stay untyped: only a timeline decides what is an event, so that one
bad value does not spoil a batch.
-/

namespace RoomHistory

open FieldReader

/-- What a sync delivers to one room. -/
structure RoomBatch where
  state : List Json
  timeline : List Json
  ephemeral : List Json
  accountData : List Json
  /-- The token for history before the batch. -/
  prevBatch : Option String

namespace RoomBatch

/-- The values that enter the timeline. -/
def values (batch : RoomBatch) : List Json :=
  batch.state ++ batch.timeline

/-- The fields of the record. -/
def reader : FieldReader RoomBatch := do
  let state ← withDefault "state" [] (Decoder.list Decoder.any)
  let timeline ← withDefault "timeline" [] (Decoder.list Decoder.any)
  let ephemeral ← withDefault "ephemeral" [] (Decoder.list Decoder.any)
  let accountData ← withDefault "account_data" [] (Decoder.list Decoder.any)
  let prevBatch ← optional "prev_batch" Decoder.string
  return ⟨state, timeline, ephemeral, accountData, prevBatch⟩

/-- Reads the record. -/
def decode : Decoder RoomBatch := reader.decode

/-- Writes the lists, and the token if there is one. -/
def encode (batch : RoomBatch) : Json :=
  .ofMembers <|
    Json.member "state" (.array batch.state) ++
    Json.member "timeline" (.array batch.timeline) ++
    Json.member "ephemeral" (.array batch.ephemeral) ++
    Json.member "account_data" (.array batch.accountData) ++
    Json.optionalMember "prev_batch" (batch.prevBatch.map .string)

end RoomBatch

/-- Batches by room. -/
abbrev RoomBatches := Std.ExtTreeMap RoomId RoomBatch

namespace RoomBatches

/-- Reads batches under the names of their rooms. -/
def decode : Decoder RoomBatches := fun value =>
  (Decoder.entries RoomBatch.decode value).map (Std.ExtTreeMap.ofList ·)

/-- Writes batches under the names of their rooms. -/
def encode (batches : RoomBatches) : Json :=
  .ofMembers (batches.toList.map fun entry => (entry.1, entry.2.encode))

end RoomBatches

/-- The batches of a sync, by membership. -/
structure SyncLists where
  join : RoomBatches
  leave : RoomBatches
  invite : RoomBatches

namespace SyncLists

/-- No batches. -/
def empty : SyncLists := ⟨∅, ∅, ∅⟩

/-- The batches of one list. -/
def list (lists : SyncLists) : Membership → RoomBatches
  | .join => lists.join
  | .leave => lists.leave
  | .invite => lists.invite

/-- One room's part of a sync. -/
structure Slice where
  room : RoomId
  batch : RoomBatch
  action : Membership

/-- The parts of one list, by ascending room. -/
def slicesOf (lists : SyncLists) (action : Membership) : List Slice :=
  (lists.list action).toList.map fun entry => ⟨entry.1, entry.2, action⟩

/-- The order in which lists are applied, so that of several lists with one room the last holds. -/
def routing : List Membership := [.join, .invite, .leave]

/-- All parts in the order in which they are applied. -/
def slices (lists : SyncLists) : List Slice :=
  routing.flatMap lists.slicesOf

/-- The fields of the record. -/
def reader : FieldReader SyncLists := do
  let join ← withDefault "join" ∅ RoomBatches.decode
  let leave ← withDefault "leave" ∅ RoomBatches.decode
  let invite ← withDefault "invite" ∅ RoomBatches.decode
  return ⟨join, leave, invite⟩

/-- Reads the record. -/
def decode : Decoder SyncLists := reader.decode

/-- Writes all lists. -/
def encode (lists : SyncLists) : Json :=
  .ofMembers [
    ("join", RoomBatches.encode lists.join),
    ("leave", RoomBatches.encode lists.leave),
    ("invite", RoomBatches.encode lists.invite)]

end SyncLists

/-- What a server tells a client of since the sync before. -/
structure Sync where
  /-- The token for the next sync. -/
  nextBatch : Option String
  rooms : SyncLists

namespace Sync

/-- The fields of the record. -/
def reader : FieldReader Sync := do
  let nextBatch ← optional "next_batch" Decoder.string
  let rooms ← withDefault "rooms" .empty SyncLists.decode
  return ⟨nextBatch, rooms⟩

/-- Reads the record. -/
def decode : Decoder Sync := reader.decode

/-- Writes the rooms, and the token if there is one. -/
def encode (sync : Sync) : Json :=
  .ofMembers <|
    Json.optionalMember "next_batch" (sync.nextBatch.map .string) ++
    Json.member "rooms" sync.rooms.encode

end Sync

end RoomHistory
