import RoomHistory.Feed.Filter
import RoomHistory.Json.Raw

/-!
# Client settings

Settings are read from a JSON text.  Everything has a default.  The text has to be well
formed throughout, but what stands under unknown keys is not looked at any further.
-/

namespace RoomHistory

open FieldReader

namespace TimelinePolicy

/-- The fields of the record. -/
def reader : FieldReader TimelinePolicy := do
  let limit ← withDefault "limit" standard.limit Decoder.word64
  let autofill ← withDefault "autofill" standard.autofill Decoder.bool
  return ⟨limit, autofill⟩

/-- Reads the record. -/
def decode : Decoder TimelinePolicy := reader.decode

/-- Writes every field. -/
def encode (policy : TimelinePolicy) : Json :=
  .ofMembers [("limit", .nat policy.limit), ("autofill", .bool policy.autofill)]

/-- The fields that a reader of a text knows. -/
def outline : Json.Raw.Outline := .record [("limit", .any), ("autofill", .any)]

end TimelinePolicy

/-- What a client is made with. -/
structure ClientSettings where
  /-- The local user. -/
  user : Option UserId
  /-- The policy of the rooms that the client makes. -/
  timeline : TimelinePolicy
  /-- How many notices may wait for a subscriber that does not say. -/
  feedBuffer : Nat
  deriving DecidableEq

namespace ClientSettings

/-- No user, and defaults. -/
def standard : ClientSettings := ⟨none, .standard, FeedSettings.standardBuffer⟩

/-- The fields of the record. -/
def reader : FieldReader ClientSettings := do
  let user ← optional "user_id" Decoder.string
  let timeline ← withDefault "timeline" .standard TimelinePolicy.decode
  let feedBuffer ← withDefault "subscription_buffer" FeedSettings.standardBuffer Decoder.word64
  return ⟨user, timeline, feedBuffer⟩

/-- Reads the record. -/
def decode : Decoder ClientSettings := reader.decode

/-- Writes every field. -/
def encode (settings : ClientSettings) : Json :=
  .ofMembers [
    ("user_id", .nullableString settings.user),
    ("timeline", settings.timeline.encode),
    ("subscription_buffer", .nat settings.feedBuffer)]

/-- The fields that a reader of a text knows. -/
def outline : Json.Raw.Outline :=
  .record [
    ("user_id", .any),
    ("timeline", TimelinePolicy.outline),
    ("subscription_buffer", .any)]

/-- Reads settings from a text. -/
def ofText (text : String) : Except Error ClientSettings :=
  match (Json.Raw.ofText? text).bind (Json.Raw.restrict? outline) |>.bind decode with
  | some settings => .ok settings
  | none => .error (.malformed .undecodable)

end ClientSettings

end RoomHistory
