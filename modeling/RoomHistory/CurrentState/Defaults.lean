import Std.Data.ExtTreeMap
import RoomHistory.Event.Basic

/-!
# Protocol defaults

The state of a type maps state keys to events.  Some types have a default under the empty key
before any event has arrived; it is an event without an id, a room or a time.
-/

namespace RoomHistory

/-- The current events of one type, by state key. -/
abbrev StateByKey := Std.ExtTreeMap String Event

namespace CurrentState

/-- An object with one member that is null. -/
def nullMember (name : String) : Json :=
  .ofMembers [(name, .null)]

/-- An object with one member that is a text. -/
def textMember (name text : String) : Json :=
  .ofMembers [(name, .string text)]

/-- The powers that hold until a room sets its own. -/
def defaultPowers : Json :=
  .ofMembers [
    ("events_default", .int 0),
    ("state_default", .int 0),
    ("users_default", .int 0),
    ("ban", .int 50),
    ("invite", .int 50),
    ("kick", .int 50),
    ("redact", .int 50),
    ("events", .ofMembers []),
    ("users", .ofMembers [])]

/-- The default content of a type, if it has one. -/
def initialContent? : String → Option Json
  | "m.room.canonical_alias" => some (nullMember "alias")
  | "m.room.create" => some (nullMember "creator")
  | "m.room.join_rules" => some (nullMember "join_rule")
  | "m.room.power_levels" => some defaultPowers
  | "m.room.name" => some (nullMember "name")
  | "m.room.topic" => some (nullMember "topic")
  | "m.room.avatar" => some (.ofMembers [("info", .ofMembers []), ("url", .null)])
  | "m.room.history_visibility" => some (textMember "history_visibility" "shared")
  | "m.room.guest_access" => some (textMember "guest_access" "forbidden")
  | _ => none

/-- The state of a type before any event has arrived. -/
def initial (type : String) : StateByKey :=
  match initialContent? type with
  | some content => (∅ : StateByKey).insert "" (Event.state "" ⟨type, ""⟩ content)
  | none => ∅

/-- The types whose state is held from the start. -/
def wellKnownTypes : List String := [
  "m.room.aliases",
  "m.room.canonical_alias",
  "m.room.create",
  "m.room.join_rules",
  "m.room.member",
  "m.room.power_levels",
  "m.room.name",
  "m.room.topic",
  "m.room.avatar",
  "m.room.history_visibility",
  "m.room.guest_access"]

end CurrentState

end RoomHistory
