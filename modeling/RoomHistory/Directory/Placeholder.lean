import RoomHistory.Directory.Entry

/-!
# Placeholders for a directory entry

An entry is turned back into state events of time zero, which every event of a later time and
the same slot supersedes.  Aliases are grouped by their server; one without a server is left out.
-/

namespace RoomHistory

namespace DirectoryEntry

/-- A state event of time zero, named after its slot. -/
def placeholder (slot : Slot) (content : Json) : Event :=
  { Event.state ("$summary/" ++ slot.type ++ "/" ++ slot.key) slot content with sentAt := some 0 }

/-- Files an alias under its server, behind those already there. -/
def fileAlias (byServer : Std.ExtTreeMap String (List String)) (address : String) :
    Std.ExtTreeMap String (List String) :=
  match serverOf? address with
  | some server => byServer.insert server ((byServer[server]?).getD [] ++ [address])
  | none => byServer

/-- The aliases of each server. -/
def aliasesByServer (aliases : List String) : Std.ExtTreeMap String (List String) :=
  aliases.foldl fileAlias ∅

/-- A placeholder with an empty key and one text, if there is a text. -/
def textPlaceholder (type field : String) : Option String → List Event
  | some text => [placeholder ⟨type, ""⟩ (CurrentState.textMember field text)]
  | none => []

/-- The placeholders before they are put into a room. -/
def roomlessPlaceholders (entry : DirectoryEntry) : List Event :=
  textPlaceholder "m.room.name" "name" entry.name ++
  textPlaceholder "m.room.topic" "topic" entry.topic ++
  textPlaceholder "m.room.canonical_alias" "alias" entry.canonicalAlias ++
  (aliasesByServer entry.aliases).toList.map (fun listed =>
    placeholder ⟨"m.room.aliases", listed.1⟩ (.ofMembers [("aliases", .strings listed.2)])) ++
  textPlaceholder "m.room.guest_access" "guest_access"
    (some (if entry.guestCanJoin then "can_join" else "forbidden")) ++
  textPlaceholder "m.room.history_visibility" "history_visibility"
    (if entry.worldReadable then some "world_readable" else none)

/-- The state events that stand for an entry. -/
def placeholders (entry : DirectoryEntry) : List Event :=
  match entry.room with
  | some room => entry.roomlessPlaceholders.map fun event => { event with room := some room }
  | none => entry.roomlessPlaceholders

end DirectoryEntry

end RoomHistory
