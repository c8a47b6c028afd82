/-!
# Identifiers, clocks and directions

Events, rooms and users are named by texts of the form `sigil local:server`, which are compared by
code point.  A timeline counts its changes in generations, and times are milliseconds since 1970.
-/

namespace RoomHistory

/-- The name of an event; events that the server has not named have the empty one. -/
abbrev EventId := String

/-- The name of a room. -/
abbrev RoomId := String

/-- The name of a user. -/
abbrev UserId := String

/-- Milliseconds since the start of 1970. -/
abbrev Timestamp := Int

/-- How many changes a timeline has seen. -/
abbrev Generation := Nat

/-- The part of an identifier after its first colon, if it has a colon. -/
def serverChars? : List Char → Option (List Char)
  | [] => none
  | character :: rest => if character = ':' then some rest else serverChars? rest

/-- The server of an identifier, if it names one. -/
def serverOf? (identifier : String) : Option String :=
  (serverChars? identifier.toList).map String.ofList

/-- The end at which a timeline grows or a page is asked for. -/
inductive Direction where
  /-- Into history. -/
  | backward
  /-- Toward the present. -/
  | forward
  deriving DecidableEq

namespace Direction

/-- The name of a direction in requests and notices. -/
def name : Direction → String
  | .backward => "b"
  | .forward => "f"

/-- The direction of a name. -/
def ofName? : String → Option Direction
  | "b" => some .backward
  | "f" => some .forward
  | _ => none

@[simp] theorem ofName?_name (direction : Direction) : ofName? direction.name = some direction := by
  cases direction <;> rfl

end Direction

/-- The standing of the local user in a room, and so the list of a sync that the room is in. -/
inductive Membership where
  | join
  | leave
  | invite
  deriving DecidableEq

namespace Membership

/-- The name of a membership in events and notices. -/
def name : Membership → String
  | .join => "join"
  | .leave => "leave"
  | .invite => "invite"

/-- The membership of a name. -/
def ofName? : String → Option Membership
  | "join" => some .join
  | "leave" => some .leave
  | "invite" => some .invite
  | _ => none

/-- The place of a membership in the order of events. -/
def rank : Membership → Nat
  | .join => 0
  | .leave => 1
  | .invite => 2

instance : Ord Membership := ⟨fun left right => compare left.rank right.rank⟩

@[simp] theorem ofName?_name (membership : Membership) :
    ofName? membership.name = some membership := by
  cases membership <;> rfl

end Membership

end RoomHistory
