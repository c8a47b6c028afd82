import RoomHistory.Identifier

/-!
# Errors

An operation fails for one of the causes below; `Error.message` words each of them.
-/

namespace RoomHistory

/-- Why a JSON value is no event. -/
inductive EventFault where
  /-- The value, of the given kind, is not an object. -/
  | notAnObject (kind : String)
  /-- The event, of the given type, has no id. -/
  | withoutId (type : String)
  /-- A field is missing or of the wrong sort. -/
  | undecodable
  deriving DecidableEq

/-- Why an operation is refused whatever the state of rooms. -/
inductive Misuse where
  /-- A local room would take the place of a known one. -/
  | roomExists (room : RoomId)
  /-- A subscription could never hold a notice. -/
  | emptyBuffer
  deriving DecidableEq

/-- Why an operation fails. -/
inductive Error where
  | unknownRoom (room : RoomId)
  | unknownTransaction (transaction : String)
  /-- An event of the given type already waits for confirmation. -/
  | typePending (type : String)
  | malformed (fault : EventFault)
  /-- A page could not be had, for the reason given. -/
  | source (reason : String)
  | subscriptionEnded
  | misuse (fault : Misuse)
  deriving DecidableEq

namespace EventFault

/-- The wording of a fault; one that only says that decoding failed has none. -/
def message? : EventFault → Option String
  | .notAnObject kind => some ("expected an object, got " ++ kind)
  | .withoutId type => some (type ++ " event without event_id")
  | .undecodable => none

end EventFault

namespace Misuse

/-- The wording of a misuse. -/
def message : Misuse → String
  | .roomExists room => "room " ++ room ++ " already exists"
  | .emptyBuffer => "subscription buffer must be non-zero"

end Misuse

namespace Error

/-- The name of the kind of an error. -/
def kind : Error → String
  | .unknownRoom _ => "RoomNotFound"
  | .unknownTransaction _ => "PendingNotFound"
  | .typePending _ => "PendingConflict"
  | .malformed _ => "Malformed"
  | .source _ => "Source"
  | .subscriptionEnded => "SubscriptionDropped"
  | .misuse _ => "InvalidOperation"

/-- The wording of an error, unless only decoding failed. -/
def message? : Error → Option String
  | .unknownRoom room => some ("Room not found: " ++ room)
  | .unknownTransaction transaction => some ("No pending event for transaction " ++ transaction)
  | .typePending type => some ("An event of type " ++ type ++ " is already pending")
  | .malformed fault => fault.message?.map ("Malformed event: " ++ ·)
  | .source reason => some ("Page source error: " ++ reason)
  | .subscriptionEnded => some "Subscription dropped"
  | .misuse fault => some ("Invalid operation: " ++ fault.message)

end Error

end RoomHistory
