import RoomHistory.Text.Quoted

/-!
# Refused writes

Current state is read off a timeline and cannot be written.  An attempt names the slot that it
was aimed at.
-/

namespace RoomHistory

/-- What an attempted write was about. -/
inductive WriteTarget where
  /-- The event of a slot. -/
  | event
  /-- The content of a slot. -/
  | content
  deriving DecidableEq

namespace WriteTarget

/-- The words for the target in a refusal. -/
def words : WriteTarget → String
  | .event => "state"
  | .content => "state content"

/-- What is said to someone who would write to a slot. -/
def refusal (target : WriteTarget) (type key : String) : String :=
  "illegal write to derived room " ++ target.words ++ " (" ++ type ++ ", " ++ Quoted.quote key ++
    "); insert the event into the timeline instead"

end WriteTarget

end RoomHistory
