import RoomHistory.Feed.Filter

/-!
# Streams of notices

A stream passes notices to one receiver in the order in which they were sent.  It holds a bounded
number of them: sending fails, and changes nothing, when that many wait or the receiver is gone.
-/

namespace RoomHistory

/-- Notices on their way to one receiver, the next to be received first. -/
structure NoticeStream where
  capacity : Nat
  waiting : List Notice
  /-- Whether the receiver is still there. -/
  hasReceiver : Bool
  deriving DecidableEq

namespace NoticeStream

/-- A stream that has passed nothing yet. -/
def ofCapacity (capacity : Nat) : NoticeStream := ⟨capacity, [], true⟩

/-- Whether one more notice can be sent. -/
def accepts (stream : NoticeStream) : Bool :=
  stream.hasReceiver && decide (stream.waiting.length < stream.capacity)

/-- The stream after a notice was sent, unless sending fails. -/
def send? (stream : NoticeStream) (notice : Notice) : Option NoticeStream :=
  if stream.accepts then some { stream with waiting := stream.waiting ++ [notice] } else none

/-- Sends a notice if that does not fail. -/
def offer (stream : NoticeStream) (notice : Notice) : NoticeStream :=
  (stream.send? notice).getD stream

/-- The next notice, and the stream without it. -/
def receive? (stream : NoticeStream) : Option (Notice × NoticeStream) :=
  match stream.waiting with
  | [] => none
  | notice :: rest => some (notice, { stream with waiting := rest })

/-- All notices that wait, and the stream without them. -/
def drain (stream : NoticeStream) : List Notice × NoticeStream :=
  (stream.waiting, { stream with waiting := [] })

/-- The stream after its receiver has gone. -/
def abandon (stream : NoticeStream) : NoticeStream :=
  { stream with hasReceiver := false }

end NoticeStream

end RoomHistory
