import Std.Data.ExtTreeMap
import RoomHistory.Event.Basic

/-!
# Events awaiting confirmation

An event that the local user sends waits in the outbox until the server confirms it with an id.
At most one event of each type waits.  Transactions are numbered, so that none is used twice even
when the clock stands still or goes back.
-/

namespace RoomHistory

/-- An event that waits for confirmation. -/
structure OutboxEntry where
  transaction : String
  event : Event
  issuedAt : Timestamp

/-- The waiting events, by type. -/
structure Outbox where
  entries : Std.ExtTreeMap String OutboxEntry
  /-- How many transactions were started. -/
  started : Nat

namespace Outbox

/-- No events, no transactions. -/
def empty : Outbox := ⟨∅, 0⟩

/-- The event of a type that waits. -/
def pending? (outbox : Outbox) (type : String) : Option OutboxEntry :=
  outbox.entries[type]?

/-- How many events wait. -/
def count (outbox : Outbox) : Nat :=
  outbox.entries.size

/-- The name of the transaction of a number started at a time. -/
def transactionName (now : Timestamp) (number : Nat) : String :=
  "m" ++ toString now ++ "." ++ toString number

/-- The name of the next transaction. -/
def nextTransaction (outbox : Outbox) (now : Timestamp) : String :=
  transactionName now (outbox.started + 1)

/-- The outbox after the next transaction has put an event into it. -/
def add (outbox : Outbox) (pending : OutboxEntry) : Outbox :=
  ⟨outbox.entries.insert pending.event.type pending, outbox.started + 1⟩

/-- The event that waits under a transaction. -/
def find? (outbox : Outbox) (transaction : String) : Option OutboxEntry :=
  outbox.entries.values.find? (·.transaction == transaction)

/-- The event that waits under a transaction, and the outbox without it. -/
def take? (outbox : Outbox) (transaction : String) : Option (OutboxEntry × Outbox) :=
  (outbox.find? transaction).map fun pending =>
    (pending, { outbox with entries := outbox.entries.erase pending.event.type })

@[simp] theorem started_add (outbox : Outbox) (pending : OutboxEntry) :
    (outbox.add pending).started = outbox.started + 1 := rfl

/-- The event added is the one that waits of its type. -/
@[simp] theorem pending?_add_self (outbox : Outbox) (pending : OutboxEntry) :
    (outbox.add pending).pending? pending.event.type = some pending := by
  simp [add, pending?]

end Outbox

end RoomHistory
