import RoomHistory.Proofs.Room.Changes

/-!
# Requests that a room refuses

A request fails if the server that it asks does, if an event of its type waits already, or if its
transaction is not one that waits.  A room that has refused a request looks as it did before: at
most a ticket was spent, with which nothing was done.
-/

namespace RoomHistory

/-- Why an operation failed, if it did. -/
def refusalOf {α : Type} : Except Error α → Option Error
  | .ok _ => none
  | .error error => some error

namespace Outbox

/-- Nothing is taken out under a transaction exactly if no event waits under it. -/
theorem take?_eq_none_iff (outbox : Outbox) (transaction : String) :
    outbox.take? transaction = none ↔
      ∀ (type : String) (pending : OutboxEntry), outbox.entries[type]? = some pending →
        pending.transaction ≠ transaction := by
  rw [take?, Option.map_eq_none_iff, find?, List.find?_eq_none]
  simp only [beq_iff_eq, mem_values_iff]
  constructor
  · intro noneThere type pending present
    exact noneThere pending ⟨type, present⟩
  · rintro noneThere pending ⟨type, present⟩
    exact noneThere type pending present

end Outbox

namespace Room

/-- A room looks like another to everyone who asks. -/
structure LooksLike (later room : Room) : Prop where
  id : later.id = room.id
  user : later.user = room.user
  isLocal : later.isLocal = room.isLocal
  membership : later.membership = room.membership
  events : later.timeline.events = room.timeline.events
  generation : later.timeline.generation = room.timeline.generation
  changedAt : later.timeline.changedAt = room.timeline.changedAt
  horizon : later.timeline.horizon = room.timeline.horizon
  policy : later.timeline.policy = room.timeline.policy
  outbox : later.outbox = room.outbox
  cursors : ∀ direction, later.cursors.get direction = room.cursors.get direction
  state : ∀ type, (later.state type).1 = (room.state type).1
  directoryEntry : later.directoryEntry.1 = room.directoryEntry.1
  /-- A page is asked for in the same words. -/
  query : ∀ direction limit,
    (later.requestPage direction limit).2.1 = (room.requestPage direction limit).2.1

theorem LooksLike.refl (room : Room) : room.LooksLike room :=
  ⟨rfl, rfl, rfl, rfl, rfl, rfl, rfl, rfl, rfl, rfl, fun _ => rfl, fun _ => rfl, rfl,
    fun _ _ => rfl⟩

/-- A ticket that is taken does not show. -/
theorem requestPage_looksLike (room : Room) (direction : Direction) (limit : Nat) :
    (room.requestPage direction limit).2.2.LooksLike room where
  id := rfl
  user := rfl
  isLocal := rfl
  membership := rfl
  events := rfl
  generation := rfl
  changedAt := rfl
  horizon := rfl
  policy := rfl
  outbox := rfl
  cursors := room.cursors.get_take direction
  state _ := rfl
  directoryEntry := rfl
  query other limit := by
    show PageQuery.mk (((room.cursors.take direction).2.take other).2.get other).token none other
      limit = PageQuery.mk ((room.cursors.take other).2.get other).token none other limit
    rw [Cursors.get_take, Cursors.get_take, Cursors.get_take]

/-- That its horizon was asked for does not show. -/
theorem rememberHorizon_looksLike (room : Room) : room.rememberHorizon.LooksLike room where
  id := rfl
  user := rfl
  isLocal := rfl
  membership := rfl
  events := rfl
  generation := rfl
  changedAt := rfl
  horizon := room.timeline.horizon_rememberHorizon
  policy := rfl
  outbox := rfl
  cursors _ := rfl
  state _ := rfl
  directoryEntry := rfl
  query _ _ := rfl

/-- Why a room refuses a request, if it does. -/
def refusal? (room : Room) : Request → Option Error
  | .fetchPage now server direction limit =>
      refusalOf (room.fetchPage now server direction limit).1
  | .issue now type stateKey content => refusalOf (room.issue now type stateKey content)
  | .confirm now transaction id => refusalOf (room.confirm now transaction id)
  | .abandon transaction => refusalOf (room.abandon transaction)
  | .insert _ _ | .insertValues _ _ | .sync _ _ _ | .requestPage _ _ | .receivePage _ _ _
  | .state _ | .directoryEntry | .forgetState _ | .horizon => none

/-- No event waits under a transaction. -/
def LacksTransaction (room : Room) (transaction : String) : Prop :=
  ∀ (type : String) (pending : OutboxEntry), room.pending? type = some pending →
    pending.transaction ≠ transaction

/-- The causes for which a room refuses requests. -/
inductive Refuses (room : Room) : Request → Error → Prop where
  /-- The server that is asked for a page fails. -/
  | fetchPage {now : Moment} {server : PageServer} {direction : Direction} {limit : Nat}
      {error : Error}
      (fails : server room.id (room.requestPage direction limit).2.1 = .error error) :
      Refuses room (.fetchPage now server direction limit) error
  /-- An event of the type waits already. -/
  | issue {now : Timestamp} {type : String} {stateKey : Option String} {content : Json}
      {pending : OutboxEntry}
      (waits : room.pending? type = some pending) :
      Refuses room (.issue now type stateKey content) (.typePending type)
  | confirm {now : Moment} {transaction : String} {id : EventId}
      (lacks : room.LacksTransaction transaction) :
      Refuses room (.confirm now transaction id) (.unknownTransaction transaction)
  | abandon {transaction : String}
      (lacks : room.LacksTransaction transaction) :
      Refuses room (.abandon transaction) (.unknownTransaction transaction)

section

variable {room : Room} {request : Request} {error : Error}

theorem takePending_of_lacks {transaction : String} (lacks : room.LacksTransaction transaction) :
    room.takePending transaction = .error (.unknownTransaction transaction) := by
  rw [takePending, (room.outbox.take?_eq_none_iff transaction).mpr lacks]

/-- Taking an event out of the outbox fails only if none waits under its transaction. -/
theorem lacks_of_takePending_refused
    {transaction : String}
    (refused : refusalOf (room.takePending transaction) = some error) :
    room.LacksTransaction transaction ∧ .unknownTransaction transaction = error := by
  rw [takePending] at refused
  cases takes : room.outbox.take? transaction with
  | none =>
      rw [takes] at refused
      exact ⟨(room.outbox.take?_eq_none_iff transaction).mp takes, Option.some.inj refused⟩
  | some result =>
      rw [takes] at refused
      cases refused

/-- A confirmation fails exactly if the event cannot be taken out of the outbox. -/
theorem refusalOf_confirm
    (room : Room)
    (now : Moment)
    (transaction : String)
    (id : EventId) :
    refusalOf (room.confirm now transaction id) = refusalOf (room.takePending transaction) := by
  rw [confirm]
  cases room.takePending transaction <;> rfl

/-- For each of the causes a room refuses. -/
theorem refusal?_eq_of_refuses (refuses : room.Refuses request error) :
    room.refusal? request = some error := by
  cases refuses with
  | fetchPage fails =>
      simp only [refusal?, fetchPage, fails]
      rfl
  | @issue now type stateKey content pending waits =>
      have waiting : room.outbox.pending? type = some pending := waits
      rw [refusal?, issue, waiting]
      rfl
  | confirm lacks =>
      rw [refusal?, refusalOf_confirm, takePending_of_lacks lacks]
      rfl
  | abandon lacks =>
      rw [refusal?, abandon, takePending_of_lacks lacks]
      rfl

/-- A room refuses for no other cause. -/
theorem refuses_of_refusal?_eq (refused : room.refusal? request = some error) :
    room.Refuses request error := by
  cases request with
  | fetchPage now server direction limit =>
      rw [refusal?, fetchPage] at refused
      refine .fetchPage ?_
      cases answers : server room.id (room.requestPage direction limit).2.1 with
      | ok page =>
          simp only [answers] at refused
          cases refused
      | error cause =>
          simp only [answers] at refused
          rw [Option.some.inj refused]
  | issue now type stateKey content =>
      rw [refusal?, issue] at refused
      cases waits : room.outbox.pending? type with
      | none =>
          rw [waits] at refused
          cases refused
      | some pending =>
          rw [waits] at refused
          rw [← Option.some.inj refused]
          exact .issue waits
  | confirm now transaction id =>
      rw [refusal?, refusalOf_confirm] at refused
      obtain ⟨lacks, rfl⟩ := lacks_of_takePending_refused refused
      exact .confirm lacks
  | abandon transaction =>
      obtain ⟨lacks, rfl⟩ := lacks_of_takePending_refused refused
      exact .abandon lacks
  | insert now events => cases refused
  | insertValues now values => cases refused
  | sync now batch action => cases refused
  | requestPage direction limit => cases refused
  | receivePage now ticket page => cases refused
  | state type => cases refused
  | directoryEntry => cases refused
  | forgetState type => cases refused
  | horizon => cases refused

/-- A room that refuses a request does at most take a ticket, and has nothing to tell. -/
theorem serve_of_refuses (refuses : room.Refuses request error) :
    (room.serve request = room ∨
      ∃ direction limit, room.serve request = (room.requestPage direction limit).2.2) ∧
    room.allNotices (room.changesBy request) = [] := by
  cases refuses with
  | @fetchPage now server direction limit error fails =>
      refine ⟨Or.inr ⟨direction, limit, ?_⟩, ?_⟩
      · simp only [serve, fetchPage, fails]
      · simp only [changesBy, fails]
        rfl
  | @issue now type stateKey content pending waits =>
      have waiting : room.outbox.pending? type = some pending := waits
      refine ⟨Or.inl ?_, ?_⟩
      · rw [serve, issue, waiting]
        rfl
      · rw [changesBy, issue, waiting]
        rfl
  | confirm lacks =>
      have fails := takePending_of_lacks lacks
      refine ⟨Or.inl ?_, ?_⟩
      · rw [serve, confirm, fails]
        rfl
      · rw [changesBy, fails]
        rfl
  | abandon lacks =>
      refine ⟨Or.inl ?_, rfl⟩
      rw [serve, abandon, takePending_of_lacks lacks]
      rfl

/-- A room that has refused a request looks as it did before. -/
theorem looksLike_of_refuses (refuses : room.Refuses request error) :
    (room.serve request).LooksLike room := by
  rcases (serve_of_refuses refuses).1 with same | ⟨direction, limit, asked⟩
  · rw [same]
    exact .refl room
  · rw [asked]
    exact room.requestPage_looksLike direction limit

end

end Room

end RoomHistory
