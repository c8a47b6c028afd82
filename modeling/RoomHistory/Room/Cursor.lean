import RoomHistory.Delivery.Page

/-!
# Page cursors

A cursor holds the token at which the next page of one direction starts.  Requests may overlap:
each takes a numbered ticket, and an answer moves the cursor only if no answer to a later ticket
of the same direction has moved it before.
-/

namespace RoomHistory

/-- Where the next page of one direction starts. -/
structure Cursor where
  token : Option String
  /-- The ticket that last moved the cursor; zero if none has. -/
  movedBy : Nat
  /-- Whether the direction is known to hold nothing more. -/
  exhausted : Bool
  deriving DecidableEq

/-- A request in flight. -/
structure Ticket where
  direction : Direction
  number : Nat
  deriving DecidableEq

/-- The cursors of a room. -/
structure Cursors where
  /-- How many tickets were taken. -/
  taken : Nat
  backward : Cursor
  forward : Cursor
  deriving DecidableEq

namespace Cursor

/-- A cursor that nothing is known of. -/
def initial : Cursor := ⟨none, 0, false⟩

/-- Sets the token where none is known and there may be more. -/
def suggest (cursor : Cursor) (token : String) : Cursor :=
  if cursor.token.isNone && !cursor.exhausted then { cursor with token := some token } else cursor

/-- The cursor moved to the end of a page: an empty page ends the direction, and exhausts it
when it was history. -/
def moveTo (cursor : Cursor) (ticket : Ticket) (page : Page) : Cursor :=
  if page.chunk.isEmpty then
    { token := none
      movedBy := ticket.number
      exhausted := decide (ticket.direction = .backward) }
  else { cursor with token := page.stop, movedBy := ticket.number }

/-- The cursor after an answer, which moves it unless a later ticket has. -/
def answer (cursor : Cursor) (ticket : Ticket) (page : Page) : Cursor :=
  if cursor.movedBy < ticket.number then cursor.moveTo ticket page else cursor

end Cursor

namespace Cursors

/-- Cursors that nothing is known of. -/
def initial : Cursors := ⟨0, .initial, .initial⟩

/-- The cursor of a direction. -/
def get (cursors : Cursors) : Direction → Cursor
  | .backward => cursors.backward
  | .forward => cursors.forward

/-- Replaces the cursor of a direction. -/
def set (cursors : Cursors) (direction : Direction) (cursor : Cursor) : Cursors :=
  match direction with
  | .backward => { cursors with backward := cursor }
  | .forward => { cursors with forward := cursor }

/-- Takes the next ticket for a direction. -/
def take (cursors : Cursors) (direction : Direction) : Ticket × Cursors :=
  (⟨direction, cursors.taken + 1⟩, { cursors with taken := cursors.taken + 1 })

/-- Sets the token into history where none is known and there may be more. -/
def suggestHistory (cursors : Cursors) (token : String) : Cursors :=
  { cursors with backward := cursors.backward.suggest token }

/-- The cursors after an answer. -/
def answer (cursors : Cursors) (ticket : Ticket) (page : Page) : Cursors :=
  cursors.set ticket.direction ((cursors.get ticket.direction).answer ticket page)

@[simp] theorem get_set_self (cursors : Cursors) (direction : Direction) (cursor : Cursor) :
    (cursors.set direction cursor).get direction = cursor := by
  cases direction <;> rfl

/-- Replacing one cursor leaves the other as it was. -/
theorem get_set_of_ne {direction other : Direction} (differs : other ≠ direction)
    (cursors : Cursors) (cursor : Cursor) :
    (cursors.set direction cursor).get other = cursors.get other := by
  cases direction <;> cases other <;> first | rfl | exact absurd rfl differs

@[simp] theorem get_take (cursors : Cursors) (direction other : Direction) :
    (cursors.take direction).2.get other = cursors.get other := by
  cases other <;> rfl

end Cursors

end RoomHistory
