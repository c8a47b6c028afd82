import RoomHistory.Room.Basic

/-!
# Asking for pages

A page is asked for at the current cursor under a new ticket.  Its answer always inserts its
events, and moves the cursor if the ticket is still the latest answered.
-/

namespace RoomHistory

namespace Room

/-- Takes a ticket and words the query that goes with it. -/
def requestPage (room : Room) (direction : Direction) (limit : Nat) :
    Ticket × PageQuery × Room :=
  let (ticket, cursors) := room.cursors.take direction
  (ticket, ⟨(cursors.get direction).token, none, direction, limit⟩,
    { room with cursors := cursors })

/-- Applies the answer to a query. -/
def receivePage (room : Room) (now : Moment) (ticket : Ticket) (page : Page) :
    Outcome × Room :=
  let (outcome, inserted) := room.insertValues now page.chunk
  (outcome, { inserted with cursors := inserted.cursors.answer ticket page })

/-- Asks a server for a page and applies it.  A failing server costs a ticket and nothing else. -/
def fetchPage (room : Room) (now : Moment) (server : PageServer) (direction : Direction)
    (limit : Nat) : Except Error Outcome × Room :=
  let (ticket, query, begun) := room.requestPage direction limit
  match server room.id query with
  | .ok page =>
      let (outcome, completed) := begun.receivePage now ticket page
      (.ok outcome, completed)
  | .error error => (.error error, begun)

end Room

end RoomHistory
