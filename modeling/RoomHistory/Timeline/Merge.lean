import RoomHistory.Event.Order
import RoomHistory.Sorting.Pivot

/-!
# Merging events

Events are arranged by their order, events that compare equal keeping their sequence.  The order
has cycles among contents that hold zeros of both signs, and there the result depends on how the
events are sorted: a few by insertion, many by runs and pivots, which may find no order at all.
Of the events with one id only the first is kept, and an event without an id is dropped when it
equals the event kept just before it.
-/

namespace RoomHistory

/-- How many events are few. -/
def fewEvents : Nat := 20

/-- Whether every event comes before all later ones that are not the same event again. -/
def isChain (events : List Event.Ranked) : Bool :=
  decide (events.Pairwise fun older newer =>
    older.precedes newer = true ∨ older.event = newer.event)

/-- The events of a list, oldest first, if there is an order.  Where they form a chain every way to
sort them leads there, and otherwise many events are sorted as long lists are. -/
def arrangeRanked? (events : List Event.Ranked) : Option (List Event.Ranked) :=
  let arranged := Sorting.byInsertion Event.Ranked.precedes events
  if events.length ≤ fewEvents || isChain arranged then some arranged
  else Sorting.sort? Event.Ranked.precedes events

/-- The events of a list, oldest first, if there is an order. -/
def arrange? (events : List Event) : Option (List Event) :=
  (arrangeRanked? (events.map Event.ranked)).map fun arranged => arranged.map (·.event)

/-- Whether an event is new to the events kept so far, the last kept standing first. -/
def isFresh (kept : List Event) (event : Event) : Bool :=
  if event.hasId then kept.all (·.id != event.id) else kept.head? != some event

/-- Keeps an event that is new. -/
def keepFresh (kept : List Event) (event : Event) : List Event :=
  if isFresh kept event then event :: kept else kept

/-- The events of a list without repeats. -/
def distinct (events : List Event) : List Event :=
  (events.foldl keepFresh []).reverse

/-- The events held and those of an arranged batch, arranged and without repeats, if there is an
order. -/
def merge? (held batch : List Event) : Option (List Event) :=
  (arrange? (held ++ batch)).map distinct

/-- Whether every event of a list comes strictly before the next. -/
def isAscending : List Event → Bool
  | first :: second :: rest => first.precedes second && isAscending (second :: rest)
  | _ => true

/-- The id of the last event of a list. -/
def lastId? (events : List Event) : Option EventId :=
  events.getLast?.map (·.id)

/-- An arranged batch whose newest event is not the newest of all came from history. -/
def directionOf (merged batch : List Event) : Direction :=
  if lastId? merged = lastId? batch then .forward else .backward

end RoomHistory
