import RoomHistory.Loop
import RoomHistory.Timeline.Basic

/-!
# Keeping to the budget

The budget of a timeline counts only events that are not state events.  A timeline that grows
toward the present gives up its oldest such events, one after another.  The state events right
behind an event that is given up join the front, each in place of the older events of its slot.  A
timeline that grows into history gives up its newest events, whatever they are.

Events are named by their places, which shift whenever an older event is given up, and all that are
given up are counted.  There is no result where an event is looked for at a place that has none.
-/

namespace RoomHistory

/-- Events of which some join the front. -/
structure Sweep where
  /-- Oldest first. -/
  events : List Event
  /-- The place of the event that joins the front. -/
  joining : Nat
  /-- The place behind the last event that joins the front. -/
  stop : Nat
  /-- How many events were given up. -/
  removed : Nat

namespace Sweep

/-- Gives up the event at a place of the front. -/
def giveUp (sweep : Sweep) (place : Nat) : Sweep where
  events := sweep.events.eraseIdx place
  joining := sweep.joining - 1
  stop := sweep.stop - 1
  removed := sweep.removed + 1

/-- Gives up the event at a place of the front if it shares a slot with the event that joins, and
else goes on to the next place. -/
def compare? : Nat × Sweep → Option (Nat × Sweep)
  | (place, sweep) => do
      let older ← sweep.events[place]?
      let joins ← sweep.events[sweep.joining]?
      return if older.sharesSlot joins then (place, sweep.giveUp place) else (place + 1, sweep)

/-- Lets an event join the front in place of the older events of its slot. -/
def join? (sweep : Sweep) : Option Sweep := do
  let (_, swept) ← repeatWhile? (fun (place, sweep) => decide (place < sweep.joining)) compare?
    sweep.joining (0, sweep)
  return { swept with joining := swept.joining + 1 }

/-- Lets all events before the stop join the front, one after another. -/
def joinAll? (sweep : Sweep) : Option Sweep :=
  repeatWhile? (fun sweep => decide (sweep.joining < sweep.stop)) join?
    (sweep.stop - sweep.joining) sweep

end Sweep

/-- Events of which some are given up. -/
structure Eviction where
  /-- Oldest first. -/
  events : List Event
  /-- How many of them are not state events. -/
  used : Nat
  /-- How many events were given up. -/
  removed : Nat

namespace Eviction

/-- Nothing is given up yet. -/
def ofEvents (events : List Event) : Eviction := ⟨events, budgetUse events, 0⟩

/-- Whether the budget is exceeded. -/
def exceeds (limit : Nat) (eviction : Eviction) : Bool :=
  decide (limit < eviction.used)

/-- Gives up the event at the horizon, and lets the state events right behind it join the front. -/
def dropOldest? (eviction : Eviction) : Option Eviction := do
  let horizon := horizonOf eviction.events
  let left := eviction.events.eraseIdx horizon
  let swept ← Sweep.joinAll? ⟨left, horizon, horizonOf left, eviction.removed + 1⟩
  return ⟨swept.events, eviction.used - 1, swept.removed⟩

/-- Gives up the newest event. -/
def dropNewest? (eviction : Eviction) : Option Eviction :=
  eviction.events.getLast?.map fun newest =>
    { events := eviction.events.dropLast
      used := if newest.isState then eviction.used else eviction.used - 1
      removed := eviction.removed + 1 }

/-- Gives up events at the horizon as long as the budget is exceeded and there are any. -/
def oldest? (limit : Nat) (events : List Event) : Option Eviction :=
  repeatWhile?
    (fun eviction =>
      eviction.exceeds limit && horizonOf eviction.events != eviction.events.length)
    dropOldest? (budgetUse events) (.ofEvents events)

/-- Gives up the newest events as long as the budget is exceeded and there are any. -/
def newest? (limit : Nat) (events : List Event) : Option Eviction :=
  repeatWhile? (fun eviction => eviction.exceeds limit && !eviction.events.isEmpty)
    dropNewest? events.length (.ofEvents events)

end Eviction

/-- The events that a budget leaves after growth in the given direction, and how many others were
given up.  A window within the budget is left as it is. -/
def trim? (limit : Nat) (direction : Direction) (events : List Event) :
    Option (List Event × Nat) :=
  if limit = 0 then some (events, 0)
  else if events.length - horizonOf events < limit then some (events, 0)
  else
    let evicts? := match direction with
      | .backward => Eviction.newest? limit events
      | .forward => Eviction.oldest? limit events
    evicts?.map fun eviction => (eviction.events, eviction.removed)

end RoomHistory
