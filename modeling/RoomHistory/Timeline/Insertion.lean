import RoomHistory.Event.Completion
import RoomHistory.Event.Wire
import RoomHistory.Timeline.Eviction
import RoomHistory.Timeline.Merge

/-!
# Inserting batches

A batch is completed, merged, and the budget restored at the end opposite to the growth.  Nobody
says which way a timeline grows: it is read off from where the newest event of the batch ends up.
An empty batch changes nothing.

An insertion counts what it adds, and stops where there is nothing to count: if no order is found,
or if fewer events are left than were held, as events held that equal each other may come to stand
side by side where the order has a cycle.  Its outcome says so.  Nothing comes after an insertion
that stops, so it does not matter that the timeline then stands as it did before.
-/

namespace RoomHistory

/-- What an insertion did. -/
structure Outcome where
  /-- How many events the timeline held more before the budget was restored. -/
  added : Nat
  /-- How many events of the batch did not add to that. -/
  duplicates : Nat
  /-- How many values of the batch were no events. -/
  skipped : Nat
  /-- How many events were given up. -/
  trimmed : Nat
  /-- Which way the timeline grew, unless the batch was empty. -/
  direction : Option Direction
  /-- The generation afterwards. -/
  generation : Generation
  /-- Whether the insertion stopped before it was done. -/
  failed : Bool
  deriving DecidableEq

namespace Outcome

/-- Nothing done at a generation. -/
def idle (generation : Generation) : Outcome := ⟨0, 0, 0, 0, none, generation, false⟩

/-- An insertion that stopped at a generation. -/
def failure (generation : Generation) : Outcome := { idle generation with failed := true }

end Outcome

namespace Timeline

/-- The events of a batch as they enter the timeline. -/
def completeBatch (timeline : Timeline) (arrival : Arrival) (batch : List Event) : List Event :=
  batch.map (Event.complete (arrival.orRoom timeline.room))

/-- The timeline after a change at the time `clock`. -/
def stamp (timeline : Timeline) (clock : Timestamp) : Timeline :=
  { timeline with generation := timeline.generation + 1, changedAt := clock }

/-- A completed batch, arranged, and the events held merged with it. -/
def merged? (timeline : Timeline) (completed : List Event) : Option (List Event × List Event) := do
  let batch ← arrange? completed
  let merged ← merge? timeline.events batch
  return (batch, merged)

/-- Takes the events held and those of an arranged batch, merged, unless they are fewer than were
held, and restores the budget. -/
def accept? (timeline : Timeline) (clock : Timestamp) (batch merged : List Event) :
    Option (Outcome × Timeline) :=
  if merged.length < timeline.length then none
  else do
    let added := merged.length - timeline.length
    let direction := directionOf merged batch
    let (kept, trimmed) ← trim? timeline.policy.limit direction merged
    let changed := { timeline with events := kept }.stamp clock
    return ({ added := added
              duplicates := batch.length - added
              skipped := 0
              trimmed := trimmed
              direction := some direction
              generation := changed.generation
              failed := false }, changed)

/-- Merges a completed batch that is not empty. -/
def insertCompleted (timeline : Timeline) (clock : Timestamp) (completed : List Event) :
    Outcome × Timeline :=
  match timeline.merged? completed with
  | some (batch, merged) =>
      (timeline.accept? clock batch merged).getD (.failure timeline.generation, timeline)
  | none => (.failure timeline.generation, timeline)

/-- Inserts a batch of events. -/
def insert (timeline : Timeline) (arrival : Arrival) (clock : Timestamp) (batch : List Event) :
    Outcome × Timeline :=
  match timeline.completeBatch arrival batch with
  | [] => (.idle timeline.generation, timeline)
  | completed => timeline.insertCompleted clock completed

/-- The events among values received from a server. -/
def received (values : List Json) : List Event :=
  values.filterMap fun value => (Event.receive value).toOption

/-- The events among values received from a server, and how many other values there are. -/
def receiveAll : List Json → List Event × Nat
  | [] => ([], 0)
  | value :: rest =>
      let (events, skipped) := receiveAll rest
      match Event.receive value with
      | .ok event => (event :: events, skipped)
      | .error _ => (events, skipped + 1)

/-- Inserts the events among values received from a server and counts the other values. -/
def insertValues (timeline : Timeline) (arrival : Arrival) (clock : Timestamp)
    (values : List Json) : Outcome × Timeline :=
  let (batch, skipped) := receiveAll values
  let (outcome, changed) := timeline.insert arrival clock batch
  ({ outcome with skipped := skipped }, changed)

/-- The events found are those received. -/
@[simp] theorem receiveAll_fst (values : List Json) : (receiveAll values).1 = received values := by
  induction values with
  | nil => rfl
  | cons value rest hypothesis =>
      rw [receiveAll, received, List.filterMap_cons]
      cases Event.receive value with
      | ok event => exact congrArg (event :: ·) hypothesis
      | error error => exact hypothesis

/-- Every value is an event or counted. -/
theorem length_receiveAll (values : List Json) :
    (received values).length + (receiveAll values).2 = values.length := by
  induction values with
  | nil => rfl
  | cons value rest hypothesis =>
      rw [receiveAll, received, List.filterMap_cons]
      cases Event.receive value with
      | ok event =>
          show (received rest).length + 1 + (receiveAll rest).2 = rest.length + 1
          omega
      | error error => exact congrArg (· + 1) hypothesis

/-- Values that are no events change nothing but the count of them. -/
theorem insertValues_eq (timeline : Timeline) (arrival : Arrival) (clock : Timestamp)
    (values : List Json) :
    timeline.insertValues arrival clock values =
      ({ (timeline.insert arrival clock (received values)).1 with
          skipped := (receiveAll values).2 },
        (timeline.insert arrival clock (received values)).2) := by
  rw [← receiveAll_fst]
  rfl

@[simp] theorem insert_nil (timeline : Timeline) (arrival : Arrival) (clock : Timestamp) :
    timeline.insert arrival clock [] = (.idle timeline.generation, timeline) := rfl

/-- A batch that is not empty is completed and merged. -/
theorem insert_of_ne_nil (timeline : Timeline) (arrival : Arrival) (clock : Timestamp)
    {batch : List Event} (nonempty : batch ≠ []) :
    timeline.insert arrival clock batch =
      timeline.insertCompleted clock (timeline.completeBatch arrival batch) := by
  cases batch with
  | nil => exact absurd rfl nonempty
  | cons event rest => rfl

end Timeline

end RoomHistory
