import Mathlib.Data.List.Basic
import Mathlib.Data.List.Induction
import RoomHistory.CurrentState.Derivation

/-!
# The newest event of a slot

What replaying the state events of a type leaves under a key is the last event of that slot, or
the default where the slot has none.  So the current state of a timeline is known once the newest
event of every slot is.
-/

namespace RoomHistory

/-- The last event of a list that speaks for a slot. -/
def newestOf? (slot : Slot) (events : List Event) : Option Event :=
  (events.filter fun event => event.slot? == some slot).getLast?

/-- The events of a list that speak for a slot. -/
def speakingFor (slot : Slot) (events : List Event) : List Event :=
  events.filter fun event => event.slot? == some slot

theorem getLast?_speakingFor (slot : Slot) (events : List Event) :
    (speakingFor slot events).getLast? = newestOf? slot events := rfl

theorem mem_speakingFor_iff
    {slot : Slot}
    {events : List Event}
    {event : Event} :
    event ∈ speakingFor slot events ↔ event ∈ events ∧ event.slot? = some slot := by
  rw [speakingFor, List.mem_filter, beq_iff_eq]

theorem speakingFor_cons (slot : Slot) (event : Event) (events : List Event) :
    speakingFor slot (event :: events) =
      if event.slot? = some slot then event :: speakingFor slot events
      else speakingFor slot events := by
  rw [speakingFor, List.filter_cons]
  by_cases speaks : event.slot? = some slot <;> simp [speaks, speakingFor]

theorem newestOf?_append (slot : Slot) (older newer : List Event) :
    newestOf? slot (older ++ newer) = (newestOf? slot newer).or (newestOf? slot older) := by
  rw [newestOf?, List.filter_append, List.getLast?_append]
  rfl

theorem newestOf?_singleton (slot : Slot) (event : Event) :
    newestOf? slot [event] = if event.slot? = some slot then some event else none := by
  rw [newestOf?, List.filter_cons]
  by_cases speaks : event.slot? = some slot <;> simp [speaks]

namespace CurrentState

/-- The places that a search names lead back to the events that passed its filter. -/
theorem filterMap_matching (timeline : Timeline) (passes : Event → Bool) :
    (timeline.matching fun event _ => passes event).reverse.filterMap timeline.event? =
      timeline.events.filter passes := by
  have located : ∀ entry ∈ timeline.events.zipIdx.filter fun entry => passes entry.1,
      timeline.event? entry.2 = some entry.1 := by
    intro entry present
    exact List.mem_zipIdx_iff_getElem?.mp (List.mem_filter.mp present).1
  rw [Timeline.matching, ← List.map_reverse, List.filter_reverse, List.reverse_reverse,
    List.filterMap_map]
  calc
    (timeline.events.zipIdx.filter fun entry => passes entry.1).filterMap
        (timeline.event? ∘ Prod.snd) =
        (timeline.events.zipIdx.filter fun entry => passes entry.1).map Prod.fst :=
      List.filterMap_eq_map_iff_forall_eq_some.mpr located
    _ = (timeline.events.zipIdx.map Prod.fst).filter passes := by
      rw [List.filter_map]
      rfl
    _ = timeline.events.filter passes := by
      rw [List.zipIdx_map_fst]

theorem eventsOf_eq (timeline : Timeline) (type : String) :
    eventsOf timeline type =
      timeline.events.filter fun event => event.isState && event.hasType type :=
  filterMap_matching timeline fun event => event.isState && event.hasType type

/-- Replaying events leaves under each key the last of those filed there. -/
theorem foldl_replay_getElem? (events : List Event) (state : StateByKey) (key : String) :
    (events.foldl replay state)[key]? =
      ((events.filter fun event => event.stateKey == some key).getLast?).or state[key]? := by
  induction events using List.reverseRecOn with
  | nil => rfl
  | append_singleton events event hypothesis =>
      rw [List.foldl_append, List.foldl_cons, List.foldl_nil, List.filter_append,
        List.getLast?_append, List.filter_cons]
      cases filed : event.stateKey with
      | none =>
          rw [replay, filed]
          simpa using hypothesis
      | some otherKey =>
          rw [replay_of_key filed, Std.ExtTreeMap.getElem?_insert]
          by_cases same : otherKey = key
          · simp [same]
          · simpa [same] using hypothesis

/-- The current state of a type has under each key the newest event of that slot, or the
default. -/
theorem ofTimeline_getElem? (timeline : Timeline) (type key : String) :
    (ofTimeline timeline type)[key]? =
      (newestOf? ⟨type, key⟩ timeline.events).or (initial type)[key]? := by
  have sameEvents :
      (timeline.events.filter fun event => event.isState && event.hasType type).filter
          (fun event => event.stateKey == some key) =
        timeline.events.filter fun event => event.slot? == some ⟨type, key⟩ := by
    rw [List.filter_filter]
    apply List.filter_congr
    intro event _
    cases filed : event.stateKey with
    | none => simp [Event.slot?, filed]
    | some otherKey =>
        rw [Bool.eq_iff_iff]
        simp [Event.slot?, Event.isState, Event.hasType, filed, and_comm]
  rw [ofTimeline, foldl_replay_getElem?, eventsOf_eq, sameEvents, newestOf?]

/-- Timelines with the same newest event in every slot of a type have the same state of it. -/
theorem ofTimeline_congr
    {left right : Timeline}
    (type : String)
    (same : ∀ key, newestOf? ⟨type, key⟩ left.events = newestOf? ⟨type, key⟩ right.events) :
    ofTimeline left type = ofTimeline right type := by
  apply Std.ExtTreeMap.ext_getElem?
  intro key
  rw [ofTimeline_getElem?, ofTimeline_getElem?, same]

end CurrentState

end RoomHistory
