import RoomHistory.Proofs.CurrentState.Freshness
import RoomHistory.Proofs.Event.Filling
import RoomHistory.Proofs.Room.Keeping
import RoomHistory.Proofs.Timeline.Copies

/-!
# Events that come again

An event that a sync, a page or anything else has brought may come again.  Unless it has a time of
its own, it is told another.  If it has one, the two arrivals can differ in nothing but the
membership that a sync tells: where the first arrival told none, the event that comes again is the
one that is held and nothing changes, and where it told one, the event without it takes the place of
the event that is held.
-/

namespace RoomHistory

namespace Event

variable {event : Event} {first again : Arrival}

/-- What is received has an id. -/
theorem hasId_of_receive {value : Json} (received : receive value = .ok event) :
    event.hasId = true := by
  rw [receive] at received
  split at received
  · split at received
    · split at received
      · next named =>
          rw [← Except.ok.inj received]
          exact named
      · cases received
    · cases received
  · cases received

theorem received_singleton
    {value : Json}
    (received : receive value = .ok event) :
    Timeline.received [value] = [event] := by
  rw [Timeline.received, List.filterMap_cons, received]
  rfl

/-- An event that has an id and a time arrives again as the same event, of which only the
membership may differ. -/
theorem complete_again
    (timed : event.sentAt.isSome = true)
    (sameRoom : again.room = first.room)
    (outside : again.action = none) :
    event.complete again = { event.complete first with membership := event.membership } := by
  obtain ⟨time, own⟩ := Option.isSome_iff_exists.mp timed
  simp [complete, own, sameRoom, arrivedMembership_of_noAction outside]

/-- Of two events that differ at most in their membership, the one without it comes first. -/
theorem order_withMembership
    {events : List Event}
    {copy : Event}
    (orderly : Orderly events)
    (eventIn : event ∈ events)
    (copyIn : copy ∈ events)
    (alike : copy = { event with membership := copy.membership }) :
    event.order copy = compare event.membership copy.membership := by
  rw [orderly.order_eq_keyOrder eventIn copyIn, alike]
  simp [keyOrder, compareLex, compareOn]

/-- An event that was told a membership comes after the event that was not. -/
theorem order_complete_again
    {events : List Event}
    (orderly : Orderly events)
    (firstIn : event.complete first ∈ events)
    (againIn : event.complete again ∈ events)
    (timed : event.sentAt.isSome = true)
    (sameRoom : again.room = first.room)
    (outside : again.action = none) :
    (event.complete first).order (event.complete again) ≠ .gt ↔
      event.arrivedMembership first = event.membership := by
  have again_eq := complete_again timed sameRoom outside
  have same : (event.complete again).membership = event.membership :=
    arrivedMembership_of_noAction outside
  rw [← same] at again_eq
  rw [order_withMembership orderly firstIn againIn again_eq, same]
  show compare (event.arrivedMembership first) event.membership ≠ .gt ↔ _
  rcases event.arrivedMembership_cases first with untold | ⟨told, isTold, lacking⟩
  · rw [untold, Std.ReflOrd.compare_self]
    exact ⟨fun _ => rfl, fun _ => by decide⟩
  · rw [isTold, lacking.envelope]
    exact ⟨fun notAfter => absurd rfl notAfter, fun same => absurd same (Option.some_ne_none told)⟩

end Event

namespace Room

section

variable {room : Room}

/-- Every change leaves a memo that vouches for what it remembers of the room's state. -/
theorem vouches_change
    (vouches : room.memo.Vouches room.timeline)
    (single : Change) :
    (room.change single).memo.Vouches (room.change single).timeline := by
  cases single with
  | enter insertion => exact vouches.follow (room.timeline.applyTo_follows insertion)
  | read type => exact vouches.get (fun _ => rfl) type
  | forget type => exact vouches.forget type
  | look => exact vouches.follow room.timeline.rememberHorizon_follows
  | move told => exact vouches
  | turn cursors => exact vouches
  | post pending => exact vouches
  | withdraw transaction => exact vouches

theorem vouches_changeAll
    (vouches : room.memo.Vouches room.timeline)
    (changes : List Change) :
    (room.changeAll changes).memo.Vouches (room.changeAll changes).timeline := by
  induction changes generalizing room with
  | nil => exact vouches
  | cons single rest hypothesis => exact hypothesis (vouches_change vouches single)

theorem vouches_serve
    (vouches : room.memo.Vouches room.timeline)
    (request : Request) :
    (room.serve request).memo.Vouches (room.serve request).timeline := by
  rw [serve_eq]
  exact vouches_changeAll vouches _

theorem vouches_serveAll
    (vouches : room.memo.Vouches room.timeline)
    (requests : List Request) :
    (room.serveAll requests).memo.Vouches (room.serveAll requests).timeline := by
  induction requests generalizing room with
  | nil => exact vouches
  | cons request rest hypothesis => exact hypothesis (vouches_serve vouches request)

theorem Origin.vouches (origin : Origin) : origin.room.memo.Vouches origin.room.timeline := by
  cases origin with
  | network tag id user policy => exact StateMemo.vouches_initial _
  | clientOnly tag id creator policy now => exact StateMemo.vouches_initial _

/-- What is read off rooms that hold the same events is the same. -/
theorem answers_of_events
    {later : Room}
    (vouches : room.memo.Vouches room.timeline)
    (laterVouches : later.memo.Vouches later.timeline)
    (sameEvents : later.timeline.events = room.timeline.events)
    (sameRoom : later.timeline.room = room.timeline.room) :
    (∀ type, (later.state type).1 = (room.state type).1) ∧
      later.directoryEntry.1 = room.directoryEntry.1 := by
  have same : CurrentState.ofTimeline later.timeline = CurrentState.ofTimeline room.timeline :=
    funext (CurrentState.ofTimeline_of_events sameEvents)
  constructor
  · intro type
    show (later.memo.get later.timeline type).1 = (room.memo.get room.timeline type).1
    rw [laterVouches.faithful, vouches.faithful, same]
  · show (later.memo.directoryEntry later.timeline).1 = (room.memo.directoryEntry room.timeline).1
    rw [laterVouches.faithful.directoryEntry_eq, vouches.faithful.directoryEntry_eq, same, sameRoom]

end

/-- How a single value comes again. -/
inductive Redelivery where
  /-- Outside a sync. -/
  | values (now : Moment)
  /-- As all that a page carries. -/
  | page (now : Moment) (ticket : Ticket) (start stop : Option String)

/-- What is asked of the room when a value comes again. -/
def Redelivery.request (value : Json) : Redelivery → Request
  | .values now => .insertValues now [value]
  | .page now ticket start stop => .receivePage now ticket ⟨[value], start, stop⟩

/-- A value that comes again is an insertion of it outside a sync. -/
theorem serve_redelivery (room : Room) (value : Json) (again : Redelivery) :
    ∃ now : Moment, (room.serve (again.request value)).timeline =
      ((Insertion.raw (room.arrival none now.arrival) now.change [value]).applyTo
        room.timeline).2 := by
  cases again with
  | values now => exact ⟨now, rfl⟩
  | page now ticket start stop => exact ⟨now, rfl⟩

/-- Whatever was asked of a room before: an event that is held as it once arrived, and that came
with a time, leaves the events as they were when it comes again alone and outside a sync, exactly if
its first arrival did not tell it a membership.  Then no state and nothing that a directory shows
has changed either. -/
theorem redelivery_unchanged_iff
    {origin : Origin}
    {requests : List Request}
    {room : Room}
    {value : Json}
    {event : Event}
    {action : Option Membership}
    {earlier : Timestamp}
    (texts : Event.TextsTellContents (origin.offers ++ origin.room.offered requests))
    (reached : origin.room.serveAll requests = room)
    (received : Event.receive value = .ok event)
    (timed : event.sentAt.isSome = true)
    (held : event.complete (room.arrival action earlier) ∈ room.timeline.events)
    (again : Redelivery) :
    ((room.serve (again.request value)).timeline.events = room.timeline.events ↔
      event.arrivedMembership (room.arrival action earlier) = event.membership) ∧
    ((room.serve (again.request value)).timeline.events = room.timeline.events →
      (∀ type, ((room.serve (again.request value)).state type).1 = (room.state type).1) ∧
        (room.serve (again.request value)).directoryEntry.1 = room.directoryEntry.1) := by
  subst reached
  have keeps := origin.keeps_serveAll texts
  have vouches := vouches_serveAll origin.vouches requests
  obtain ⟨now, inserted⟩ := (origin.room.serveAll requests).serve_redelivery value again
  generalize origin.room.serveAll requests = room at *
  let insertion := Insertion.raw (room.arrival none now.arrival) now.change [value]
  let copy := event.complete (room.arrival none now.arrival)
  have batch : insertion.batch = [event] := Event.received_singleton received
  have enters : insertion.entering room.timeline.room = [copy] := by
    rw [Insertion.entering, batch]
    rfl
  have gives : ∀ offered ∈ insertion.batch,
      Event.GivenBy (origin.offers ++ origin.room.offered requests) offered.content := by
    have contentGiven := keeps.timeline.granted.contents _ held
    rw [batch]
    exact List.forall_mem_singleton.mpr contentGiven
  have orderly := keeps.timeline.orderly texts.toldByTexts gives
  rw [enters] at orderly
  have sameIdentity : (event.complete (room.arrival action earlier)).identity = copy.identity := by
    have named := Event.hasId_of_receive received
    rw [Event.identity_eq_iff]
    exact Or.inl ⟨named, rfl⟩
  constructor
  · rw [inserted, Timeline.applyTo_copy orderly keeps.timeline.kept enters held sameIdentity]
    exact Event.order_complete_again orderly (List.mem_append_left _ held)
      (List.mem_append_right _ List.mem_cons_self) timed rfl rfl
  · intro unchanged
    apply answers_of_events vouches (vouches_serve vouches _) unchanged
    rw [inserted, Timeline.applyTo_room]

/-- A member event that does not tell the membership of the user. -/
def memberEvent (user : UserId) : Event :=
  { Event.state "$m" ⟨Event.memberType, user⟩ (.object []) with sentAt := some 5 }

/-- A room of a user that nothing is known of. -/
def awaiting : Origin := .network 1 "!r:x" (some "@me:x") .standard

/-- A sync that brings one value to a room that the user joined. -/
def syncOf (value : Json) : Request := .sync ⟨7, 7⟩ ⟨[], [value], [], [], none⟩ .join

/-- The room after such a sync. -/
def synced (value : Json) : Room := awaiting.room.serveAll [syncOf value]

theorem redelivery_unchanged_otherMember :
    Event.TextsTellContents
      (awaiting.offers ++ awaiting.room.offered [syncOf (memberEvent "@you:x").encode]) ∧
    awaiting.room.serveAll [syncOf (memberEvent "@you:x").encode] =
      synced (memberEvent "@you:x").encode ∧
    Event.receive (memberEvent "@you:x").encode = .ok (memberEvent "@you:x") ∧
    (memberEvent "@you:x").sentAt.isSome = true ∧
    (synced (memberEvent "@you:x").encode).timeline.events =
      [(memberEvent "@you:x").complete
        ((synced (memberEvent "@you:x").encode).arrival (some .join) 7)] ∧
    ((synced (memberEvent "@you:x").encode).serve
        ((Redelivery.values ⟨8, 8⟩).request (memberEvent "@you:x").encode)).timeline.events =
      (synced (memberEvent "@you:x").encode).timeline.events := by
  have texts : Event.TextsTellContents
      (awaiting.offers ++ awaiting.room.offered [syncOf (memberEvent "@you:x").encode]) := by
    decide +kernel
  have received : Event.receive (memberEvent "@you:x").encode = .ok (memberEvent "@you:x") := rfl
  have events : (synced (memberEvent "@you:x").encode).timeline.events =
      [(memberEvent "@you:x").complete
        ((synced (memberEvent "@you:x").encode).arrival (some .join) 7)] := by
    decide +kernel
  have held := List.mem_singleton_self ((memberEvent "@you:x").complete
    ((synced (memberEvent "@you:x").encode).arrival (some .join) 7))
  rw [← events] at held
  have again := redelivery_unchanged_iff texts rfl received rfl held (.values ⟨8, 8⟩)
  exact ⟨texts, rfl, received, rfl, events, again.1.mpr (by decide +kernel)⟩

/-- The local user's member event that a sync has brought does not stay as it is when it comes
again. -/
theorem redelivery_replaces_ownMember :
    Event.receive (memberEvent "@me:x").encode = .ok (memberEvent "@me:x") ∧
    (memberEvent "@me:x").sentAt.isSome = true ∧
    (synced (memberEvent "@me:x").encode).timeline.events =
      [(memberEvent "@me:x").complete
        ((synced (memberEvent "@me:x").encode).arrival (some .join) 7)] ∧
    ((synced (memberEvent "@me:x").encode).serve
        ((Redelivery.values ⟨8, 8⟩).request (memberEvent "@me:x").encode)).timeline.events ≠
      (synced (memberEvent "@me:x").encode).timeline.events :=
  ⟨rfl, rfl, by decide +kernel, by decide +kernel⟩

end Room

end RoomHistory
