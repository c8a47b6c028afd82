import RoomHistory.Proofs.Event.Filling
import RoomHistory.Proofs.Room.Keeping
import RoomHistory.Proofs.Timeline.Standing

/-!
# Where held events come from

Whatever is asked of a room, each event that it holds is one that it was made with or that a request
brought, completed once, by the arrival of that request.  This needs no order among the events.  So
the gaps of an event are filled when it comes and never again, and only a sync can tell what the
event itself does not tell of the local user's membership.
-/

namespace RoomHistory

namespace Room

/-- The membership that a request tells: that of a sync. -/
def Request.action? : Request → Option Membership
  | .sync _ _ action => some action
  | _ => none

/-- The events that a request inserts, as they are given. -/
def inputs (room : Room) : Request → List Event
  | .confirm _ transaction id =>
      match room.takePending transaction with
      | .ok (pending, _) => [room.confirmedEvent pending id]
      | .error _ => []
  | .issue _ _ _ _ => []
  | request => room.offers request

section

variable {room : Room} {request : Request} {event : Event}

/-- A request inserts its own events only, and they arrive under its own membership. -/
theorem insertion_of_changesBy
    {insertion : Insertion}
    (makes : .enter insertion ∈ room.changesBy request) :
    insertion.batch = room.inputs request ∧
      ∃ now, insertion.arrival = room.arrival request.action? now := by
  cases request with
  | insert now events =>
      cases List.mem_singleton.mp makes
      exact ⟨rfl, now.arrival, rfl⟩
  | insertValues now values =>
      cases List.mem_singleton.mp makes
      exact ⟨rfl, now.arrival, rfl⟩
  | sync now batch action =>
      simp only [changesBy, List.mem_cons, List.not_mem_nil, or_false, reduceCtorEq, false_or,
        Change.enter.injEq] at makes
      subst makes
      exact ⟨rfl, now.arrival, rfl⟩
  | receivePage now ticket page =>
      simp only [changesBy, pageChanges, List.mem_cons, List.not_mem_nil, or_false, reduceCtorEq,
        Change.enter.injEq] at makes
      subst makes
      exact ⟨rfl, now.arrival, rfl⟩
  | fetchPage now server direction limit =>
      simp only [changesBy, List.mem_cons, reduceCtorEq, false_or] at makes
      cases answer : server room.id (room.requestPage direction limit).2.1 with
      | error error =>
          rw [answer] at makes
          cases makes
      | ok page =>
          simp only [answer, pageChanges, List.mem_cons, List.not_mem_nil, or_false, reduceCtorEq,
            Change.enter.injEq] at makes
          subst makes
          refine ⟨?_, now.arrival, rfl⟩
          simp only [inputs, offers, answer]
          rfl
  | confirm now transaction id =>
      rw [changesBy] at makes
      rw [inputs]
      cases taken : room.takePending transaction with
      | error error =>
          rw [taken] at makes
          cases makes
      | ok result =>
          simp only [taken, List.mem_cons, List.not_mem_nil, or_false, reduceCtorEq, false_or,
            Change.enter.injEq] at makes
          subst makes
          exact ⟨rfl, now.arrival, rfl⟩
  | issue now type stateKey content =>
      rw [changesBy] at makes
      split at makes <;> simp at makes
  | requestPage direction limit => cases List.mem_singleton.mp makes
  | abandon transaction => cases List.mem_singleton.mp makes
  | state type => cases List.mem_singleton.mp makes
  | directoryEntry =>
      obtain ⟨type, -, same⟩ := List.mem_map.mp makes
      cases same
  | forgetState type => cases List.mem_singleton.mp makes
  | horizon => cases List.mem_singleton.mp makes

/-- Changes bring nothing to the timeline but what is inserted. -/
theorem mem_changeAll
    {changes : List Change}
    (held : event ∈ (room.changeAll changes).timeline.events) :
    event ∈ room.timeline.events ∨
      ∃ insertion bound, .enter insertion ∈ changes ∧ event ∈ insertion.entering bound := by
  induction changes generalizing room with
  | nil => exact Or.inl held
  | cons single rest hypothesis =>
      rcases hypothesis held with before | ⟨insertion, bound, makes, enters⟩
      · cases single with
        | enter insertion =>
            have entered := room.timeline.applyTo_subset insertion before
            exact (List.mem_append.mp entered).imp_right fun enters =>
              ⟨insertion, _, List.mem_cons_self, enters⟩
        | move told => exact Or.inl before
        | turn cursors => exact Or.inl before
        | post pending => exact Or.inl before
        | withdraw transaction => exact Or.inl before
        | read type => exact Or.inl before
        | forget type => exact Or.inl before
        | look => exact Or.inl before
      · exact Or.inr ⟨insertion, bound, List.mem_cons_of_mem single makes, enters⟩

/-- A request brings an event to a room: it gives the event, which its arrival completes. -/
structure Brings (room : Room) (request : Request) (given event : Event) : Prop where
  isInput : given ∈ room.inputs request
  completed : ∃ now, event = given.complete (room.arrival request.action? now)

/-- What a room holds after a request was held before, or the request has brought it. -/
theorem mem_serve (held : event ∈ (room.serve request).timeline.events) :
    event ∈ room.timeline.events ∨ ∃ given, room.Brings request given event := by
  rw [serve_eq] at held
  refine (mem_changeAll held).imp_right ?_
  rintro ⟨insertion, bound, makes, enters⟩
  obtain ⟨inputs, now, arrives⟩ := insertion_of_changesBy makes
  rw [Insertion.entering, arrives] at enters
  obtain ⟨given, givenIn, rfl⟩ := List.mem_map.mp enters
  exact ⟨given, inputs ▸ givenIn, now, rfl⟩

/-- What a room holds after a run was held before, or one request of the run has brought it. -/
theorem mem_serveAll
    {requests : List Request}
    (held : event ∈ (room.serveAll requests).timeline.events) :
    event ∈ room.timeline.events ∨
      ∃ earlier request later, requests = earlier ++ request :: later ∧
        ∃ given, (room.serveAll earlier).Brings request given event := by
  induction requests generalizing room with
  | nil => exact Or.inl held
  | cons first rest hypothesis =>
      rcases hypothesis held with atFirst | ⟨earlier, request, later, rfl, brought⟩
      · exact (mem_serve atFirst).imp_right fun brought => ⟨[], first, rest, rfl, brought⟩
      · exact Or.inr ⟨first :: earlier, request, later, rfl, brought⟩

/-- What is brought has the membership that it was given with, or that of a sync. -/
theorem Brings.membership_eq
    {given : Event}
    (brings : room.Brings request given event) :
    event.membership = given.membership ∨
      ∃ now batch action, request = .sync now batch action ∧
        given.membership = none ∧ event.membership = some action := by
  obtain ⟨now, rfl⟩ := brings.completed
  rcases given.arrivedMembership_cases (room.arrival request.action? now) with
    same | ⟨told, arrived, isTold⟩
  · exact Or.inl same
  · right
    have acts : request.action? = some told := isTold.action
    unfold Request.action? at acts
    split at acts
    next now batch action =>
      cases acts
      exact ⟨now, batch, told, rfl, isTold.envelope, arrived⟩
    next _ => cases acts

end

/-- What a room is made with has arrived outside a sync. -/
theorem Origin.mem_room
    {origin : Origin}
    {event : Event}
    (held : event ∈ origin.room.timeline.events) :
    ∃ given ∈ origin.offers, ∃ now, event = given.complete (origin.room.arrival none now) := by
  cases origin with
  | network tag id user policy => cases held
  | clientOnly tag id creator policy now =>
      let opened := Timeline.empty tag policy (some id)
      let insertion : Insertion :=
        .arriving ⟨some id, creator, none, now.arrival⟩ now.change [creation id creator]
      have entered := opened.applyTo_subset insertion held
      obtain ⟨given, givenIn, rfl⟩ := List.mem_map.mp entered
      exact ⟨given, givenIn, now.arrival, rfl⟩

/-- Completion fills gaps only, once for each arrival, and a membership exactly where an arrival
tells it.  So in any run of a room, each event that it holds is one that it was made with or that
one request brought, as it was completed then, and its membership was given with it unless that
request was a sync. -/
theorem Origin.serveAll_fillsOnce (origin : Origin) (requests : List Request) :
    (∀ (event : Event) (first second : Arrival),
      (event.complete first).Fills event ∧
      (event.complete first).sentAt.isSome = true ∧
      (event.complete first).complete first = event.complete first ∧
      ((event.complete first).complete second).Fills (event.complete first) ∧
      ∀ action, event.membership = none ∧ (event.complete first).membership = some action ↔
        event.IsToldBy first action) ∧
    ∀ event ∈ (origin.room.serveAll requests).timeline.events,
      (∃ given ∈ origin.offers, (∃ now, event = given.complete (origin.room.arrival none now)) ∧
        event.membership = given.membership) ∨
      ∃ earlier request later, requests = earlier ++ request :: later ∧
        ∃ given, (origin.room.serveAll earlier).Brings request given event ∧
          (event.membership = given.membership ∨
            ∃ now batch action, request = .sync now batch action ∧
              given.membership = none ∧ event.membership = some action) := by
  constructor
  · intro event first second
    exact ⟨event.complete_fills first, rfl, event.complete_complete first,
      (event.complete first).complete_fills second, event.membership_comes_iff first⟩
  · intro event held
    rcases mem_serveAll held with made | ⟨earlier, request, later, split, given, brings⟩
    · obtain ⟨given, offered, now, rfl⟩ := Origin.mem_room made
      have untold : given.arrivedMembership (origin.room.arrival none now) = given.membership :=
        Event.arrivedMembership_of_noAction rfl
      exact Or.inl ⟨given, offered, ⟨now, rfl⟩, untold⟩
    · exact Or.inr ⟨earlier, request, later, split, given, brings, brings.membership_eq⟩

/-- The local user's own member events, a new one by a sync and then an old one by a page. -/
def ownMembers : List Request :=
  let member (id : EventId) (sentAt : Timestamp) : Json :=
    { Event.state id ⟨Event.memberType, "@me:x"⟩ (.object []) with sentAt := some sentAt }.encode
  [.sync ⟨5, 5⟩ ⟨[], [member "$new" 9], [], [], none⟩ .join,
    .fetchPage ⟨6, 6⟩ (fun _ _ => .ok ⟨[member "$old" 1], none, none⟩) .backward 10]

/-- The page leaves the old event without a membership, and each held event came by a request. -/
theorem Origin.serveAll_fillsOnce_ownMembers :
    let origin : Origin := .network 1 "!r:x" (some "@me:x") .standard
    let held := (origin.room.serveAll ownMembers).timeline.events
    held.map (fun event => (event.id, event.membership)) =
      [("$old", none), ("$new", some .join)] ∧
    ∀ event ∈ held, ∃ earlier request later, ownMembers = earlier ++ request :: later ∧
      ∃ given, (origin.room.serveAll earlier).Brings request given event := by
  intro origin held
  refine ⟨by decide +kernel, fun event present => ?_⟩
  rcases (origin.serveAll_fillsOnce ownMembers).2 event present with
    ⟨_, offered, -⟩ | ⟨earlier, request, later, split, given, brings, -⟩
  · cases offered
  · exact ⟨earlier, request, later, split, given, brings⟩

end Room

end RoomHistory
