import RoomHistory.Proofs.Room.Changes
import RoomHistory.Proofs.Timeline.Keeping

/-!
# What rooms keep

All that a room holds or is about to send came with some request, and the contents of what came are
all that is needed to know that its timeline is in order.  Where contents are told by their texts,
every request leaves the timeline settled and within its budget, however the room was made.
-/

namespace RoomHistory

namespace Room

/-- What a room holds or is about to send was given, and its timeline is in order. -/
structure Keeps (given : Json → Prop) (room : Room) : Prop where
  timeline : room.timeline.Keeps given
  outbox : ∀ (type : String) (pending : OutboxEntry),
    room.outbox.entries[type]? = some pending → given pending.event.content

/-- What a change brings was given. -/
def Change.Gives (given : Json → Prop) : Change → Prop
  | .enter insertion => ∀ event ∈ insertion.batch, given event.content
  | .post pending => given pending.event.content
  | .move _ | .turn _ | .withdraw _ | .read _ | .forget _ | .look => True

/-- The events that a request brings to a room. -/
def offers (room : Room) : Request → List Event
  | .insert _ events => events
  | .insertValues _ values => Timeline.received values
  | .sync _ batch _ => Timeline.received batch.values
  | .receivePage _ _ page => Timeline.received page.chunk
  | .fetchPage _ server direction limit =>
      match server room.id (room.requestPage direction limit).2.1 with
      | .ok page => Timeline.received page.chunk
      | .error _ => []
  | .issue now type stateKey content =>
      match room.issue now type stateKey content with
      | .ok (pending, _) => [pending.event]
      | .error _ => []
  | .requestPage _ _ | .confirm _ _ _ | .abandon _ | .state _ | .directoryEntry | .forgetState _
  | .horizon => []

/-- The events that several requests bring. -/
def offered (room : Room) : List Request → List Event
  | [] => []
  | request :: rest => room.offers request ++ (room.serve request).offered rest

section

variable {given : Json → Prop} {room : Room} {changes : List Change} {request : Request}

theorem Keeps.change
    {single : Change}
    (keeps : room.Keeps given)
    (told : Json.ToldByTexts given)
    (gives : single.Gives given) :
    (room.change single).Keeps given := by
  cases single with
  | enter insertion => exact ⟨keeps.timeline.applyTo told gives, keeps.outbox⟩
  | move told => exact ⟨keeps.timeline, keeps.outbox⟩
  | turn cursors => exact ⟨keeps.timeline, keeps.outbox⟩
  | read type => exact ⟨keeps.timeline, keeps.outbox⟩
  | forget type => exact ⟨keeps.timeline, keeps.outbox⟩
  | look => exact ⟨keeps.timeline.rememberHorizon, keeps.outbox⟩
  | post pending =>
      refine ⟨keeps.timeline, ?_⟩
      intro type waiting present
      rcases Outbox.getElem?_add present with rfl | waited
      · exact gives
      · exact keeps.outbox type waiting waited
  | withdraw transaction =>
      refine ⟨keeps.timeline, ?_⟩
      intro type waiting present
      rw [Room.change] at present
      cases taken : room.outbox.take? transaction with
      | none =>
          rw [taken] at present
          exact keeps.outbox type waiting present
      | some result =>
          rw [taken] at present
          exact keeps.outbox type waiting ((Outbox.take?_some taken).2 type waiting present)

theorem Keeps.changeAll
    (keeps : room.Keeps given)
    (told : Json.ToldByTexts given)
    (gives : ∀ change ∈ changes, change.Gives given) :
    (room.changeAll changes).Keeps given := by
  induction changes generalizing room with
  | nil => exact keeps
  | cons first rest hypothesis =>
      rw [List.forall_mem_cons] at gives
      exact hypothesis (keeps.change told gives.1) gives.2

/-- The changes by a request bring what the request does, or what the room was about to send. -/
theorem Keeps.changesBy
    (keeps : room.Keeps given)
    (gives : ∀ event ∈ room.offers request, given event.content) :
    ∀ change ∈ room.changesBy request, change.Gives given := by
  cases request with
  | insert now events => exact List.forall_mem_singleton.mpr gives
  | insertValues now values => exact List.forall_mem_singleton.mpr gives
  | sync now batch action =>
      simp only [Room.changesBy, List.forall_mem_cons]
      exact ⟨trivial, trivial, gives, List.forall_mem_nil _⟩
  | requestPage direction limit => exact List.forall_mem_singleton.mpr trivial
  | receivePage now ticket page =>
      simp only [Room.changesBy, pageChanges, List.forall_mem_cons]
      exact ⟨gives, trivial, List.forall_mem_nil _⟩
  | fetchPage now server direction limit =>
      simp only [offers] at gives
      simp only [Room.changesBy, List.forall_mem_cons]
      refine ⟨trivial, ?_⟩
      cases answer : server room.id (room.requestPage direction limit).2.1 with
      | ok page =>
          rw [answer] at gives
          simp only [pageChanges, List.forall_mem_cons]
          exact ⟨gives, trivial, List.forall_mem_nil _⟩
      | error error => exact List.forall_mem_nil _
  | issue now type stateKey content =>
      rw [offers] at gives
      rw [Room.changesBy]
      cases issued : room.issue now type stateKey content with
      | ok result =>
          rw [issued] at gives
          exact List.forall_mem_singleton.mpr (gives result.1.event List.mem_cons_self)
      | error error => exact List.forall_mem_nil _
  | confirm now transaction id =>
      rw [Room.changesBy]
      cases taken : room.takePending transaction with
      | error error => exact List.forall_mem_nil _
      | ok result =>
          obtain ⟨pending, rest⟩ := result
          obtain ⟨outbox, takes, -⟩ := takePending_ok taken
          obtain ⟨type, waited⟩ := (Outbox.take?_some takes).1
          simp only [List.forall_mem_cons]
          refine ⟨trivial, ?_, List.forall_mem_nil _⟩
          exact List.forall_mem_singleton.mpr (keeps.outbox type pending waited)
  | abandon transaction => exact List.forall_mem_singleton.mpr trivial
  | state type => exact List.forall_mem_singleton.mpr trivial
  | directoryEntry => exact List.forall_mem_map.mpr fun _ _ => trivial
  | forgetState type => exact List.forall_mem_singleton.mpr trivial
  | horizon => exact List.forall_mem_singleton.mpr trivial

theorem Keeps.serve
    (keeps : room.Keeps given)
    (told : Json.ToldByTexts given)
    (gives : ∀ event ∈ room.offers request, given event.content) :
    (room.serve request).Keeps given := by
  rw [serve_eq]
  exact keeps.changeAll told (keeps.changesBy gives)

theorem Keeps.serveAll
    {requests : List Request}
    (keeps : room.Keeps given)
    (told : Json.ToldByTexts given)
    (gives : ∀ event ∈ room.offered requests, given event.content) :
    (room.serveAll requests).Keeps given := by
  induction requests generalizing room with
  | nil => exact keeps
  | cons request rest hypothesis =>
      rw [offered, List.forall_mem_append] at gives
      exact hypothesis (keeps.serve told gives.1) gives.2

/-- A room that nothing is known of keeps nothing. -/
theorem keeps_empty
    (tag : TimelineTag)
    (id : RoomId)
    (user : Option UserId)
    (policy : TimelinePolicy) :
    (empty tag id user policy).Keeps given where
  timeline := Timeline.keeps_empty tag policy (some id)
  outbox type pending present := by
    simp [empty, Outbox.empty] at present

/-- A local room keeps the event that tells its creation. -/
theorem keeps_clientOnly
    (told : Json.ToldByTexts given)
    (tag : TimelineTag)
    (id : RoomId)
    (creator : Option UserId)
    (policy : TimelinePolicy)
    (now : Moment)
    (gives : given (creation id creator).content) :
    (clientOnly tag id creator policy now).Keeps given := by
  have bare : (empty tag id creator policy).Keeps given := keeps_empty tag id creator policy
  have unmade : Keeps given { empty tag id creator policy with
      isLocal := true
      membership := some .join } := ⟨bare.timeline, bare.outbox⟩
  have inserted : ∀ change ∈ changesBy _ (.insert now [creation id creator]), change.Gives given :=
    unmade.changesBy (List.forall_mem_singleton.mpr gives)
  exact unmade.changeAll told inserted

end

/-- How a room is made. -/
inductive Origin where
  /-- On the network, with nothing known of it. -/
  | network (tag : TimelineTag) (id : RoomId) (user : Option UserId) (policy : TimelinePolicy)
  /-- On the client alone. -/
  | clientOnly (tag : TimelineTag) (id : RoomId) (creator : Option UserId)
      (policy : TimelinePolicy) (now : Moment)

namespace Origin

/-- The room as it is made. -/
def room : Origin → Room
  | .network tag id user policy => .empty tag id user policy
  | .clientOnly tag id creator policy now => .clientOnly tag id creator policy now

/-- The events that a room is made with. -/
def offers : Origin → List Event
  | .network _ _ _ _ => []
  | .clientOnly _ id creator _ _ => [creation id creator]

/-- After any requests to a room it keeps what came with its making and with the requests. -/
theorem keeps_serveAll
    (origin : Origin)
    {requests : List Request}
    (texts : Event.TextsTellContents (origin.offers ++ origin.room.offered requests)) :
    (origin.room.serveAll requests).Keeps
      (Event.GivenBy (origin.offers ++ origin.room.offered requests)) := by
  have told := texts.toldByTexts
  have made : origin.room.Keeps
      (Event.GivenBy (origin.offers ++ origin.room.offered requests)) := by
    cases origin with
    | network tag id user policy => exact keeps_empty tag id user policy
    | clientOnly tag id creator policy now =>
        exact keeps_clientOnly told tag id creator policy now
          (Event.givenBy_of_mem (List.mem_append_left _ List.mem_cons_self))
  exact made.serveAll told fun event present =>
    Event.givenBy_of_mem (List.mem_append_right _ present)

end Origin

end Room

end RoomHistory
