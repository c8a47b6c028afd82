import RoomHistory.Client.Changes
import RoomHistory.Proofs.Feed.Isolation
import RoomHistory.Proofs.Room.Telling

/-!
# What may be asked of a client

Most requests to a client come down to one or more requests to its rooms, of which it tells its
subscribers exactly what the rooms changed.  A relation between the client before and after says so
once for all of them: rooms are made, and asked, one after another, and the notices are told in
the order of the changes.  Every room stays filed under its own id, and what each room keeps is
kept by all rooms of a client.
-/

namespace RoomHistory

namespace Client

/-- What the holder of a subscription may do with it. -/
inductive FeedUse where
  | unsubscribe
  | receive
  | drain
  | abandon

/-- The call that a use comes down to. -/
def FeedUse.call : FeedUse → Feed.Call
  | .unsubscribe => .unsubscribe
  | .receive => .receive
  | .drain => .drain
  | .abandon => .abandon

/-- What may be asked of a client. -/
inductive Request where
  | ensureRoom (id : RoomId)
  | openLocalRoom (now : Moment) (id : RoomId)
  | forgetRoom (id : RoomId)
  | insert (now : Moment) (id : RoomId) (events : List Event)
  | deliver (clock : SyncClock) (sync : Sync)
  | fetchPage (now : Moment) (id : RoomId) (server : PageServer) (direction : Direction)
      (limit : Nat)
  | confirm (now : Moment) (id : RoomId) (transaction : String) (eventId : EventId)
  | forgetState (id : RoomId) (type : String)
  | subscribe (settings : FeedSettings)
  | feed (id : FeedId) (use : FeedUse)
  /-- A request to a room of which nobody is told. -/
  | room (id : RoomId) (own : Room.Request)

/-- The client after a request; one that is refused leaves it as it was. -/
def serve (client : Client) : Request → Client
  | .ensureRoom id => (client.ensureRoom id).2
  | .openLocalRoom now id => ((client.openLocalRoom now id).toOption.map Prod.snd).getD client
  | .forgetRoom id => (client.forgetRoom id).2
  | .insert now id events => ((client.insert now id events).toOption.map Prod.snd).getD client
  | .deliver clock sync => (client.deliver clock sync).2
  | .fetchPage now id server direction limit => (client.fetchPage now id server direction limit).2
  | .confirm now id transaction eventId =>
      ((client.confirm now id transaction eventId).toOption.map Prod.snd).getD client
  | .forgetState id type => (client.forgetState id type).toOption.getD client
  | .subscribe settings => (client.subscribe settings).2
  | .feed id use => client.withHub (client.hub.call id use.call)
  | .room id own => ((client.room? id).map fun room => client.putRoom (room.serve own)).getD client

/-- The client after several requests. -/
def serveAll (client : Client) (requests : List Request) : Client :=
  requests.foldl serve client

/-- What a request to a client returns of what it inserted into which room. -/
def returns (client : Client) : Request → List (RoomId × Except Error Outcome)
  | .insert now id events => [(id, (client.insert now id events).map Prod.fst)]
  | .deliver clock sync => (client.deliver clock sync).1.map fun entry => (entry.1, .ok entry.2)
  | .fetchPage now id server direction limit =>
      [(id, (client.fetchPage now id server direction limit).1)]
  | .confirm now id transaction eventId =>
      [(id, (client.confirm now id transaction eventId).map Prod.fst)]
  | .room id own => (client.room? id).elim [] fun room => (room.returns own).map (id, ·)
  | .ensureRoom _ | .openLocalRoom _ _ | .forgetRoom _ | .forgetState _ _ | .subscribe _
  | .feed _ _ => []

/-- The events that a request to a room brings, if there is the room. -/
def offersTo (client : Client) (id : RoomId) (own : Room.Request) : List Event :=
  ((client.room? id).map (·.offers own)).getD []

/-- The events that a request brings to the rooms of a client. -/
def offers (client : Client) : Request → List Event
  | .openLocalRoom _ id => [Room.creation id client.settings.user]
  | .insert now id events => client.offersTo id (.insert now events)
  | .deliver _ sync =>
      sync.rooms.slices.flatMap fun slice => Timeline.received slice.batch.values
  | .fetchPage now id server direction limit =>
      client.offersTo id (.fetchPage now server direction limit)
  | .confirm now id transaction eventId =>
      client.offersTo id (.confirm now transaction eventId)
  | .forgetState id type => client.offersTo id (.forgetState type)
  | .room id own => client.offersTo id own
  | .ensureRoom _ | .forgetRoom _ | .subscribe _ | .feed _ _ => []

/-- The events that several requests bring. -/
def offered (client : Client) : List Request → List Event
  | [] => []
  | request :: rest => client.offers request ++ (client.serve request).offered rest

/-- Whether subscribers are told all that a request does to rooms. -/
def Request.isAnnounced : Request → Bool
  | .ensureRoom _ | .insert _ _ _ | .deliver _ _ | .fetchPage _ _ _ _ _ | .confirm _ _ _ _
  | .forgetState _ _ => true
  | .openLocalRoom _ _ | .forgetRoom _ | .subscribe _ | .feed _ _ | .room _ _ => false

/-- The client with a room filed after a request to it, and its subscribers told of the changes. -/
def answer (client : Client) (room : Room) (own : Room.Request) : Client :=
  (client.putRoom (room.serve own)).withHub
    (client.hub.tellEach (room.allNotices (room.changesBy own)))

/-- The client with a new room. -/
def make (client : Client) (id : RoomId) : Client :=
  { client.putRoom (client.newRoom id) with timelinesMade := client.timelinesMade + 1 }

/-- Every room is filed under its own id. -/
def Filed (client : Client) : Prop :=
  ∀ id room, client.room? id = some room → room.id = id

section

variable {client : Client} {room : Room} {id : RoomId}

/-- A room of the client after one was filed is that one, or was there before. -/
theorem room?_putRoom (client : Client) (room : Room) (id : RoomId) :
    (client.putRoom room).room? id = if room.id = id then some room else client.room? id := by
  split
  · next same =>
      rw [← same]
      exact client.room?_putRoom_self room
  · next differs => exact room?_putRoom_of_ne differs

@[simp] theorem room?_answer (client : Client) (room : Room) (own : Room.Request) (id : RoomId) :
    (client.answer room own).room? id =
      if room.id = id then some (room.serve own) else client.room? id := by
  show (client.putRoom (room.serve own)).room? id = _
  rw [room?_putRoom, Room.serve_id]

@[simp] theorem room?_make (client : Client) (made id : RoomId) :
    (client.make made).room? id =
      if made = id then some (client.newRoom made) else client.room? id :=
  client.room?_putRoom (client.newRoom made) id

theorem ensureRoom_of_some (present : client.room? id = some room) :
    client.ensureRoom id = (room, client) := by
  rw [ensureRoom, present]

theorem ensureRoom_of_none (absent : client.room? id = none) :
    client.ensureRoom id = (client.newRoom id, client.make id) := by
  rw [ensureRoom, absent]
  rfl

/-- A changed room that is filed with an outcome is told of by the notice of that outcome. -/
theorem commit_eq (client : Client) (result : Outcome × Room) :
    client.commit result =
      (client.putRoom result.2).withHub
        (client.hub.tellEach (Notice.ofOutcome? result.2.id result.1).toList) := by
  rw [commit, announceInsert, FeedHub.tellInsertion_eq]
  rfl

/-- Filing a room as it is filed changes nothing. -/
theorem putRoom_of_present (present : client.room? room.id = some room) :
    client.putRoom room = client := by
  have same : client.rooms.insert room.id room = client.rooms := by
    apply Std.ExtTreeMap.ext_getElem?
    intro id
    rw [Std.ExtTreeMap.getElem?_insert]
    split
    · next equal =>
        rw [← Std.LawfulEqOrd.eq_of_compare equal]
        exact present.symm
    · rfl
  rw [putRoom, same]

theorem requireRoom_of_some (present : client.room? id = some room) :
    client.requireRoom id = .ok room := by
  rw [requireRoom, present]

theorem requireRoom_of_none (absent : client.room? id = none) :
    client.requireRoom id = .error (.unknownRoom id) := by
  rw [requireRoom, absent]

theorem serve_insert
    (present : client.room? id = some room)
    (now : Moment)
    (events : List Event) :
    client.serve (.insert now id events) = client.answer room (.insert now events) := by
  rw [serve, insert, requireRoom_of_some present]
  show client.commit (room.insert now events) = client.answer room (.insert now events)
  rw [commit_eq, answer, room.allNotices_insert]
  rfl

theorem serve_fetchPage
    (present : client.room? id = some room)
    (now : Moment)
    (server : PageServer)
    (direction : Direction)
    (limit : Nat) :
    client.serve (.fetchPage now id server direction limit) =
      client.answer room (.fetchPage now server direction limit) := by
  rw [serve, fetchPage, requireRoom_of_some present, answer, Room.serve]
  rcases room.fetchPage_cases now server direction limit with
    ⟨outcome, changed, fetched, sameId, told⟩ | ⟨error, changed, fetched, told⟩
  · simp only [told, fetched]
    rw [commit_eq, sameId]
  · simp only [told, fetched]
    rfl

theorem serve_confirm
    (present : client.room? room.id = some room)
    (now : Moment)
    (transaction : String)
    (eventId : EventId) :
    client.serve (.confirm now room.id transaction eventId) =
      client.answer room (.confirm now transaction eventId) := by
  have asked : client.serve (.confirm now room.id transaction eventId) =
      ((room.confirm now transaction eventId >>= fun result =>
        Except.ok (result.1, client.commit result)).toOption.map Prod.snd).getD client := by
    rw [serve, confirm, requireRoom_of_some present]
    rfl
  rw [asked, answer]
  rcases room.confirm_cases now transaction eventId with
    ⟨outcome, changed, confirmed, sameId, told⟩ | ⟨error, confirmed, nothing⟩
  · rw [told, Room.serve, confirmed]
    show client.commit (outcome, changed) = _
    rw [commit_eq, sameId]
    rfl
  · rw [Room.serve_eq, nothing, confirmed]
    exact (putRoom_of_present present).symm

theorem serve_forgetState
    (present : client.room? room.id = some room)
    (type : String) :
    client.serve (.forgetState room.id type) = client.answer room (.forgetState type) := by
  rw [serve, forgetState, requireRoom_of_some present]
  rfl

/-- A sync's part for a room is answered by that room, which is made if it is not there. -/
theorem deliverSlice_eq
    {made : Client}
    (clock : SyncClock)
    {slice : SyncLists.Slice}
    (ensured : client.ensureRoom slice.room = (room, made))
    (own : room.id = slice.room) :
    (client.deliverSlice clock slice).2 =
      made.answer room (.sync (clock.reading slice) slice.batch slice.action) := by
  obtain ⟨id, batch, action⟩ := slice
  obtain rfl : room.id = id := own
  simp only [deliverSlice, ensured]
  rw [answer, room.allNotices_sync, announceMove, announceInsert, FeedHub.tellInsertion_eq,
    FeedHub.tellEach_append]
  split <;> rfl

end

/-- What a client does in answer to a request of which its subscribers are told: it makes rooms and
asks them, and tells of their changes in the same order. -/
inductive Announces (given : Json → Prop) : Client → Client → List Notice → Prop where
  | nothing (client : Client) : Announces given client client []
  | make {client : Client} {id : RoomId} (absent : client.room? id = none) :
      Announces given client (client.make id) []
  | answer {client : Client} {room : Room} {own : Room.Request}
      (present : client.room? room.id = some room)
      (gives : ∀ event ∈ room.offers own, given event.content) :
      Announces given client (client.answer room own) (room.allNotices (room.changesBy own))
  | append {client later last : Client} {notices noticesThen : List Notice}
      (first : Announces given client later notices)
      (next : Announces given later last noticesThen) :
      Announces given client last (notices ++ noticesThen)

section

variable {given : Json → Prop} {client later : Client} {notices : List Notice}

theorem filed_make (filed : client.Filed) (id : RoomId) : (client.make id).Filed := by
  intro other room present
  rw [room?_make] at present
  split at present
  · next same =>
      rw [← Option.some.inj present]
      exact same
  · exact filed other room present

theorem filed_putRoom (filed : client.Filed) (room : Room) : (client.putRoom room).Filed := by
  intro other found present
  rw [room?_putRoom] at present
  split at present
  · next same =>
      rw [← Option.some.inj present]
      exact same
  · exact filed other found present

theorem Announces.filed
    (announces : Announces given client later notices)
    (filed : client.Filed) :
    later.Filed := by
  induction announces with
  | nothing client => exact filed
  | make absent => exact filed_make filed _
  | answer present gives => exact filed_putRoom filed _
  | append first next hypothesis hypothesisThen => exact hypothesisThen (hypothesis filed)

/-- The parts of a sync are announced one after another. -/
theorem deliverSlices_announces
    (filed : client.Filed)
    (clock : SyncClock)
    {slices : List SyncLists.Slice}
    (gives : ∀ slice ∈ slices, ∀ event ∈ Timeline.received slice.batch.values,
      given event.content) :
    ∃ notices, Announces given client (client.deliverSlices clock slices).2 notices := by
  induction slices generalizing client with
  | nil => exact ⟨[], .nothing client⟩
  | cons slice rest hypothesis =>
      obtain ⟨givesFirst, givesRest⟩ := List.forall_mem_cons.mp gives
      have first : ∃ notices, Announces given client (client.deliverSlice clock slice).2 notices := by
        cases present : client.room? slice.room with
        | some room =>
            have own := filed slice.room room present
            rw [deliverSlice_eq clock (ensureRoom_of_some present) own]
            rw [← own] at present
            exact ⟨_, .answer present givesFirst⟩
        | none =>
            have made : (client.make slice.room).room? slice.room =
                some (client.newRoom slice.room) := by
              rw [room?_make, if_pos rfl]
            rw [deliverSlice_eq clock (ensureRoom_of_none present) rfl]
            exact ⟨_, .append (.make present) (.answer made givesFirst)⟩
      obtain ⟨notices, announces⟩ := first
      obtain ⟨noticesThen, announcesThen⟩ := hypothesis (announces.filed filed) givesRest
      exact ⟨notices ++ noticesThen, announces.append announcesThen⟩

/-- What a room answers is announced, if there is the room. -/
theorem announces_answer
    {request : Request}
    {id : RoomId}
    {own : Room.Request}
    (filed : client.Filed)
    (refused : client.room? id = none → client.serve request = client)
    (answered : ∀ room, room.id = id → client.room? id = some room →
      client.serve request = client.answer room own)
    (gives : ∀ event ∈ client.offersTo id own, given event.content) :
    ∃ notices, Announces given client (client.serve request) notices := by
  cases present : client.room? id with
  | none =>
      rw [refused present]
      exact ⟨[], .nothing client⟩
  | some room =>
      have own := filed id room present
      rw [offersTo, present] at gives
      rw [answered room own present]
      rw [← own] at present
      exact ⟨_, .answer present gives⟩

/-- Whatever is announced comes down to rooms that are made and asked. -/
theorem serve_announces
    {request : Request}
    (filed : client.Filed)
    (announced : request.isAnnounced = true)
    (gives : ∀ event ∈ client.offers request, given event.content) :
    ∃ notices, Announces given client (client.serve request) notices := by
  cases request with
  | ensureRoom id =>
      rw [serve]
      cases present : client.room? id with
      | some room =>
          rw [ensureRoom_of_some present]
          exact ⟨[], .nothing client⟩
      | none =>
          rw [ensureRoom_of_none present]
          exact ⟨[], .make present⟩
  | insert now id events =>
      refine announces_answer filed (fun absent => ?_)
        (fun _ _ present => serve_insert present now events) gives
      rw [serve, insert, requireRoom_of_none absent]
      rfl
  | deliver clock sync =>
      apply deliverSlices_announces filed clock
      intro slice sliceIn event eventIn
      exact gives event (List.mem_flatMap.mpr ⟨slice, sliceIn, eventIn⟩)
  | fetchPage now id server direction limit =>
      refine announces_answer filed (fun absent => ?_)
        (fun _ _ present => serve_fetchPage present now server direction limit) gives
      rw [serve, fetchPage, requireRoom_of_none absent]
  | confirm now id transaction eventId =>
      refine announces_answer filed (fun absent => ?_) ?_ gives
      · rw [serve, confirm, requireRoom_of_none absent]
        rfl
      · rintro room rfl present
        exact serve_confirm present now transaction eventId
  | forgetState id type =>
      refine announces_answer filed (fun absent => ?_) ?_ gives
      · rw [serve, forgetState, requireRoom_of_none absent]
        rfl
      · rintro room rfl present
        exact serve_forgetState present type
  | openLocalRoom now id => cases announced
  | forgetRoom id => cases announced
  | subscribe settings => cases announced
  | feed id use => cases announced
  | room id own => cases announced

end

end Client

end RoomHistory
