import RoomHistory.Proofs.Client.Rooms

/-!
# Runs that come to their end

An insertion that finds no order among events, or leaves fewer of them than were held, stops before
it is done, and nothing comes after it: a run of requests ends there.  What is said of requests that
are served one after another is therefore said of the runs that come to their end.  Where contents
are told by their texts every insertion finds its order, and then every run comes to its end.
-/

namespace RoomHistory

/-- Whether what was returned is an insertion that stopped before it was done. -/
def isStopped (returned : Except Error Outcome) : Bool :=
  returned.toOption.any (·.failed)

namespace Room

section

variable {given : Json → Prop} {room : Room}

/-- An insertion into the timeline of a room is done. -/
theorem Keeps.succeeds
    (keeps : room.Keeps given)
    (told : Json.ToldByTexts given)
    (insertion : Insertion)
    (gives : ∀ event ∈ insertion.batch, given event.content) :
    (insertion.applyTo room.timeline).1.failed = false :=
  keeps.timeline.kept.succeeds rfl (keeps.timeline.orderly told gives)

/-- Where contents are told by their texts no insertion stops that a request makes. -/
theorem Keeps.completes
    (keeps : room.Keeps given)
    (told : Json.ToldByTexts given)
    (request : Request)
    (gives : ∀ event ∈ room.offers request, given event.content) :
    ∀ returned ∈ room.returns request, isStopped returned = false := by
  cases request with
  | insert now events =>
      exact List.forall_mem_singleton.mpr
        (keeps.succeeds told (.arriving (room.arrival none now.arrival) now.change events) gives)
  | insertValues now values =>
      exact List.forall_mem_singleton.mpr
        (keeps.succeeds told (.raw (room.arrival none now.arrival) now.change values) gives)
  | sync now batch action =>
      exact List.forall_mem_singleton.mpr
        (keeps.succeeds told (.raw (room.arrival (some action) now.arrival) now.change batch.values)
          gives)
  | receivePage now ticket page =>
      exact List.forall_mem_singleton.mpr
        (keeps.succeeds told (.raw (room.arrival none now.arrival) now.change page.chunk) gives)
  | fetchPage now server direction limit =>
      refine List.forall_mem_singleton.mpr ?_
      simp only [offers] at gives
      simp only [fetchPage]
      cases answer : server room.id (room.requestPage direction limit).2.1 with
      | error error => rfl
      | ok page =>
          rw [answer] at gives
          exact keeps.succeeds told (.raw (room.arrival none now.arrival) now.change page.chunk)
            gives
  | confirm now transaction id =>
      refine List.forall_mem_singleton.mpr ?_
      simp only [confirm]
      cases taken : room.takePending transaction with
      | error error => rfl
      | ok result =>
          obtain ⟨pending, rest⟩ := result
          obtain ⟨outbox, takes, rfl⟩ := takePending_ok taken
          obtain ⟨type, waited⟩ := (Outbox.take?_some takes).1
          exact keeps.succeeds told
            (.arriving (room.arrival none now.arrival) now.change [room.confirmedEvent pending id])
            (List.forall_mem_singleton.mpr (keeps.outbox type pending waited))
  | requestPage direction limit => exact List.forall_mem_nil _
  | issue now type stateKey content => exact List.forall_mem_nil _
  | abandon transaction => exact List.forall_mem_nil _
  | state type => exact List.forall_mem_nil _
  | directoryEntry => exact List.forall_mem_nil _
  | forgetState type => exact List.forall_mem_nil _
  | horizon => exact List.forall_mem_nil _

end

end Room

namespace Client

/-- Whether no insertion stops that a request makes. -/
def completes (client : Client) (request : Request) : Bool :=
  (client.returns request).all fun entry => !isStopped entry.2

/-- The client after a request, unless an insertion stops. -/
def serve? (client : Client) (request : Request) : Option Client :=
  if client.completes request then some (client.serve request) else none

/-- The client after several requests, unless an insertion stops. -/
def serveAll? (client : Client) (requests : List Request) : Option Client :=
  requests.foldlM serve? client

section

variable {given : Json → Prop} {client last : Client} {request : Request} {requests : List Request}

@[simp] theorem serveAll?_cons (client : Client) (request : Request) (rest : List Request) :
    client.serveAll? (request :: rest) =
      (client.serve? request).bind fun later => later.serveAll? rest := rfl

/-- A run that comes to its end leads where serving its requests one after another does. -/
theorem serveAll_of_serveAll?
    (ends : client.serveAll? requests = some last) :
    client.serveAll requests = last := by
  induction requests generalizing client with
  | nil => exact Option.some.inj ends
  | cons request rest hypothesis =>
      rw [serveAll?_cons] at ends
      obtain ⟨later, serves, endsThen⟩ := Option.bind_eq_some_iff.mp ends
      obtain ⟨-, served⟩ := Option.ite_none_right_eq_some.mp serves
      obtain rfl := Option.some.inj served
      exact hypothesis endsThen

theorem serve?_of_completes (completes : client.completes request = true) :
    client.serve? request = some (client.serve request) :=
  if_pos completes

/-- A sync's part goes to a room that is there or is made. -/
theorem Houses.deliverSlice
    {holds : Room → Prop}
    {slice : SyncLists.Slice}
    (houses : client.Houses holds)
    (invariant : Room.Invariant given holds)
    (clock : SyncClock)
    (gives : ∀ event ∈ Timeline.received slice.batch.values, given event.content) :
    (client.deliverSlice clock slice).2.Houses holds ∧
      ∃ room, holds room ∧ (client.deliverSlice clock slice).1 =
        (room.sync (clock.reading slice) slice.batch slice.action).1 := by
  obtain ⟨notices, announces⟩ := deliverSlices_announces houses.filed clock
    (List.forall_mem_singleton.mpr gives)
  refine ⟨announces.houses invariant houses, ?_⟩
  rw [Client.deliverSlice]
  cases present : client.room? slice.room with
  | some room =>
      rw [ensureRoom_of_some present]
      exact ⟨room, houses.holds slice.room room present, rfl⟩
  | none =>
      rw [ensureRoom_of_none present]
      exact ⟨_, invariant.empty _ _ _ _, rfl⟩

/-- No part of a sync stops. -/
theorem Houses.deliverSlices_completes
    {slices : List SyncLists.Slice}
    (houses : client.Houses (Room.Keeps given))
    (told : Json.ToldByTexts given)
    (clock : SyncClock)
    (gives : ∀ slice ∈ slices, ∀ event ∈ Timeline.received slice.batch.values,
      given event.content) :
    ∀ entry ∈ (client.deliverSlices clock slices).1, entry.2.failed = false := by
  induction slices generalizing client with
  | nil => exact List.forall_mem_nil _
  | cons slice rest hypothesis =>
      obtain ⟨givesFirst, givesRest⟩ := List.forall_mem_cons.mp gives
      obtain ⟨housesThen, room, keeps, outcome⟩ :=
        houses.deliverSlice (Room.keeps_invariant told) clock givesFirst
      have succeeds := List.forall_mem_singleton.mp (keeps.completes told
        (.sync (clock.reading slice) slice.batch slice.action) givesFirst)
      exact List.forall_mem_cons.mpr
        ⟨(congrArg Outcome.failed outcome).trans succeeds, hypothesis housesThen givesRest⟩

/-- A request to a room that is there completes. -/
theorem Houses.offersTo_completes
    {id : RoomId}
    {own : Room.Request}
    (houses : client.Houses (Room.Keeps given))
    (told : Json.ToldByTexts given)
    (gives : ∀ event ∈ client.offersTo id own, given event.content) :
    ∀ room, client.room? id = some room →
      ∀ returned ∈ room.returns own, isStopped returned = false := by
  intro room present
  rw [offersTo, present] at gives
  exact (houses.holds id room present).completes told own gives

/-- Where contents are told by their texts no insertion stops that a request makes. -/
theorem Houses.completes
    (houses : client.Houses (Room.Keeps given))
    (told : Json.ToldByTexts given)
    (gives : ∀ event ∈ client.offers request, given event.content) :
    client.completes request = true := by
  rw [Client.completes, List.all_eq_true]
  intro entry returned
  rw [Bool.not_eq_true']
  cases request with
  | insert now id events =>
      obtain rfl := List.mem_singleton.mp returned
      rw [insert]
      cases present : client.room? id with
      | none =>
          rw [requireRoom_of_none present]
          rfl
      | some room =>
          have completes := List.forall_mem_singleton.mp
            (houses.offersTo_completes told gives room present)
          rw [requireRoom_of_some present]
          exact completes
  | deliver clock sync =>
      obtain ⟨⟨id, outcome⟩, delivered, rfl⟩ := List.mem_map.mp returned
      apply houses.deliverSlices_completes told clock _ _ delivered
      intro slice sliceIn event eventIn
      exact gives event (List.mem_flatMap.mpr ⟨slice, sliceIn, eventIn⟩)
  | fetchPage now id server direction limit =>
      obtain rfl := List.mem_singleton.mp returned
      rw [fetchPage]
      cases present : client.room? id with
      | none =>
          rw [requireRoom_of_none present]
          rfl
      | some room =>
          have completes := List.forall_mem_singleton.mp
            (houses.offersTo_completes told gives room present)
          rw [requireRoom_of_some present]
          dsimp only
          split
          · next fetched =>
              rw [fetched] at completes
              exact completes
          · rfl
  | confirm now id transaction eventId =>
      obtain rfl := List.mem_singleton.mp returned
      rw [confirm]
      cases present : client.room? id with
      | none =>
          rw [requireRoom_of_none present]
          rfl
      | some room =>
          have completes := List.forall_mem_singleton.mp
            (houses.offersTo_completes told gives room present)
          rw [requireRoom_of_some present]
          show isStopped ((room.confirm now transaction eventId >>= _).map Prod.fst) = false
          cases confirmed : room.confirm now transaction eventId with
          | error error => rfl
          | ok result =>
              rw [confirmed] at completes
              exact completes
  | room id own =>
      rw [returns] at returned
      cases present : client.room? id with
      | none =>
          rw [present] at returned
          cases returned
      | some room =>
          rw [present] at returned
          obtain ⟨result, resultIn, rfl⟩ := List.mem_map.mp returned
          exact houses.offersTo_completes told gives room present result resultIn
  | ensureRoom id => cases returned
  | openLocalRoom now id => cases returned
  | forgetRoom id => cases returned
  | forgetState id type => cases returned
  | subscribe settings => cases returned
  | feed id use => cases returned

/-- Where contents are told by their texts a run comes to its end. -/
theorem Houses.serveAll?_eq
    (houses : client.Houses (Room.Keeps given))
    (told : Json.ToldByTexts given)
    (gives : ∀ event ∈ client.offered requests, given event.content) :
    client.serveAll? requests = some (client.serveAll requests) := by
  induction requests generalizing client with
  | nil => rfl
  | cons request rest hypothesis =>
      rw [offered, List.forall_mem_append] at gives
      rw [serveAll?_cons, serve?_of_completes (houses.completes told gives.1)]
      exact hypothesis (houses.serve (Room.keeps_invariant told) gives.1) gives.2

end

end Client

end RoomHistory
