import RoomHistory.Proofs.Client.Following
import RoomHistory.Proofs.Room.Sifting

/-!
# Clients do not notice values that are no events

Two clients that are asked the same, but for values that are no events, do the same: their rooms,
their subscriptions and every notice that waits or was received are the same.  What is returned may
differ only in how many values were skipped, and these are exactly the values that are no events.
-/

namespace RoomHistory

/-- Maps that have related values under each key list them side by side. -/
theorem forall₂_toList
    {κ ν : Type}
    {order : κ → κ → Ordering}
    [Std.TransCmp order]
    [Std.LawfulEqCmp order]
    {related : ν → ν → Prop}
    {left right : Std.ExtTreeMap κ ν order}
    (alike : ∀ key : κ, Option.Rel related left[key]? right[key]?) :
    List.Forall₂ (fun first second => first.1 = second.1 ∧ related first.2 second.2)
      left.toList right.toList := by
  have units : left.map (fun _ _ => ()) = right.map fun _ _ => () := by
    apply Std.ExtTreeMap.ext_getElem?
    intro key
    rw [Std.ExtTreeMap.getElem?_map, Std.ExtTreeMap.getElem?_map]
    have isAlike := alike key
    revert isAlike
    generalize left[key]? = found
    generalize right[key]? = otherFound
    rintro (_ | _) <;> rfl
  have keys : left.keys = right.keys := by
    have same := congrArg Std.ExtTreeMap.keys units
    rwa [Std.ExtTreeMap.keys_map, Std.ExtTreeMap.keys_map] at same
  have sideBySide : List.Forall₂ (fun first second => first.1 = second.1)
      left.toList right.toList := by
    have same : List.Forall₂ Eq (left.toList.map Prod.fst) (right.toList.map Prod.fst) := by
      rw [List.forall₂_eq_eq_eq, Std.ExtTreeMap.map_fst_toList_eq_keys,
        Std.ExtTreeMap.map_fst_toList_eq_keys, keys]
    exact List.forall₂_map_left_iff.mp (List.forall₂_map_right_iff.mp same)
  rw [List.forall₂_iff_zip] at sideBySide ⊢
  refine ⟨sideBySide.1, fun {first second} paired => ?_⟩
  have sameKey := sideBySide.2 paired
  obtain ⟨firstIn, secondIn⟩ := List.of_mem_zip paired
  obtain ⟨key, value⟩ := first
  obtain ⟨other, otherValue⟩ := second
  obtain rfl : key = other := sameKey
  have isAlike := alike key
  rw [Std.ExtTreeMap.mem_toList_iff_getElem?_eq_some.mp firstIn,
    Std.ExtTreeMap.mem_toList_iff_getElem?_eq_some.mp secondIn] at isAlike
  cases isAlike with
  | some isRelated => exact ⟨rfl, isRelated⟩

namespace SyncLists

/-- Two parts of syncs are for one room and list, and differ by nothing but values that are no
events. -/
inductive Slice.Alike : Slice → Slice → Prop where
  | slice (room : RoomId) (action : Membership) {left right : RoomBatch}
      (alike : left.Alike right) :
      Alike ⟨room, left, action⟩ ⟨room, right, action⟩

/-- Two syncs name the same rooms in each list, and differ by nothing but values that are no
events. -/
def Alike (left right : SyncLists) : Prop :=
  ∀ (action : Membership) (id : RoomId),
    Option.Rel RoomBatch.Alike (left.list action)[id]? (right.list action)[id]?

theorem Alike.slices
    {left right : SyncLists}
    (alike : left.Alike right) :
    List.Forall₂ Slice.Alike left.slices right.slices := by
  have ofAction (action : Membership) :
      List.Forall₂ Slice.Alike (left.slicesOf action) (right.slicesOf action) := by
    rw [slicesOf, slicesOf, List.forall₂_map_left_iff, List.forall₂_map_right_iff]
    refine (forall₂_toList (alike action)).imp ?_
    rintro ⟨id, leftBatch⟩ ⟨other, rightBatch⟩ ⟨rfl, isAlike⟩
    exact .slice id action isAlike
  have routed : List.Forall₂ Eq routing routing := List.forall₂_same.mpr fun _ _ => rfl
  exact List.rel_flatMap routed fun first second same => same ▸ ofAction first

end SyncLists

namespace Client

/-- Two requests differ by nothing but values that are no events. -/
inductive Request.Alike : Request → Request → Prop where
  | same (request : Request) : Alike request request
  | deliver (clock : SyncClock) {left right : Sync} (alike : left.rooms.Alike right.rooms) :
      Alike (.deliver clock left) (.deliver clock right)
  | fetchPage (now : Moment) (id : RoomId) (direction : Direction) (limit : Nat)
      {left right : PageServer} (alike : ServersAlike left right) :
      Alike (.fetchPage now id left direction limit) (.fetchPage now id right direction limit)
  | room (id : RoomId) {left right : Room.Request} (alike : left.Alike right) :
      Alike (.room id left) (.room id right)

/-- The values that come from a server with what a request inserts. -/
def brings (client : Client) : Request → List (List Json)
  | .deliver _ sync => sync.rooms.slices.map (·.batch.values)
  | .fetchPage now id server direction limit =>
      (client.room? id).elim [[]] fun room => room.brings (.fetchPage now server direction limit)
  | .room id own => (client.room? id).elim [] fun room => room.brings own
  | .insert _ _ _ | .confirm _ _ _ _ => [[]]
  | .ensureRoom _ | .openLocalRoom _ _ | .forgetRoom _ | .forgetState _ _ | .subscribe _
  | .feed _ _ => []

/-- What was returned about some rooms agrees, but for how many values were skipped. -/
def AgreeUnskipped (left right : List (RoomId × Except Error Outcome)) : Prop :=
  left.map (fun entry => (entry.1, entry.2.map Outcome.unskipped)) =
    right.map fun entry => (entry.1, entry.2.map Outcome.unskipped)

theorem commit_of_unskipped
    {left right : Outcome}
    (same : left.unskipped = right.unskipped)
    (client : Client)
    (room : Room) :
    client.commit (left, room) = client.commit (right, room) := by
  rw [commit_eq, commit_eq, Notice.ofOutcome?_of_unskipped same]

theorem deliverSlice_of_alike
    {left right : SyncLists.Slice}
    (alike : left.Alike right)
    (client : Client)
    (clock : SyncClock) :
    left.room = right.room ∧
      (client.deliverSlice clock left).1.unskipped = (client.deliverSlice clock right).1.unskipped ∧
      (client.deliverSlice clock left).2 = (client.deliverSlice clock right).2 := by
  cases alike with
  | @slice id action left right alike =>
      rcases ensured : client.ensureRoom id with ⟨room, made⟩
      obtain ⟨outcomes, rooms⟩ := Room.sync_of_alike alike room (clock id action) action
      simp only [deliverSlice, ensured, SyncClock.reading]
      refine ⟨trivial, outcomes, ?_⟩
      rw [rooms, announceInsert, announceInsert, FeedHub.tellInsertion_eq,
        FeedHub.tellInsertion_eq, Notice.ofOutcome?_of_unskipped outcomes]

theorem deliverSlices_of_alike
    {left right : List SyncLists.Slice}
    (alike : List.Forall₂ SyncLists.Slice.Alike left right)
    (client : Client)
    (clock : SyncClock) :
    (client.deliverSlices clock left).1.map (fun entry => (entry.1, entry.2.unskipped)) =
        (client.deliverSlices clock right).1.map (fun entry => (entry.1, entry.2.unskipped)) ∧
      (client.deliverSlices clock left).2 = (client.deliverSlices clock right).2 := by
  induction alike generalizing client with
  | nil => exact ⟨rfl, rfl⟩
  | @cons first second left right isAlike rest hypothesis =>
      obtain ⟨rooms, outcomes, clients⟩ := deliverSlice_of_alike isAlike client clock
      obtain ⟨outcomesThen, clientsThen⟩ := hypothesis (client.deliverSlice clock first).2
      simp only [deliverSlices, List.map_cons]
      rw [rooms, outcomes, outcomesThen, ← clients]
      exact ⟨rfl, clientsThen⟩

theorem fetchPage_of_alike
    {left right : PageServer}
    (alike : ServersAlike left right)
    (client : Client)
    (now : Moment)
    (id : RoomId)
    (direction : Direction)
    (limit : Nat) :
    (client.fetchPage now id left direction limit).1.map Outcome.unskipped =
        (client.fetchPage now id right direction limit).1.map Outcome.unskipped ∧
      (client.fetchPage now id left direction limit).2 =
        (client.fetchPage now id right direction limit).2 := by
  simp only [fetchPage]
  cases client.requireRoom id with
  | error error => exact ⟨rfl, rfl⟩
  | ok room =>
      obtain ⟨results, rooms⟩ := Room.fetchPage_of_alike alike room now direction limit
      rcases fetched : room.fetchPage now left direction limit with ⟨result, changed⟩
      rcases otherFetched : room.fetchPage now right direction limit with ⟨otherResult, other⟩
      rw [fetched, otherFetched] at results rooms
      obtain rfl : changed = other := rooms
      simp only [fetched, otherFetched]
      cases result with
      | ok outcome =>
          cases otherResult with
          | ok otherOutcome =>
              exact ⟨results, commit_of_unskipped (Except.ok.inj results) client changed⟩
          | error error => cases results
      | error error =>
          cases otherResult with
          | ok otherOutcome => cases results
          | error otherError => exact ⟨results, rfl⟩

/-- Requests that are alike make the same client of a client, and return the same, but for how many
values were skipped. -/
theorem Request.Alike.serve
    {left right : Request}
    (alike : left.Alike right)
    (client : Client) :
    AgreeUnskipped (client.returns left) (client.returns right) ∧
      client.serve left = client.serve right := by
  cases alike with
  | same request => exact ⟨rfl, rfl⟩
  | @deliver clock left right alike =>
      obtain ⟨outcomes, clients⟩ := deliverSlices_of_alike alike.slices client clock
      refine ⟨?_, clients⟩
      have wrapped := congrArg
        (List.map fun entry : RoomId × Outcome =>
          (entry.1, (Except.ok entry.2 : Except Error Outcome)))
        outcomes
      rw [List.map_map, List.map_map] at wrapped
      rw [AgreeUnskipped, returns, returns, List.map_map, List.map_map]
      exact wrapped
  | @fetchPage now id direction limit left right alike =>
      obtain ⟨results, clients⟩ := fetchPage_of_alike alike client now id direction limit
      exact ⟨congrArg (fun result => [(id, result)]) results, clients⟩
  | @room id left right alike =>
      rw [returns, returns, Client.serve, Client.serve]
      cases client.room? id with
      | none => exact ⟨rfl, rfl⟩
      | some room =>
          obtain ⟨results, rooms⟩ := alike.serve room
          refine ⟨?_, congrArg client.putRoom rooms⟩
          have tagged := congrArg (List.map (id, ·)) results
          rw [List.map_map, List.map_map] at tagged
          rw [AgreeUnskipped, Option.elim_some, Option.elim_some, List.map_map, List.map_map]
          exact tagged

theorem deliverSlices_counts (client : Client) (clock : SyncClock) (slices : List SyncLists.Slice) :
    List.Forall₂ (fun entry slice => CountsRejected (.ok entry.2) slice.batch.values)
      (client.deliverSlices clock slices).1 slices := by
  induction slices generalizing client with
  | nil => exact .nil
  | cons slice rest hypothesis =>
      refine .cons ?_ (hypothesis (client.deliverSlice clock slice).2)
      have counts := (client.ensureRoom slice.room).1.returns_counts
        (.sync (clock.reading slice) slice.batch slice.action)
      exact (List.forall₂_cons.mp counts).1

/-- Whatever a request to a client returns counts the values that were no events. -/
theorem returns_counts (client : Client) (request : Request) :
    List.Forall₂ (fun entry values => CountsRejected entry.2 values) (client.returns request)
      (client.brings request) := by
  have single {id : RoomId} {returned : Except Error Outcome} {values : List Json}
      (counts : CountsRejected returned values) :
      List.Forall₂ (fun entry values => CountsRejected entry.2 values) [(id, returned)] [values] :=
    .cons counts .nil
  have tagged (id : RoomId) {returned : List (Except Error Outcome)} {values : List (List Json)}
      (counts : List.Forall₂ CountsRejected returned values) :
      List.Forall₂ (fun entry values => CountsRejected entry.2 values) (returned.map (id, ·))
        values :=
    List.forall₂_map_left_iff.mpr counts
  cases request with
  | insert now id events =>
      refine single ?_
      rw [insert, requireRoom]
      cases client.room? id with
      | none => exact fun outcome failed => by cases failed
      | some room => exact (List.forall₂_cons.mp (room.returns_counts (.insert now events))).1
  | deliver now sync =>
      rw [returns, brings, List.forall₂_map_left_iff, List.forall₂_map_right_iff]
      exact client.deliverSlices_counts now sync.rooms.slices
  | fetchPage now id server direction limit =>
      rw [returns, brings, fetchPage, requireRoom]
      cases client.room? id with
      | none => exact single fun outcome failed => by cases failed
      | some room =>
          have counts := room.returns_counts (.fetchPage now server direction limit)
          rw [Room.returns] at counts
          rcases fetched : room.fetchPage now server direction limit with ⟨result, changed⟩
          rw [fetched] at counts
          simp only [fetched, Option.elim_some]
          cases result <;> exact tagged id counts
  | confirm now id transaction eventId =>
      refine single ?_
      rw [confirm, requireRoom]
      cases client.room? id with
      | none => exact fun outcome failed => by cases failed
      | some room =>
          have counts := room.returns_counts (.confirm now transaction eventId)
          rw [Room.returns] at counts
          show CountsRejected ((room.confirm now transaction eventId >>= _).map Prod.fst) []
          cases confirmed : room.confirm now transaction eventId with
          | error error => exact fun outcome failed => by cases failed
          | ok result =>
              rw [confirmed] at counts
              exact (List.forall₂_cons.mp counts).1
  | room id own =>
      rw [returns, brings]
      cases client.room? id with
      | none => exact .nil
      | some room => exact tagged id (room.returns_counts own)
  | ensureRoom id => exact .nil
  | openLocalRoom now id => exact .nil
  | forgetRoom id => exact .nil
  | forgetState id type => exact .nil
  | subscribe settings => exact .nil
  | feed id use => exact .nil

/-- What several requests return. -/
def returned (client : Client) (requests : List Request) :
    List (List (RoomId × Except Error Outcome)) :=
  returnsToAll serve returns client requests

/-- The values that come from a server with what several requests insert. -/
def brought (client : Client) (requests : List Request) : List (List (List Json)) :=
  returnsToAll serve brings client requests

/-- Two runs of a client lead to the same client, by which every receiver has got the same notices,
and return the same, but for how many values were skipped, which are just those that are no
events. -/
structure RunsAgree (client : Client) (left right : List Request) : Prop where
  ends : client.serveAll left = client.serveAll right
  received : ∀ id, client.received id left = client.received id right
  returned : List.Forall₂ AgreeUnskipped (client.returned left) (client.returned right)
  counted : ∀ requests ∈ [left, right],
    List.Forall₂ (List.Forall₂ fun entry values => CountsRejected entry.2 values)
      (client.returned requests) (client.brought requests)

/-- What a receiver gets by several requests is what it gets by each of them. -/
theorem received_eq_flatten (client : Client) (id : FeedId) (requests : List Request) :
    client.received id requests =
      (returnsToAll serve (fun client => client.receipts id) client requests).flatten := by
  induction requests generalizing client with
  | nil => rfl
  | cons request rest hypothesis =>
      rw [received, returnsToAll, List.flatten_cons, hypothesis]

/-- A receiver gets the same by requests that are alike. -/
theorem Request.Alike.receipts
    {left right : Request}
    (alike : left.Alike right)
    (client : Client)
    (id : FeedId) :
    client.receipts id left = client.receipts id right := by
  cases alike <;> rfl

theorem runsAgree_of_alike
    {left right : List Request}
    (runs : List.Forall₂ Request.Alike left right)
    (client : Client) :
    client.RunsAgree left right := by
  obtain ⟨returned, ends⟩ :=
    returnsToAll_of_alike AgreeUnskipped (fun _ _ alike => alike.serve) runs client
  refine ⟨ends, fun id => ?_, returned, fun requests _ =>
    returnsToAll_forall₂ returns_counts requests client⟩
  have receipts : ∀ left right, Request.Alike left right → ∀ client : Client,
      client.receipts id left = client.receipts id right ∧ client.serve left = client.serve right :=
    fun _ _ alike client => ⟨alike.receipts client id, (alike.serve client).2⟩
  obtain ⟨same, -⟩ := returnsToAll_of_alike Eq receipts runs client
  rw [List.forall₂_eq_eq_eq] at same
  rw [received_eq_flatten, received_eq_flatten, same]

end Client

/-- Values that are no events never influence the rest.  Take two runs of requests to a room, or to
a client, that differ by nothing but such values, wherever they stand in the batches of syncs, in
pages or among other values, but so that no page is empty in one run alone.  Both runs lead to the
same room or client, with the same subscriptions, whose receivers have got the same notices.  They
return the same, but for how many values were skipped, and that many values were no events. -/
theorem sifted_runsAgree
    {ofRoom ofRoomSifted : List Room.Request}
    {ofClient ofClientSifted : List Client.Request}
    (roomRuns : List.Forall₂ Room.Request.Alike ofRoom ofRoomSifted)
    (clientRuns : List.Forall₂ Client.Request.Alike ofClient ofClientSifted) :
    (∀ room : Room, room.RunsAgree ofRoom ofRoomSifted) ∧
      ∀ client : Client, client.RunsAgree ofClient ofClientSifted :=
  ⟨Room.runsAgree_of_alike roomRuns, Client.runsAgree_of_alike clientRuns⟩

/-- A batch, and values among its events. -/
def batchAmong (values : List Json) : RoomBatch :=
  ⟨values, (Client.message "$a" 30).encode :: values, [], [], some "t1"⟩

/-- A page, and values before its event. -/
def pageAmong (values : List Json) : Page :=
  ⟨values ++ [(Client.message "$b" 20).encode], none, some "t0"⟩

/-- A sync to a room, a page, and a message. -/
def roomRun (values : List Json) : List Room.Request := [
  .sync ⟨7, 7⟩ (batchAmong values) .join,
  .requestPage .backward 10,
  .receivePage ⟨8, 8⟩ ⟨.backward, 1⟩ (pageAmong values),
  .insertValues ⟨9, 9⟩ (values ++ [(Client.message "$c" 40).encode] ++ values)]

/-- A sync to a client, a page from a server, and a message to a room. -/
def clientRun (values : List Json) : List Client.Request := [
  .deliver (fun _ _ => ⟨7, 7⟩) ⟨none, { SyncLists.empty with
    join := (∅ : RoomBatches).insert "!r:x" (batchAmong values) }⟩,
  .fetchPage ⟨8, 8⟩ "!r:x" (fun _ _ => .ok (pageAmong values)) .backward 10,
  .room "!r:x" (.insertValues ⟨9, 9⟩ (values ++ [(Client.message "$c" 40).encode] ++ values))]

theorem sifted_runsAgree_noise :
    List.Forall₂ Room.Request.Alike (roomRun []) (roomRun [.null, .string "?"]) ∧
    List.Forall₂ Client.Request.Alike (clientRun []) (clientRun [.null, .string "?"]) ∧
    (∀ room : Room, room.RunsAgree (roomRun []) (roomRun [.null, .string "?"])) ∧
    ∀ client : Client, client.RunsAgree (clientRun []) (clientRun [.null, .string "?"]) := by
  have batches : (batchAmong []).Alike (batchAmong [.null, .string "?"]) :=
    ⟨by decide +kernel, by decide +kernel, rfl⟩
  have pages : (pageAmong []).Alike (pageAmong [.null, .string "?"]) :=
    ⟨by decide +kernel, by decide +kernel, rfl⟩
  have lists : SyncLists.Alike
      { SyncLists.empty with join := (∅ : RoomBatches).insert "!r:x" (batchAmong []) }
      { SyncLists.empty with
        join := (∅ : RoomBatches).insert "!r:x" (batchAmong [.null, .string "?"]) } := by
    intro action id
    have neither : Option.Rel RoomBatch.Alike (∅ : RoomBatches)[id]? (∅ : RoomBatches)[id]? := by
      rw [Std.ExtTreeMap.getElem?_empty]
      exact .none
    cases action with
    | join =>
        simp only [SyncLists.list, Std.ExtTreeMap.getElem?_insert]
        split
        · exact .some batches
        · exact neither
    | leave => exact neither
    | invite => exact neither
  have roomRuns : List.Forall₂ Room.Request.Alike (roomRun []) (roomRun [.null, .string "?"]) :=
    .cons (.sync ⟨7, 7⟩ .join batches) <| .cons (.same _) <|
      .cons (.receivePage ⟨8, 8⟩ ⟨.backward, 1⟩ pages) <|
        .cons (.insertValues ⟨9, 9⟩ (by decide +kernel)) .nil
  have clientRuns :
      List.Forall₂ Client.Request.Alike (clientRun []) (clientRun [.null, .string "?"]) :=
    .cons (.deliver (fun _ _ => ⟨7, 7⟩) lists) <|
      .cons (.fetchPage ⟨8, 8⟩ "!r:x" .backward 10 fun _ _ => .page pages) <|
        .cons (.room "!r:x" (.insertValues ⟨9, 9⟩ (by decide +kernel))) .nil
  exact ⟨roomRuns, clientRuns, sifted_runsAgree roomRuns clientRuns⟩

end RoomHistory
