import RoomHistory.Proofs.Client.Accounting

/-!
# Where a sync goes

A sync names rooms in three lists, and one room may stand in any of them.  What a room becomes
depends on its own parts of the sync only: the client's other rooms might as well not be there, and
rooms that are not named stay as they were.  The lists are applied in a fixed order, so the last one
that names a room tells the membership, and subscribers are told of a membership by each part that
changes it.
-/

namespace RoomHistory

/-- The entries of a map under one key. -/
theorem filter_toList
    {κ ν : Type}
    {order : κ → κ → Ordering}
    [Std.TransCmp order]
    [Std.LawfulEqCmp order]
    [DecidableEq κ]
    (map : Std.ExtTreeMap κ ν order)
    (key : κ) :
    (map.toList.filter fun entry => decide (entry.1 = key)) =
      (map[key]?.map fun value => (key, value)).toList := by
  have mem_filter (entry : κ × ν) :
      (entry ∈ map.toList.filter fun entry => decide (entry.1 = key)) ↔
        entry.1 = key ∧ map[key]? = some entry.2 := by
    obtain ⟨other, value⟩ := entry
    rw [List.mem_filter, Std.ExtTreeMap.mem_toList_iff_getElem?_eq_some, decide_eq_true_eq]
    constructor
    · rintro ⟨present, rfl⟩
      exact ⟨rfl, present⟩
    · rintro ⟨rfl, present⟩
      exact ⟨present, rfl⟩
  cases found : map[key]? with
  | none =>
      apply List.eq_nil_iff_forall_not_mem.mpr
      intro entry present
      rw [mem_filter, found] at present
      cases present.2
  | some value =>
      apply List.perm_singleton.mp
      apply (List.perm_ext_iff_of_nodup ((nodup_toList map).filter _)
        (List.nodup_singleton _)).mpr
      rintro ⟨other, otherValue⟩
      rw [mem_filter, found, List.mem_singleton, Option.some.injEq, Prod.mk.injEq]
      exact and_congr_right fun _ => eq_comm

namespace SyncLists

/-- The parts of a sync for one room, in the order in which they are applied. -/
def slicesFor (lists : SyncLists) (id : RoomId) : List Slice :=
  routing.filterMap fun action => (lists.list action)[id]?.map fun batch => ⟨id, batch, action⟩

/-- A room is named in one of the lists. -/
def Names (lists : SyncLists) (id : RoomId) : Prop :=
  ∃ action, id ∈ lists.list action

/-- The membership that the last list with a room tells. -/
def membershipFor? (lists : SyncLists) (id : RoomId) : Option Membership :=
  if id ∈ lists.leave then some .leave
  else if id ∈ lists.invite then some .invite
  else if id ∈ lists.join then some .join
  else none

theorem filter_slices (lists : SyncLists) (id : RoomId) :
    lists.slices.filter (fun slice => decide (slice.room = id)) = lists.slicesFor id := by
  rw [slices, List.filter_flatMap, slicesFor, List.filterMap_eq_flatMap_toList]
  congr 1
  funext action
  rw [slicesOf, List.filter_map]
  show ((lists.list action).toList.filter fun entry => decide (entry.1 = id)).map _ = _
  rw [filter_toList]
  cases (lists.list action)[id]? with
  | none => rfl
  | some batch => rfl

theorem map_room_slices (lists : SyncLists) :
    lists.slices.map (·.room) = lists.join.keys ++ lists.invite.keys ++ lists.leave.keys := by
  have rooms (action : Membership) : (lists.slicesOf action).map (·.room) =
      (lists.list action).keys := by
    rw [slicesOf, List.map_map, ← Std.ExtTreeMap.map_fst_toList_eq_keys]
    rfl
  simp only [slices, routing, List.flatMap_cons, List.flatMap_nil, List.append_nil, List.map_append,
    rooms, List.append_assoc]
  rfl

theorem names_iff (lists : SyncLists) (id : RoomId) :
    lists.Names id ↔ ∃ slice ∈ lists.slices, slice.room = id := by
  have inRooms : (∃ slice ∈ lists.slices, slice.room = id) ↔ id ∈ lists.slices.map (·.room) :=
    List.mem_map.symm
  rw [inRooms, map_room_slices]
  simp only [List.mem_append, Std.ExtTreeMap.mem_keys]
  constructor
  · rintro ⟨action, present⟩
    cases action with
    | join => exact Or.inl (Or.inl present)
    | invite => exact Or.inl (Or.inr present)
    | leave => exact Or.inr present
  · rintro ((present | present) | present)
    · exact ⟨.join, present⟩
    · exact ⟨.invite, present⟩
    · exact ⟨.leave, present⟩

/-- The last part of a sync for a room comes from the last list that names it. -/
theorem getLast?_slicesFor (lists : SyncLists) (id : RoomId) :
    (lists.slicesFor id).getLast?.map (·.action) = lists.membershipFor? id := by
  simp only [slicesFor, routing, membershipFor?, list, List.filterMap_cons, List.filterMap_nil,
    Std.ExtTreeMap.mem_iff_isSome_getElem?]
  cases lists.join[id]? <;> cases lists.invite[id]? <;> cases lists.leave[id]? <;> rfl

end SyncLists

namespace Room

/-- Applies several parts of a sync one after another. -/
def syncAll (room : Room) (clock : SyncClock) : List SyncLists.Slice → List Outcome × Room
  | [] => ([], room)
  | slice :: rest =>
      let (outcome, synced) := room.sync (clock.reading slice) slice.batch slice.action
      let (outcomes, last) := synced.syncAll clock rest
      (outcome :: outcomes, last)

@[simp] theorem syncAll_cons
    (room : Room)
    (clock : SyncClock)
    (slice : SyncLists.Slice)
    (rest : List SyncLists.Slice) :
    room.syncAll clock (slice :: rest) =
      ((room.sync (clock.reading slice) slice.batch slice.action).1 ::
          ((room.sync (clock.reading slice) slice.batch slice.action).2.syncAll clock rest).1,
        ((room.sync (clock.reading slice) slice.batch slice.action).2.syncAll clock rest).2) := rfl

end Room

namespace Client

/-- The room that a client has under an id, or else an empty one that it makes for the local user
with a timeline of its own. -/
inductive Opens (client : Client) (id : RoomId) : Room → Prop where
  | known {room : Room} (present : client.room? id = some room) : Opens client id room
  | made {tag : TimelineTag}
      (absent : client.room? id = none)
      (fresh : client.timelinesMade < tag) :
      Opens client id (.empty tag id client.settings.user client.settings.timeline)

/-- What subscribers are told of one part of a sync. -/
def sliceNotices (client : Client) (clock : SyncClock) (slice : SyncLists.Slice) : List Notice :=
  (if client.membershipIn slice.room = some slice.action then []
    else [.membership slice.room slice.action]) ++
  (Notice.ofOutcome? slice.room (client.deliverSlice clock slice).1).toList

/-- What subscribers are told of several parts, each applied where the ones before it led. -/
def allSliceNotices (client : Client) (clock : SyncClock) : List SyncLists.Slice → List Notice
  | [] => []
  | slice :: rest =>
      client.sliceNotices clock slice ++
        (client.deliverSlice clock slice).2.allSliceNotices clock rest

/-- A room is at hand in a client in which it was made if it was not there before. -/
structure Readies (client : Client) (id : RoomId) (room : Room) (made : Client) : Prop where
  ensured : client.ensureRoom id = (room, made)
  opens : client.Opens id room
  hub : made.hub = client.hub
  settings : made.settings = client.settings
  timelinesMade : client.timelinesMade ≤ made.timelinesMade
  others : ∀ other, id ≠ other → made.room? other = client.room? other
  filed : made.Filed

/-- One part of a sync was applied to a room, and to nothing else. -/
structure AppliesTo (client : Client) (clock : SyncClock) (slice : SyncLists.Slice) (room : Room) :
    Prop where
  opens : client.Opens slice.room room
  outcome : (client.deliverSlice clock slice).1 = (room.sync (clock.reading slice) slice.batch slice.action).1
  rooms : ∀ id, (client.deliverSlice clock slice).2.room? id =
    if slice.room = id then some (room.sync (clock.reading slice) slice.batch slice.action).2 else client.room? id
  hub : (client.deliverSlice clock slice).2.hub =
    client.hub.tellEach (client.sliceNotices clock slice)
  settings : (client.deliverSlice clock slice).2.settings = client.settings
  timelinesMade : client.timelinesMade ≤ (client.deliverSlice clock slice).2.timelinesMade
  filed : (client.deliverSlice clock slice).2.Filed

section

variable {client : Client} {clock : SyncClock} {slice : SyncLists.Slice} {room : Room} {id : RoomId}

theorem Opens.id_eq (opens : client.Opens id room) (filed : client.Filed) : room.id = id := by
  cases opens with
  | known present => exact filed id room present
  | made absent fresh => rfl

theorem Opens.membership_eq (opens : client.Opens id room) :
    client.membershipIn id = room.membership := by
  cases opens with
  | known present =>
      rw [membershipIn, present]
      rfl
  | made absent fresh =>
      rw [membershipIn, absent]
      rfl

theorem exists_readies (filed : client.Filed) (id : RoomId) :
    ∃ room made, client.Readies id room made := by
  cases present : client.room? id with
  | some room =>
      refine ⟨room, client, ensureRoom_of_some present, .known present, rfl, rfl, Nat.le_refl _,
        ?_, filed⟩
      exact fun _ _ => rfl
  | none =>
      refine ⟨client.newRoom id, client.make id, ensureRoom_of_none present,
        .made present (Nat.lt_succ_self _), rfl, rfl, Nat.le_succ _, ?_, filed_make filed id⟩
      intro other differs
      rw [room?_make, if_neg differs]

/-- A part of a sync applies to the room that is readied for it. -/
theorem Readies.applies
    {made : Client}
    (readies : client.Readies slice.room room made)
    (filed : client.Filed)
    (clock : SyncClock) :
    client.AppliesTo clock slice room := by
  have own := readies.opens.id_eq filed
  have answered := deliverSlice_eq clock readies.ensured own
  have outcome : (client.deliverSlice clock slice).1 =
      (room.sync (clock.reading slice) slice.batch slice.action).1 := by
    simp only [deliverSlice, readies.ensured]
  refine ⟨readies.opens, outcome, ?_, ?_, ?_, ?_, ?_⟩
  · intro id
    rw [answered, room?_answer, own]
    split
    · rfl
    · next differs => exact readies.others id differs
  · have told : room.allNotices (room.changesBy (.sync (clock.reading slice) slice.batch slice.action)) =
        client.sliceNotices clock slice := by
      rw [room.allNotices_sync, sliceNotices, outcome, readies.opens.membership_eq, own]
    rw [answered, ← told, ← readies.hub]
    rfl
  · rw [answered]
    exact readies.settings
  · rw [answered]
    exact readies.timelinesMade
  · rw [answered]
    exact filed_putRoom readies.filed _

/-- A part of a sync applies to one room. -/
theorem deliverSlice_applies
    (filed : client.Filed)
    (clock : SyncClock)
    (slice : SyncLists.Slice) :
    ∃ room, client.AppliesTo clock slice room := by
  obtain ⟨room, made, readies⟩ := exists_readies filed slice.room
  exact ⟨room, readies.applies filed clock⟩

/-- What is opened after a part for another room could have been opened before it. -/
theorem AppliesTo.opens_of_ne
    {before : Room}
    (applies : client.AppliesTo clock slice room)
    (differs : slice.room ≠ id)
    (opens : (client.deliverSlice clock slice).2.Opens id before) :
    client.Opens id before := by
  have same := applies.rooms id
  rw [if_neg differs] at same
  cases opens with
  | known present =>
      rw [same] at present
      exact .known present
  | made absent fresh =>
      rw [same] at absent
      rw [applies.settings]
      exact .made absent (Nat.lt_of_le_of_lt applies.timelinesMade fresh)

theorem deliverSlices_cons
    (client : Client)
    (clock : SyncClock)
    (slice : SyncLists.Slice)
    (rest : List SyncLists.Slice) :
    client.deliverSlices clock (slice :: rest) =
      ((slice.room, (client.deliverSlice clock slice).1) ::
          ((client.deliverSlice clock slice).2.deliverSlices clock rest).1,
        ((client.deliverSlice clock slice).2.deliverSlices clock rest).2) := rfl

/-- There is one outcome for each part, under the id of its room. -/
theorem map_fst_deliverSlices
    (client : Client)
    (clock : SyncClock)
    (slices : List SyncLists.Slice) :
    (client.deliverSlices clock slices).1.map Prod.fst = slices.map (·.room) := by
  induction slices generalizing client with
  | nil => rfl
  | cons slice rest hypothesis =>
      rw [deliverSlices_cons, List.map_cons, List.map_cons, hypothesis]

/-- Subscribers are told of the parts one after another. -/
theorem hub_deliverSlices
    (filed : client.Filed)
    (clock : SyncClock)
    (slices : List SyncLists.Slice) :
    (client.deliverSlices clock slices).2.hub =
      client.hub.tellEach (client.allSliceNotices clock slices) := by
  induction slices generalizing client with
  | nil => rfl
  | cons slice rest hypothesis =>
      obtain ⟨room, applies⟩ := deliverSlice_applies filed clock slice
      rw [deliverSlices_cons, hypothesis applies.filed, applies.hub, allSliceNotices,
        FeedHub.tellEach_append]

/-- The membership in a room is the one that its last part told. -/
theorem membershipIn_deliverSlices
    (filed : client.Filed)
    (clock : SyncClock)
    (slices : List SyncLists.Slice)
    (id : RoomId) :
    (client.deliverSlices clock slices).2.membershipIn id =
      ((slices.filter fun slice => decide (slice.room = id)).getLast?.map (·.action)).or
        (client.membershipIn id) := by
  induction slices generalizing client with
  | nil => rfl
  | cons slice rest hypothesis =>
      obtain ⟨room, applies⟩ := deliverSlice_applies filed clock slice
      have after := applies.rooms id
      rw [deliverSlices_cons, hypothesis applies.filed, membershipIn]
      by_cases same : slice.room = id
      · rw [if_pos same] at after
        rw [after, List.filter_cons_of_pos (by simpa using same), List.getLast?_cons]
        cases (rest.filter fun slice => decide (slice.room = id)).getLast? with
        | none => rfl
        | some last => rfl
      · rw [if_neg same] at after
        rw [after, List.filter_cons_of_neg (by simpa using same), membershipIn]

/-- A room became what its own parts of a sync make of it, and these are their outcomes. -/
structure SyncedAlone (client : Client) (clock : SyncClock) (slices : List SyncLists.Slice)
    (id : RoomId) (before : Room) : Prop where
  room : (client.deliverSlices clock slices).2.room? id =
    some (before.syncAll clock (slices.filter fun slice => decide (slice.room = id))).2
  outcomes : ((client.deliverSlices clock slices).1.filter fun entry => decide (entry.1 = id)).map
      Prod.snd =
    (before.syncAll clock (slices.filter fun slice => decide (slice.room = id))).1

section

variable {before : Room} {rest : List SyncLists.Slice}

theorem SyncedAlone.cons_own
    (alone : (client.deliverSlice clock slice).2.SyncedAlone clock rest slice.room
      (before.sync (clock.reading slice) slice.batch slice.action).2)
    (applies : client.AppliesTo clock slice before) :
    client.SyncedAlone clock (slice :: rest) slice.room before where
  room := by
    rw [deliverSlices_cons, alone.room, List.filter_cons_of_pos (by simp), Room.syncAll_cons]
  outcomes := by
    rw [deliverSlices_cons, List.filter_cons_of_pos (by simp), List.filter_cons_of_pos (by simp),
      List.map_cons, alone.outcomes, Room.syncAll_cons, applies.outcome]

theorem SyncedAlone.cons_other
    (alone : (client.deliverSlice clock slice).2.SyncedAlone clock rest id before)
    (differs : slice.room ≠ id) :
    client.SyncedAlone clock (slice :: rest) id before where
  room := by
    rw [deliverSlices_cons, alone.room, List.filter_cons_of_neg (by simpa using differs)]
  outcomes := by
    rw [deliverSlices_cons, List.filter_cons_of_neg (by simpa using differs),
      List.filter_cons_of_neg (by simpa using differs), alone.outcomes]

end

/-- A room that is there goes through its own parts of a sync. -/
theorem syncedAlone_of_present
    (filed : client.Filed)
    (present : client.room? id = some room)
    (clock : SyncClock)
    (slices : List SyncLists.Slice) :
    client.SyncedAlone clock slices id room := by
  induction slices generalizing client room with
  | nil => exact ⟨present, rfl⟩
  | cons slice rest hypothesis =>
      obtain ⟨opened, applies⟩ := deliverSlice_applies filed clock slice
      have after := applies.rooms id
      by_cases same : slice.room = id
      · subst same
        have isOpened : opened = room := by
          cases applies.opens with
          | known found => exact Option.some.inj (found.symm.trans present)
          | made absent fresh =>
              rw [present] at absent
              cases absent
        subst isOpened
        rw [if_pos rfl] at after
        exact (hypothesis applies.filed after).cons_own applies
      · rw [if_neg same, present] at after
        exact (hypothesis applies.filed after).cons_other same

/-- A room that is named is opened and goes through its own parts. -/
theorem syncedAlone_of_named
    {slices : List SyncLists.Slice}
    (filed : client.Filed)
    (clock : SyncClock)
    (named : ∃ slice ∈ slices, slice.room = id) :
    ∃ before, client.Opens id before ∧ client.SyncedAlone clock slices id before := by
  induction slices generalizing client with
  | nil =>
      obtain ⟨slice, present, -⟩ := named
      cases present
  | cons slice rest hypothesis =>
      obtain ⟨opened, applies⟩ := deliverSlice_applies filed clock slice
      by_cases same : slice.room = id
      · subst same
        have after := applies.rooms slice.room
        rw [if_pos rfl] at after
        have alone := syncedAlone_of_present applies.filed after clock rest
        exact ⟨opened, applies.opens, alone.cons_own applies⟩
      · have namedLater : ∃ slice ∈ rest, slice.room = id := by
          obtain ⟨other, present, isRoom⟩ := named
          rcases List.mem_cons.mp present with rfl | inRest
          · exact absurd isRoom same
          · exact ⟨other, inRest, isRoom⟩
        obtain ⟨before, opens, alone⟩ := hypothesis applies.filed namedLater
        exact ⟨before, applies.opens_of_ne same opens, alone.cons_other same⟩

/-- A room that is not named stays as it was, or away. -/
theorem room?_deliverSlices_of_unnamed
    {slices : List SyncLists.Slice}
    (filed : client.Filed)
    (clock : SyncClock)
    (unnamed : ∀ slice ∈ slices, slice.room ≠ id) :
    (client.deliverSlices clock slices).2.room? id = client.room? id := by
  induction slices generalizing client with
  | nil => rfl
  | cons slice rest hypothesis =>
      obtain ⟨notFirst, notLater⟩ := List.forall_mem_cons.mp unnamed
      obtain ⟨opened, applies⟩ := deliverSlice_applies filed clock slice
      rw [deliverSlices_cons, hypothesis applies.filed notLater, applies.rooms, if_neg notFirst]

end

/-- A sync went to the rooms that it names, and subscribers were told of it. -/
structure Routes (client : Client) (clock : SyncClock) (lists : SyncLists)
    (outcomes : List (RoomId × Outcome)) (later : Client) : Prop where
  /-- A room that is named became what its own parts make of it. -/
  named : ∀ id, lists.Names id → ∃ before, client.Opens id before ∧
    later.room? id = some (before.syncAll clock (lists.slicesFor id)).2 ∧
    (outcomes.filter fun entry => decide (entry.1 = id)).map Prod.snd =
      (before.syncAll clock (lists.slicesFor id)).1
  unnamed : ∀ id, ¬lists.Names id → later.room? id = client.room? id
  membership : ∀ id,
    later.membershipIn id = (lists.membershipFor? id).or (client.membershipIn id)
  ids : outcomes.map Prod.fst = lists.join.keys ++ lists.invite.keys ++ lists.leave.keys
  ascending : ∀ action, (lists.list action).keys.Pairwise fun left right =>
    compare left right = .lt
  hub : later.hub = client.hub.tellEach (client.allSliceNotices clock lists.slices)

/-- A client whose rooms are filed under their own ids routes a sync. -/
theorem routes_of_filed
    {client : Client}
    (filed : client.Filed)
    (clock : SyncClock)
    (sync : Sync) :
    client.Routes clock sync.rooms (client.deliver clock sync).1 (client.deliver clock sync).2 where
  named id isNamed := by
    obtain ⟨before, opens, alone⟩ :=
      syncedAlone_of_named filed clock ((sync.rooms.names_iff id).mp isNamed)
    refine ⟨before, opens, ?_⟩
    rw [← SyncLists.filter_slices]
    exact ⟨alone.room, alone.outcomes⟩
  unnamed id notNamed := by
    apply room?_deliverSlices_of_unnamed filed clock
    intro slice present isRoom
    exact notNamed ((sync.rooms.names_iff id).mpr ⟨slice, present, isRoom⟩)
  membership id := by
    rw [← SyncLists.getLast?_slicesFor, ← SyncLists.filter_slices]
    exact membershipIn_deliverSlices filed clock sync.rooms.slices id
  ids := (client.map_fst_deliverSlices clock sync.rooms.slices).trans sync.rooms.map_room_slices
  ascending _ := Std.ExtTreeMap.ordered_keys
  hub := hub_deliverSlices filed clock sync.rooms.slices

/-- A sync is routed, whatever was asked of the client before. -/
theorem deliver_routes
    (settings : ClientSettings)
    (earlier : List Request)
    (clock : SyncClock)
    (sync : Sync) :
    let client := (ofSettings settings).serveAll earlier
    let (outcomes, later) := client.deliver clock sync
    client.Routes clock sync.rooms outcomes later := by
  have filed := (houses_ofSettings (fun _ => True) settings).filed
  exact routes_of_filed (filed_serveAll filed earlier) clock sync

end Client

end RoomHistory
