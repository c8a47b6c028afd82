import RoomHistory.Proofs.Client.Announcing

/-!
# Notices that account for changes

Whatever a client tells of accounts for what became of its rooms: by the notices about a room it has
grown, and the membership in it is the one told last.  This holds of every request by which no room
is forgotten and no room changed without a notice.
-/

namespace RoomHistory

namespace Room

/-- Whether a change leaves the events and the membership as they are. -/
def Change.isQuiet : Change → Bool
  | .enter _ | .move _ => false
  | .turn _ | .post _ | .withdraw _ | .read _ | .forget _ | .look => true

/-- Whether a request leaves the events and the membership as they are. -/
def Request.isQuiet : Request → Bool
  | .insert _ _ | .insertValues _ _ | .sync _ _ _ | .receivePage _ _ _ | .fetchPage _ _ _ _
  | .confirm _ _ _ => false
  | .requestPage _ _ | .issue _ _ _ _ | .abandon _ | .state _ | .directoryEntry | .forgetState _
  | .horizon => true

theorem changeAll_of_quiet
    (room : Room)
    {changes : List Change}
    (quiet : ∀ change ∈ changes, change.isQuiet = true) :
    (room.changeAll changes).timeline.events = room.timeline.events ∧
      (room.changeAll changes).membership = room.membership := by
  induction changes generalizing room with
  | nil => exact ⟨rfl, rfl⟩
  | cons single rest hypothesis =>
      obtain ⟨quietFirst, quietRest⟩ := List.forall_mem_cons.mp quiet
      obtain ⟨events, membership⟩ := hypothesis (room.change single) quietRest
      rw [changeAll_cons, events, membership]
      cases single with
      | enter insertion => cases quietFirst
      | move told => cases quietFirst
      | _ => exact ⟨rfl, rfl⟩

theorem serve_of_quiet
    {request : Request}
    (room : Room)
    (quiet : request.isQuiet = true) :
    (room.serve request).timeline.events = room.timeline.events ∧
      (room.serve request).membership = room.membership := by
  rw [serve_eq]
  apply changeAll_of_quiet
  cases request with
  | requestPage direction limit => exact List.forall_mem_singleton.mpr rfl
  | issue now type stateKey content =>
      rw [changesBy]
      split
      · exact List.forall_mem_singleton.mpr rfl
      · exact List.forall_mem_nil _
  | abandon transaction => exact List.forall_mem_singleton.mpr rfl
  | state type => exact List.forall_mem_singleton.mpr rfl
  | directoryEntry => exact List.forall_mem_map.mpr fun _ _ => rfl
  | forgetState type => exact List.forall_mem_singleton.mpr rfl
  | horizon => exact List.forall_mem_singleton.mpr rfl
  | insert now events => cases quiet
  | insertValues now values => cases quiet
  | sync now batch action => cases quiet
  | receivePage now ticket page => cases quiet
  | fetchPage now server direction limit => cases quiet
  | confirm now transaction id => cases quiet

end Room

namespace Client

/-- The membership in a room; none if the room is not there. -/
def membershipIn (client : Client) (id : RoomId) : Option Membership :=
  (client.room? id).bind (·.membership)

/-- Whether a request leaves rooms where they are, and changes none without a notice. -/
def Request.isTraceable : Request → Bool
  | .forgetRoom _ => false
  | .room _ own => own.isQuiet
  | .ensureRoom _ | .openLocalRoom _ _ | .insert _ _ _ | .deliver _ _ | .fetchPage _ _ _ _ _
  | .confirm _ _ _ _ | .forgetState _ _ | .subscribe _ | .feed _ _ => true

/-- Notices of changes account for what became of every room. -/
structure Accounts (client later : Client) (notices : List Notice) : Prop where
  changes : ∀ notice ∈ notices, notice.changed?.isSome = true
  length : ∀ id, ((later.eventsIn id).length : Int) =
    (client.eventsIn id).length + Notice.growthOf id notices
  membership : ∀ id, later.membershipIn id =
    (Notice.lastMembership? id notices).getD (client.membershipIn id)

section

variable {given : Json → Prop} {client later last : Client} {notices noticesThen : List Notice}

/-- Where events and memberships are the same there is nothing to account for. -/
theorem accounts_of_same
    (events : ∀ id, later.eventsIn id = client.eventsIn id)
    (membership : ∀ id, later.membershipIn id = client.membershipIn id) :
    Accounts client later [] where
  changes := List.forall_mem_nil _
  length id := by
    rw [events]
    exact (Int.add_zero _).symm
  membership id := membership id

theorem Accounts.trans
    (first : Accounts client later notices)
    (next : Accounts later last noticesThen) :
    Accounts client last (notices ++ noticesThen) where
  changes := List.forall_mem_append.mpr ⟨first.changes, next.changes⟩
  length id := by
    rw [next.length, first.length, Notice.growthOf_append, Int.add_assoc]
  membership id := by
    rw [next.membership, first.membership, Notice.getD_lastMembership?_append]

/-- A room that is filed is accounted for by notices of its changes. -/
theorem accounts_putRoom
    (room : Room)
    (about : ∀ notice ∈ notices, notice.changed? = some room.id)
    (length : (room.timeline.events.length : Int) =
      (client.eventsIn room.id).length + Notice.growthOf room.id notices)
    (membership : room.membership =
      (Notice.lastMembership? room.id notices).getD (client.membershipIn room.id))
    (filed : ∀ id, later.room? id = if room.id = id then some room else client.room? id) :
    Accounts client later notices where
  changes notice present := by rw [about notice present, Option.isSome_some]
  length id := by
    rw [eventsIn, filed]
    split
    · next same =>
        subst same
        exact length
    · next differs =>
        rw [(Notice.tells_nothing about differs).1, Int.add_zero]
        rfl
  membership id := by
    rw [membershipIn, filed]
    split
    · next same =>
        subst same
        exact membership
    · next differs =>
        rw [(Notice.tells_nothing about differs).2]
        rfl

theorem Announces.accounts (announces : Announces given client later notices) :
    Accounts client later notices := by
  induction announces with
  | nothing client => exact accounts_of_same (fun _ => rfl) fun _ => rfl
  | @make client made absent =>
      apply accounts_of_same (eventsIn_make absent)
      intro id
      rw [membershipIn, room?_make]
      split
      · next same =>
          rw [← same, membershipIn, absent]
          rfl
      · rfl
  | @answer client room own present gives =>
      obtain ⟨length, membership⟩ := room.allNotices_account (room.changesBy own)
      rw [← Room.serve_eq] at length membership
      have sameId := room.serve_id own
      refine accounts_putRoom (room.serve own) ?_ ?_ ?_ fun id => ?_
      · rw [sameId]
        exact Room.allNotices_changed
      · rw [sameId, eventsIn_of_some present]
        exact length
      · rw [sameId, membershipIn, present]
        exact membership
      · rw [room?_answer, sameId]
  | append first next hypothesis hypothesisThen => exact hypothesis.trans hypothesisThen

/-- A room that comes with its events and the local user in it is accounted for by telling so. -/
theorem accounts_created
    {room : Room}
    (absent : client.room? room.id = none)
    (joined : room.membership = some .join)
    (filed : ∀ id, later.room? id = if room.id = id then some room else client.room? id) :
    Accounts client later ([.membership room.id .join] ++
      (Notice.ofOutcome? room.id (creationOutcome room)).toList) := by
  have grown : Notice.growthOf room.id (Notice.ofOutcome? room.id (creationOutcome room)).toList =
      (room.timeline.length : Int) - 0 :=
    Notice.growthOf_ofOutcome? room.id fun none => absurd none (Option.some_ne_none _)
  refine accounts_putRoom room ?_ ?_ ?_ filed
  · refine List.forall_mem_append.mpr ⟨List.forall_mem_singleton.mpr rfl, ?_⟩
    exact fun _ told => (Notice.ofOutcome?_changed told).1
  · rw [Notice.growthOf_append, grown, eventsIn_of_none absent]
    simp [Notice.growthOf, Notice.growth, Timeline.length]
  · rw [Notice.getD_lastMembership?_append, Notice.lastMembership?_ofOutcome?, joined]
    simp [Notice.lastMembership?, Notice.membership?]

/-- What subscribers are told of a new local room accounts for it. -/
theorem accounts_openLocalRoom
    {now : Moment}
    {id : RoomId}
    {room : Room}
    (opened : client.openLocalRoom now id = .ok (room, later)) :
    ∃ notices, later.hub = client.hub.tellEach notices ∧ Accounts client later notices := by
  rw [openLocalRoom] at opened
  split at opened
  · cases opened
  · next absent =>
      dsimp only at opened
      -- Only the id and the membership of the new room matter, not how its events came about.
      have own : (Room.clientOnly (client.timelinesMade + 1) id client.settings.user
        client.settings.timeline now).id = id := rfl
      have joined : (Room.clientOnly (client.timelinesMade + 1) id client.settings.user
        client.settings.timeline now).membership = some .join := rfl
      generalize Room.clientOnly (client.timelinesMade + 1) id client.settings.user
        client.settings.timeline now = made at opened own joined
      obtain ⟨rfl, rfl⟩ := Prod.mk.inj (Except.ok.inj opened)
      subst own
      refine ⟨_, ?_, accounts_created absent joined (client.room?_putRoom made)⟩
      exact FeedHub.tellInsertion_eq (client.hub.tellAll (.membership made.id .join)) made.id
        (creationOutcome made)

/-- Where rooms are the same but for remembered horizons there is nothing to account for. -/
theorem accounts_of_rooms
    (rooms : later.rooms = client.rooms ∨ later.rooms = client.rememberHorizons.rooms) :
    Accounts client later [] := by
  rcases rooms with same | remembered
  · have found : ∀ id, later.room? id = client.room? id := fun id => by rw [room?, same, room?]
    exact accounts_of_same (fun id => by rw [eventsIn, found, eventsIn])
      fun id => by rw [membershipIn, found, membershipIn]
  · have found : ∀ id, later.room? id = (client.room? id).map (·.rememberHorizon) := fun id => by
      rw [← room?_rememberHorizons, room?, remembered, room?]
    apply accounts_of_same
    · intro id
      rw [eventsIn, found, Option.map_map]
      rfl
    · intro id
      rw [membershipIn, found, Option.bind_map]
      rfl

/-- A room that was asked quietly needs no account. -/
theorem accounts_of_quiet
    {room : Room}
    {own : Room.Request}
    (present : client.room? room.id = some room)
    (quiet : own.isQuiet = true) :
    Accounts client (client.putRoom (room.serve own)) [] := by
  obtain ⟨events, membership⟩ := Room.serve_of_quiet room quiet
  refine accounts_putRoom (room.serve own) ?_ ?_ ?_ (client.room?_putRoom _)
  · exact List.forall_mem_nil _
  · rw [Room.serve_id, eventsIn_of_some present, events]
    exact (Int.add_zero _).symm
  · rw [Room.serve_id, membershipIn, present]
    exact membership

end

end Client

end RoomHistory
