import RoomHistory.Client.Subscribing
import RoomHistory.Proofs.Timeline.Runs

/-!
# How rooms change

Whatever is asked of a room, each part of it changes in few ways: a batch enters the timeline, the
local user gets a membership, the cursors turn, an event joins or leaves the outbox, and answers are
remembered or forgotten.  A request is a list of such changes, so that what every change keeps is
kept by all that can be asked of a room.
-/

namespace RoomHistory

/-- The values of a map are those of its pairs. -/
theorem values_eq_map_snd
    {κ ν : Type}
    {order : κ → κ → Ordering}
    [Std.TransCmp order]
    (map : Std.ExtTreeMap κ ν order) :
    map.values = map.toList.map Prod.snd := by
  obtain ⟨⟨inner⟩⟩ := map
  induction inner using Quotient.inductionOn with
  | h tree =>
      show tree.inner.values = (Std.DTreeMap.Internal.Impl.Const.toList tree.inner).map Prod.snd
      rw [Std.DTreeMap.Internal.Impl.values_eq_map_snd,
        Std.DTreeMap.Internal.Impl.Const.toList_eq_toListModel_map, List.map_map]
      rfl

theorem mem_values_iff
    {κ ν : Type}
    {order : κ → κ → Ordering}
    [Std.TransCmp order]
    [Std.LawfulEqCmp order]
    {map : Std.ExtTreeMap κ ν order}
    {value : ν} :
    value ∈ map.values ↔ ∃ key : κ, map[key]? = some value := by
  rw [values_eq_map_snd, List.mem_map]
  constructor
  · rintro ⟨⟨key, found⟩, present, rfl⟩
    exact ⟨key, Std.ExtTreeMap.mem_toList_iff_getElem?_eq_some.mp present⟩
  · rintro ⟨key, present⟩
    exact ⟨(key, value), Std.ExtTreeMap.mem_toList_iff_getElem?_eq_some.mpr present, rfl⟩

/-- No pair is listed twice. -/
theorem nodup_toList
    {κ ν : Type}
    {order : κ → κ → Ordering}
    [Std.TransCmp order]
    [Std.LawfulEqCmp order]
    (map : Std.ExtTreeMap κ ν order) :
    map.toList.Nodup := by
  apply List.Nodup.of_map Prod.fst
  rw [Std.ExtTreeMap.map_fst_toList_eq_keys]
  exact Std.ExtTreeMap.nodup_keys

namespace Outbox

/-- What waits after an event was added is that event, or waited before. -/
theorem getElem?_add
    {outbox : Outbox}
    {pending waiting : OutboxEntry}
    {type : String}
    (present : (outbox.add pending).entries[type]? = some waiting) :
    waiting = pending ∨ outbox.entries[type]? = some waiting := by
  rw [add, Std.ExtTreeMap.getElem?_insert] at present
  split at present
  · exact Or.inl (Option.some.inj present).symm
  · exact Or.inr present

/-- What is taken out waited, and whatever waits then waited before. -/
theorem take?_some
    {outbox rest : Outbox}
    {transaction : String}
    {pending : OutboxEntry}
    (taken : outbox.take? transaction = some (pending, rest)) :
    (∃ type : String, outbox.entries[type]? = some pending) ∧
      ∀ (type : String) (waiting : OutboxEntry), rest.entries[type]? = some waiting →
        outbox.entries[type]? = some waiting := by
  rw [take?, Option.map_eq_some_iff] at taken
  obtain ⟨found, finds, same⟩ := taken
  obtain ⟨rfl, rfl⟩ := Prod.mk.inj same
  refine ⟨mem_values_iff.mp (List.mem_of_find?_eq_some finds), ?_⟩
  intro type waiting present
  rw [Std.ExtTreeMap.getElem?_erase] at present
  split at present
  · cases present
  · exact present

end Outbox

namespace Room

/-- A change to one part of a room. -/
inductive Change where
  /-- A batch enters the timeline. -/
  | enter (insertion : Insertion)
  /-- The local user has a membership. -/
  | move (membership : Membership)
  /-- The next pages start elsewhere. -/
  | turn (cursors : Cursors)
  /-- An event joins the outbox. -/
  | post (pending : OutboxEntry)
  /-- An event leaves the outbox. -/
  | withdraw (transaction : String)
  /-- The state of a type is asked for. -/
  | read (type : String)
  /-- The remembered state of a type is forgotten. -/
  | forget (type : String)
  /-- The horizon is asked for. -/
  | look

/-- The room after a change. -/
def change (room : Room) : Change → Room
  | .enter insertion => { room with timeline := (insertion.applyTo room.timeline).2 }
  | .move told => { room with membership := some told }
  | .turn cursors => { room with cursors := cursors }
  | .post pending => { room with outbox := room.outbox.add pending }
  | .withdraw transaction =>
      { room with outbox := ((room.outbox.take? transaction).map Prod.snd).getD room.outbox }
  | .read type => { room with memo := (room.memo.get room.timeline type).2 }
  | .forget type => room.forgetState type
  | .look => room.rememberHorizon

/-- The room after several changes. -/
def changeAll (room : Room) (changes : List Change) : Room :=
  changes.foldl change room

/-- What may be asked of a room. -/
inductive Request where
  | insert (now : Moment) (events : List Event)
  | insertValues (now : Moment) (values : List Json)
  | sync (now : Moment) (batch : RoomBatch) (action : Membership)
  | requestPage (direction : Direction) (limit : Nat)
  | receivePage (now : Moment) (ticket : Ticket) (page : Page)
  | fetchPage (now : Moment) (server : PageServer) (direction : Direction) (limit : Nat)
  | issue (now : Timestamp) (type : String) (stateKey : Option String) (content : Json)
  | confirm (now : Moment) (transaction : String) (id : EventId)
  | abandon (transaction : String)
  | state (type : String)
  | directoryEntry
  | forgetState (type : String)
  | horizon

/-- The room after a request; one that is refused leaves it as it was. -/
def serve (room : Room) : Request → Room
  | .insert now events => (room.insert now events).2
  | .insertValues now values => (room.insertValues now values).2
  | .sync now batch action => (room.sync now batch action).2
  | .requestPage direction limit => (room.requestPage direction limit).2.2
  | .receivePage now ticket page => (room.receivePage now ticket page).2
  | .fetchPage now server direction limit => (room.fetchPage now server direction limit).2
  | .issue now type stateKey content =>
      ((room.issue now type stateKey content).toOption.map Prod.snd).getD room
  | .confirm now transaction id =>
      ((room.confirm now transaction id).toOption.map Prod.snd).getD room
  | .abandon transaction => ((room.abandon transaction).toOption.map Prod.snd).getD room
  | .state type => (room.state type).2
  | .directoryEntry => room.directoryEntry.2
  | .forgetState type => room.forgetState type
  | .horizon => room.rememberHorizon

/-- The room after several requests. -/
def serveAll (room : Room) (requests : List Request) : Room :=
  requests.foldl serve room

/-- What a request to a room returns of what it inserted. -/
def returns (room : Room) : Request → List (Except Error Outcome)
  | .insert now events => [.ok (room.insert now events).1]
  | .insertValues now values => [.ok (room.insertValues now values).1]
  | .sync now batch action => [.ok (room.sync now batch action).1]
  | .receivePage now ticket page => [.ok (room.receivePage now ticket page).1]
  | .fetchPage now server direction limit => [(room.fetchPage now server direction limit).1]
  | .confirm now transaction id => [(room.confirm now transaction id).map Prod.fst]
  | .requestPage _ _ | .issue _ _ _ _ | .abandon _ | .state _ | .directoryEntry | .forgetState _
  | .horizon => []

/-- The batch of a page enters, and the cursors turn. -/
def pageChanges (room : Room) (now : Moment) (ticket : Ticket) (page : Page) : List Change :=
  [.enter (.raw (room.arrival none now.arrival) now.change page.chunk), .turn (room.cursors.answer ticket page)]

/-- The changes that a request makes. -/
def changesBy (room : Room) : Request → List Change
  | .insert now events => [.enter (.arriving (room.arrival none now.arrival) now.change events)]
  | .insertValues now values => [.enter (.raw (room.arrival none now.arrival) now.change values)]
  | .sync now batch action =>
      [.move action, .turn (room.enterSync batch action).cursors,
        .enter (.raw (room.arrival (some action) now.arrival) now.change batch.values)]
  | .requestPage direction _ => [.turn (room.cursors.take direction).2]
  | .receivePage now ticket page => room.pageChanges now ticket page
  | .fetchPage now server direction limit =>
      let (ticket, query, begun) := room.requestPage direction limit
      .turn begun.cursors ::
        match server room.id query with
        | .ok page => begun.pageChanges now ticket page
        | .error _ => []
  | .issue now type stateKey content =>
      match room.issue now type stateKey content with
      | .ok (pending, _) => [.post pending]
      | .error _ => []
  | .confirm now transaction id =>
      match room.takePending transaction with
      | .ok (pending, _) =>
          [.withdraw transaction,
            .enter (.arriving (room.arrival none now.arrival) now.change [room.confirmedEvent pending id])]
      | .error _ => []
  | .abandon transaction => [.withdraw transaction]
  | .state type => [.read type]
  | .directoryEntry => DirectoryEntry.digestedTypes.map .read
  | .forgetState type => [.forget type]
  | .horizon => [.look]

section

variable {room : Room}

@[simp] theorem changeAll_cons (room : Room) (change : Change) (rest : List Change) :
    room.changeAll (change :: rest) = (room.change change).changeAll rest := rfl

/-- Asking for the states of several types changes only what is remembered. -/
theorem changeAll_read (room : Room) (types : List String) :
    room.changeAll (types.map .read) =
      { room with memo := room.memo.getAll room.timeline types } := by
  induction types generalizing room with
  | nil => rfl
  | cons type rest hypothesis =>
      rw [List.map_cons, changeAll_cons, hypothesis]
      rfl

theorem takePending_ok
    {transaction : String}
    {pending : OutboxEntry}
    {rest : Room}
    (taken : room.takePending transaction = .ok (pending, rest)) :
    ∃ outbox, room.outbox.take? transaction = some (pending, outbox) ∧
      rest = room.change (.withdraw transaction) := by
  rw [takePending] at taken
  split at taken
  next found outbox takes =>
    obtain ⟨rfl, rfl⟩ := Prod.mk.inj (Except.ok.inj taken)
    exact ⟨outbox, takes, by rw [change, takes]; rfl⟩
  next => cases taken

/-- A request makes its changes, one after another, and no others. -/
theorem serve_eq (room : Room) (request : Request) :
    room.serve request = room.changeAll (room.changesBy request) := by
  cases request with
  | insert now events => rfl
  | insertValues now values => rfl
  | sync now batch action => rfl
  | requestPage direction limit => rfl
  | receivePage now ticket page => rfl
  | fetchPage now server direction limit =>
      simp only [serve, fetchPage, changesBy]
      cases server room.id (room.requestPage direction limit).2.1 <;> rfl
  | issue now type stateKey content =>
      rw [serve, changesBy]
      cases issued : room.issue now type stateKey content with
      | error error => rfl
      | ok result =>
          rw [issue] at issued
          split at issued
          · cases issued
          · rw [← Except.ok.inj issued]
            rfl
  | confirm now transaction id =>
      rw [serve, changesBy, confirm]
      cases taken : room.takePending transaction with
      | error error => rfl
      | ok result =>
          obtain ⟨pending, rest⟩ := result
          obtain ⟨outbox, -, rfl⟩ := takePending_ok taken
          rfl
  | abandon transaction =>
      rw [serve, changesBy, abandon, takePending, changeAll_cons, change]
      cases room.outbox.take? transaction <;> rfl
  | state type => rfl
  | directoryEntry =>
      rw [changesBy, changeAll_read]
      rfl
  | forgetState type => rfl
  | horizon => rfl

/-- What the subscribers of a client are told of a change to a room. -/
def notices (room : Room) : Change → List Notice
  | .enter insertion => (Notice.ofOutcome? room.id (insertion.applyTo room.timeline).1).toList
  | .move told => if room.membership = some told then [] else [.membership room.id told]
  | .forget type => [.stateInvalidated room.id type]
  | .turn _ | .post _ | .withdraw _ | .read _ | .look => []

/-- What they are told of several changes. -/
def allNotices (room : Room) : List Change → List Notice
  | [] => []
  | change :: rest => room.notices change ++ (room.change change).allNotices rest

@[simp] theorem allNotices_singleton (room : Room) (change : Change) :
    room.allNotices [change] = room.notices change :=
  List.append_nil _

theorem allNotices_insert (room : Room) (now : Moment) (events : List Event) :
    room.allNotices (room.changesBy (.insert now events)) =
      (Notice.ofOutcome? room.id (room.insert now events).1).toList :=
  room.allNotices_singleton _

theorem allNotices_pageChanges
    (room : Room)
    (now : Moment)
    (ticket : Ticket)
    (page : Page) :
    room.allNotices (room.pageChanges now ticket page) =
      (Notice.ofOutcome? room.id (room.receivePage now ticket page).1).toList :=
  List.append_nil _

/-- Subscribers are told of a sync by the new membership, if it is new, and by its outcome. -/
theorem allNotices_sync
    (room : Room)
    (now : Moment)
    (batch : RoomBatch)
    (action : Membership) :
    room.allNotices (room.changesBy (.sync now batch action)) =
      (if room.membership = some action then [] else [.membership room.id action]) ++
        (Notice.ofOutcome? room.id (room.sync now batch action).1).toList :=
  congrArg (room.notices (.move action) ++ ·) (List.append_nil _)

/-- A page that is asked for is received and told of, or the request has only turned the cursors. -/
theorem fetchPage_cases
    (room : Room)
    (now : Moment)
    (server : PageServer)
    (direction : Direction)
    (limit : Nat) :
    (∃ outcome changed, room.fetchPage now server direction limit = (.ok outcome, changed) ∧
      changed.id = room.id ∧
      room.allNotices (room.changesBy (.fetchPage now server direction limit)) =
        (Notice.ofOutcome? room.id outcome).toList) ∨
    ∃ error changed, room.fetchPage now server direction limit = (.error error, changed) ∧
      room.allNotices (room.changesBy (.fetchPage now server direction limit)) = [] := by
  simp only [fetchPage, changesBy]
  cases server room.id (room.requestPage direction limit).2.1 with
  | ok page =>
      refine Or.inl ⟨_, _, rfl, rfl, ?_⟩
      exact (room.requestPage direction limit).2.2.allNotices_pageChanges now _ page
  | error error => exact Or.inr ⟨_, _, rfl, rfl⟩

/-- An event is confirmed and told of by the outcome of its insertion, or nothing is done. -/
theorem confirm_cases
    (room : Room)
    (now : Moment)
    (transaction : String)
    (id : EventId) :
    (∃ outcome changed, room.confirm now transaction id = .ok (outcome, changed) ∧
      changed.id = room.id ∧
      room.allNotices (room.changesBy (.confirm now transaction id)) =
        (Notice.ofOutcome? room.id outcome).toList) ∨
    ∃ error, room.confirm now transaction id = .error error ∧
      room.changesBy (.confirm now transaction id) = [] := by
  simp only [confirm, changesBy]
  cases taken : room.takePending transaction with
  | error error => exact Or.inr ⟨error, rfl, rfl⟩
  | ok result =>
      obtain ⟨pending, rest⟩ := result
      obtain ⟨outbox, -, rfl⟩ := takePending_ok taken
      exact Or.inl ⟨_, _, rfl, rfl, List.append_nil _⟩

end

end Room

end RoomHistory
