import RoomHistory.Proofs.Client.Accounting
import RoomHistory.Proofs.Client.Completing

/-!
# Following a client's rooms

A subscriber that is first shown what rooms are like can follow them from what it is told.  For each
room it follows, the length that it was shown and the growth that it was told of since add up to the
length of the room, and the membership that it was told last is the membership in the room.  Views,
insertions, moves and the making of local rooms all have to agree on this, and while the
subscription is registered nothing that was told to it is lost.
-/

namespace RoomHistory

/-- Where something is found in a list, and nothing else is, it is the first and the last found. -/
theorem findSome?_of_unique
    {α β : Type}
    {find : α → Option β}
    {items : List α}
    {found : β}
    (unique : ∀ item ∈ items, ∀ other, find item = some other → other = found)
    (present : ∃ item ∈ items, find item = some found) :
    items.findSome? find = some found ∧ (items.filterMap find).getLast? = some found := by
  obtain ⟨item, itemIn, isFound⟩ := present
  constructor
  · cases first : items.findSome? find with
    | none => exact absurd (List.findSome?_eq_none_iff.mp first item itemIn) (by simp [isFound])
    | some other =>
        obtain ⟨another, anotherIn, finds⟩ := List.exists_of_findSome?_eq_some first
        rw [unique another anotherIn other finds]
  · cases last : (items.filterMap find).getLast? with
    | none =>
        have nothing := List.getLast?_eq_none_iff.mp last
        have something := List.mem_filterMap.mpr ⟨item, itemIn, isFound⟩
        rw [nothing] at something
        exact absurd something List.not_mem_nil
    | some other =>
        obtain ⟨another, anotherIn, finds⟩ := List.mem_filterMap.mp (List.mem_of_getLast? last)
        rw [unique another anotherIn other finds]

namespace FeedHub

variable {hub : FeedHub} {id : FeedId} {feed : Feed}

/-- Views that were all told leave the subscription registered. -/
theorem sendViews_ok
    (present : hub.feed? id = some feed)
    (registered : feed.isRegistered = true)
    {rooms : List RoomView}
    (success : (hub.sendViews id rooms).1 = .ok ()) :
    (feed.sendViews rooms).isRegistered = true := by
  rw [sendViews, registered?_of_feed? present, if_pos registered] at success
  by_contra removed
  simp [removed] at success

/-- A mark that was told leaves the subscription registered. -/
theorem finishCatchUp_ok
    (present : hub.feed? id = some feed)
    (registered : feed.isRegistered = true)
    (success : (hub.finishCatchUp id).1 = .ok ()) :
    (feed.finishCatchUp?.getD feed.remove).isRegistered = true := by
  rw [finishCatchUp, registered?_of_feed? present, if_pos registered] at success
  cases marked : feed.finishCatchUp? with
  | none => simp [marked] at success
  | some caughtUp =>
      obtain ⟨stream, -, rfl⟩ := Option.map_eq_some_iff.mp marked
      exact registered

end FeedHub

namespace Client

/-- What the receiver of a subscription gets by a request. -/
def receipts (client : Client) (id : FeedId) : Request → List Notice
  | .feed other use => if other = id then client.hub.callReceipts id use.call else []
  | .ensureRoom _ | .openLocalRoom _ _ | .forgetRoom _ | .insert _ _ _ | .deliver _ _
  | .fetchPage _ _ _ _ _ | .confirm _ _ _ _ | .forgetState _ _ | .subscribe _ | .room _ _ => []

/-- What the receiver of a subscription gets by several requests. -/
def received (client : Client) (id : FeedId) : List Request → List Notice
  | [] => []
  | request :: rest => client.receipts id request ++ (client.serve request).received id rest

/-- What was told of a room, from a view on, adds up to what the room is like. -/
structure Tallies (client : Client) (id : RoomId) (told : List Notice) : Prop where
  length : ((Notice.firstView? id told).elim 0 (·.length) : Int) + Notice.growthOf id told =
    (client.eventsIn id).length
  membership : (Notice.lastMembership? id told).getD none = client.membershipIn id

/-- A subscription is there, and as long as it is registered what its receiver got and what waits
adds up for every room that it follows. -/
structure Tracks
    (filter : FeedFilter)
    (feedId : FeedId)
    (got : List Notice)
    (client : Client) : Prop where
  known : feedId ≤ client.hub.made
  feed : ∃ feed, client.hub.feed? feedId = some feed ∧
    (feed.isRegistered = true → feed.isCaughtUp = true ∧ feed.settings.filter = filter ∧
      ∀ id, filter.follows id = true → client.Tallies id (got ++ feed.stream.waiting))

section

variable {client later : Client} {filter : FeedFilter} {feedId : FeedId} {got notices : List Notice}

/-- Notices that account for what became of a room keep the tally, whatever a filter leaves out. -/
theorem Tallies.append
    {id : RoomId}
    {told : List Notice}
    (tallies : client.Tallies id told)
    (accounts : Accounts client later notices)
    (timeline : filter.timeline = true)
    (membership : filter.membership = true)
    (follows : filter.follows id = true) :
    later.Tallies id (told ++ notices.filter filter.wants) := by
  obtain ⟨sameGrowth, sameMembership⟩ :=
    Notice.tells_same_filter timeline membership follows notices
  have changes : ∀ notice ∈ notices.filter filter.wants, notice.changed?.isSome = true :=
    fun notice present => accounts.changes notice (List.mem_filter.mp present).1
  constructor
  · rw [Notice.firstView?_append changes, Notice.growthOf_append, sameGrowth, accounts.length,
      ← tallies.length, Int.add_assoc]
  · rw [Notice.getD_lastMembership?_append, sameMembership, tallies.membership,
      accounts.membership]

/-- A subscription that is told of changes keeps track of them. -/
theorem Tracks.tell
    (tracks : Tracks filter feedId got client)
    (timeline : filter.timeline = true)
    (membership : filter.membership = true)
    (accounts : Accounts client later notices)
    (known : client.hub.made ≤ later.hub.made)
    (told : later.hub.feed? feedId = (client.hub.feed? feedId).map (·.tellEach notices)) :
    Tracks filter feedId got later := by
  obtain ⟨feed, present, tracked⟩ := tracks.feed
  refine ⟨Nat.le_trans tracks.known known, feed.tellEach notices, ?_, fun stays => ?_⟩
  · rw [told, present, Option.map_some]
  · cases registered : feed.isRegistered with
    | false =>
        rw [Feed.tellEach_of_removed registered] at stays
        exact absurd (stays.symm.trans registered) (by decide)
    | true =>
        obtain ⟨caughtUp, sameFilter, tallies⟩ := tracked registered
        obtain ⟨⟨sent, sends⟩, continues, stillCaughtUp⟩ :=
          Feed.tellEach_sends registered caughtUp notices
        refine ⟨stillCaughtUp, by rw [continues.settings, sameFilter], fun id follows => ?_⟩
        rw [sends.waiting, sends.whole stays, sameFilter, ← List.append_assoc]
        exact (tallies id follows).append accounts timeline membership follows

/-- Nothing is lost between a subscription and its receiver. -/
theorem Tracks.use
    (tracks : Tracks filter feedId got client)
    (use : FeedUse) :
    Tracks filter feedId (got ++ client.hub.callReceipts feedId use.call)
      (client.withHub (client.hub.call feedId use.call)) := by
  obtain ⟨feed, present, tracked⟩ := tracks.feed
  obtain ⟨became, receipts⟩ := FeedHub.call_own present use.call
  refine ⟨?_, feed.serve (.call use.call), became, fun stays => ?_⟩
  · exact Nat.le_trans tracks.known (Nat.le_of_eq (client.hub.made_call feedId use.call).symm)
  · cases registered : feed.isRegistered with
    | false =>
        have removed := (Feed.serve_of_removed registered (.call use.call)).2.1
        exact absurd (stays.symm.trans removed) (by decide)
    | true =>
        obtain ⟨caughtUp, sameFilter, tallies⟩ := tracked registered
        obtain ⟨delivers, continues, marked⟩ :=
          Feed.serve_delivers registered (.call use.call)
        have passed : feed.receipts (.call use.call) ++
            (feed.serve (.call use.call)).stream.waiting = feed.stream.waiting := by
          have whole := delivers.whole stays
          cases use with
          | unsubscribe =>
              rw [FeedUse.call, Feed.serve, if_pos registered] at stays
              exact absurd stays Bool.false_ne_true
          | receive => exact whole.trans (List.append_nil _)
          | drain => exact whole.trans (List.append_nil _)
          | abandon => exact whole.trans (List.append_nil _)
        refine ⟨?_, by rw [continues.settings, sameFilter], fun id follows => ?_⟩
        · rw [marked stays]
          cases use <;> exact caughtUp
        · rw [receipts, List.append_assoc, passed]
          exact ⟨(tallies id follows).length, (tallies id follows).membership⟩

/-- A subscription keeps track of every request that can be traced. -/
theorem Tracks.serve
    {request : Request}
    (tracks : Tracks filter feedId got client)
    (timeline : filter.timeline = true)
    (membership : filter.membership = true)
    (filed : client.Filed)
    (traceable : request.isTraceable = true) :
    Tracks filter feedId (got ++ client.receipts feedId request) (client.serve request) := by
  -- Where nothing is told, only what the receiver takes matters.
  have untold : ∀ {later : Client}, Accounts client later [] →
      client.hub.made ≤ later.hub.made →
      later.hub.feed? feedId = client.hub.feed? feedId →
        Tracks filter feedId (got ++ []) later := by
    intro later accounts known same
    rw [List.append_nil]
    refine tracks.tell timeline membership accounts known ?_
    rw [same]
    exact Option.map_id'.symm
  cases announced : request.isAnnounced with
  | true =>
      have told : ∃ notices, Announces (fun _ => True) client (client.serve request) notices :=
        serve_announces filed announced fun _ _ => trivial
      obtain ⟨notices, announces⟩ := told
      have receipts : client.receipts feedId request = [] := by
        cases request with
        | feed other use => cases announced
        | _ => rfl
      rw [receipts, List.append_nil]
      refine tracks.tell timeline membership announces.accounts ?_ ?_
      · rw [announces.hub_eq, FeedHub.made_tellEach]
      · rw [announces.hub_eq, FeedHub.feed?_tellEach]
  | false =>
      cases request with
      | openLocalRoom now id =>
          rw [Client.serve]
          cases opened : client.openLocalRoom now id with
          | error error => exact untold (accounts_of_rooms (Or.inl rfl)) (Nat.le_refl _) rfl
          | ok result =>
              obtain ⟨notices, hub, accounts⟩ := accounts_openLocalRoom opened
              rw [receipts, List.append_nil]
              show Tracks filter feedId got result.2
              refine tracks.tell timeline membership accounts ?_ ?_
              · rw [hub, FeedHub.made_tellEach]
              · rw [hub, FeedHub.feed?_tellEach]
      | subscribe settings =>
          obtain ⟨rooms, known, others⟩ := client.subscribe_leaves settings
          exact untold (accounts_of_rooms rooms) known (others feedId tracks.known)
      | feed other use =>
          rw [receipts]
          split
          · next same =>
              subst same
              exact tracks.use use
          · next differs =>
              have made := client.hub.made_call other use.call
              exact untold (accounts_of_rooms (Or.inl rfl)) (Nat.le_of_eq made.symm)
                (FeedHub.feed?_call_of_ne differs client.hub use.call)
      | room id own =>
          rw [Client.serve]
          cases present : client.room? id with
          | none => exact untold (accounts_of_rooms (Or.inl rfl)) (Nat.le_refl _) rfl
          | some room =>
              rw [← filed id room present] at present
              exact untold (accounts_of_quiet present traceable) (Nat.le_refl _) rfl
      | forgetRoom id => cases traceable
      | ensureRoom id => cases announced
      | insert now id events => cases announced
      | deliver now sync => cases announced
      | fetchPage now id server direction limit => cases announced
      | confirm now id transaction eventId => cases announced
      | forgetState id type => cases announced

theorem Tracks.serveAll
    {requests : List Request}
    (tracks : Tracks filter feedId got client)
    (timeline : filter.timeline = true)
    (membership : filter.membership = true)
    (filed : client.Filed)
    (traceable : ∀ request ∈ requests, request.isTraceable = true) :
    Tracks filter feedId (got ++ client.received feedId requests) (client.serveAll requests) := by
  induction requests generalizing client got with
  | nil =>
      rw [received, List.append_nil]
      exact tracks
  | cons request rest hypothesis =>
      obtain ⟨traceableFirst, traceableRest⟩ := List.forall_mem_cons.mp traceable
      rw [received, ← List.append_assoc]
      exact hypothesis (tracks.serve timeline membership filed traceableFirst)
        (filed_serve filed request) traceableRest

/-- The views of all rooms that are followed, and the mark that these were all. -/
def shownViews (client : Client) (filter : FeedFilter) : List Notice :=
  (client.views.map Notice.view).filter filter.wants ++ [.caughtUp]

/-- What a new subscriber that asks for views waits to receive. -/
theorem subscribe_shows
    {settings : FeedSettings}
    (viewsFirst : settings.viewsFirst = true)
    (subscribed : client.subscribe settings = (.ok feedId, later)) :
    feedId ≤ later.hub.made ∧ later.rooms = client.rememberHorizons.rooms ∧
    ∃ feed, later.hub.feed? feedId = some feed ∧ feed.isCaughtUp = true ∧
      feed.settings.filter = settings.filter ∧
      feed.stream.waiting = client.shownViews settings.filter := by
  let id := client.hub.made + 1
  let entered := client.withHub (client.hub.subscribe (client.settle settings)).2
  let fresh := Feed.ofSettings (client.settle settings)
  have isFresh : entered.hub.feed? id = some fresh := FeedHub.feed?_put_self client.hub id fresh
  have registered : fresh.isRegistered = true := rfl
  have asks : entered.hub.asksForViews id = true := by
    rw [FeedHub.asksForViews, FeedHub.registered?_of_feed? isFresh, if_pos registered]
    exact viewsFirst
  rcases client.subscribe_cases settings with
    ⟨error, refused⟩ | ⟨introduced, success, made⟩ | ⟨error, introduced, failure, refused⟩
  · cases refused.symm.trans subscribed
  · obtain ⟨rfl, rfl⟩ : id = feedId ∧ introduced = later := by
      simpa using made.symm.trans subscribed
    rw [introduce_of_asks asks] at success
    cases views : (entered.hub.sendViews id entered.views).1 with
    | error error =>
        rw [views] at success
        cases success
    | ok _ =>
        rw [views] at success
        obtain ⟨marked, rfl⟩ := Prod.mk.inj success
        have shownStays := FeedHub.sendViews_ok isFresh registered views
        have isShown := (FeedHub.call_own isFresh (.sendViews entered.views)).1
        rw [Feed.serve, if_pos registered] at isShown
        have markedStays := FeedHub.finishCatchUp_ok isShown shownStays marked
        have isMarked := (FeedHub.call_own isShown .finishCatchUp).1
        rw [Feed.serve, if_pos shownStays] at isMarked
        obtain ⟨⟨sent, sends⟩, continues, -⟩ := Feed.sendViews_sends registered entered.views
        obtain ⟨⟨mark, marks⟩, continuesThen, caughtUp⟩ := Feed.finishCatchUp_sends shownStays
        refine ⟨?_, rfl, _, isMarked, caughtUp markedStays, ?_, ?_⟩
        · show id ≤ ((entered.hub.call id (.sendViews entered.views)).call id .finishCatchUp).made
          rw [FeedHub.made_call, FeedHub.made_call]
          exact Nat.le_refl id
        · rw [continuesThen.settings, continues.settings]
          rfl
        · rw [marks.waiting, marks.whole markedStays, sends.waiting, sends.whole shownStays]
          rfl
  · cases refused.symm.trans subscribed

theorem mem_shownViews
    {notice : Notice}
    (filed : client.Filed)
    (present : notice ∈ client.shownViews filter) :
    notice = .caughtUp ∨ ∃ room, client.room? room.id = some room ∧ notice = .view room.view := by
  rcases List.mem_append.mp present with isView | isMark
  · obtain ⟨view, viewIn, rfl⟩ := List.mem_map.mp (List.mem_filter.mp isView).1
    obtain ⟨room, roomIn, rfl⟩ := List.mem_map.mp viewIn
    obtain ⟨key, found⟩ := mem_values_iff.mp roomIn
    have own := filed key room found
    exact Or.inr ⟨room, own ▸ found, rfl⟩
  · exact Or.inl (List.mem_singleton.mp isMark)

theorem view_mem_shownViews
    {room : Room}
    (present : client.room? room.id = some room)
    (follows : filter.follows room.id = true) :
    .view room.view ∈ client.shownViews filter := by
  have roomIn : room ∈ client.rooms.values := mem_values_iff.mpr ⟨room.id, present⟩
  have viewIn : Notice.view room.view ∈ client.views.map Notice.view :=
    List.mem_map_of_mem (List.mem_map_of_mem roomIn)
  exact List.mem_append_left _ (List.mem_filter.mpr ⟨viewIn, follows⟩)

/-- Whatever can be read off the view of a room is found among the views shown, first and last, if
the room is there, and else nothing is. -/
theorem find_shownViews
    {β : Type}
    {find : Notice → Option β}
    {id : RoomId}
    (read : RoomView → β)
    (filed : client.Filed)
    (follows : filter.follows id = true)
    (ofView : ∀ view, find (.view view) = if view.room = id then some (read view) else none)
    (ofMark : find .caughtUp = none) :
    (client.shownViews filter).findSome? find = (client.room? id).map (read ·.view) ∧
      ((client.shownViews filter).filterMap find).getLast? =
        (client.room? id).map (read ·.view) := by
  cases present : client.room? id with
  | none =>
      have unseen : ∀ notice ∈ client.shownViews filter, find notice = none := by
        intro notice noticeIn
        rcases mem_shownViews filed noticeIn with rfl | ⟨room, found, rfl⟩
        · exact ofMark
        · rw [ofView]
          apply if_neg
          rintro rfl
          cases found.symm.trans present
      rw [List.findSome?_eq_none_iff.mpr unseen, List.filterMap_eq_nil_iff.mpr unseen]
      exact ⟨rfl, rfl⟩
  | some room =>
      obtain rfl := filed id room present
      apply findSome?_of_unique
      · intro notice noticeIn other finds
        rcases mem_shownViews filed noticeIn with rfl | ⟨another, found, rfl⟩
        · cases ofMark.symm.trans finds
        · rw [ofView] at finds
          split at finds
          · next same =>
              have sameRoom : another = room := by
                rw [show another.id = room.id from same, present] at found
                exact (Option.some.inj found).symm
              rw [← Option.some.inj finds, sameRoom]
          · cases finds
      · exact ⟨_, view_mem_shownViews present follows, by rw [ofView]; exact if_pos rfl⟩

/-- The views of all rooms add up, as nothing has changed since. -/
theorem tallies_shownViews
    {id : RoomId}
    (filed : client.Filed)
    (follows : filter.follows id = true) :
    client.Tallies id (client.shownViews filter) := by
  have growth : Notice.growthOf id (client.shownViews filter) = 0 := by
    apply Notice.growthOf_eq_zero
    intro notice noticeIn
    rcases mem_shownViews filed noticeIn with rfl | ⟨room, -, rfl⟩ <;> rfl
  have view : Notice.firstView? id (client.shownViews filter) =
      (client.room? id).map (·.view) :=
    (find_shownViews (fun view => view) filed follows (fun _ => rfl) rfl).1
  have membership : Notice.lastMembership? id (client.shownViews filter) =
      (client.room? id).map (·.membership) :=
    (find_shownViews (·.membership) filed follows (fun _ => rfl) rfl).2
  constructor
  · rw [view, growth, Int.add_zero, eventsIn]
    cases client.room? id <;> rfl
  · rw [membership, membershipIn]
    cases client.room? id <;> rfl

/-- A new subscription that asks for views keeps track. -/
theorem tracks_subscribe
    {settings : FeedSettings}
    (filed : client.Filed)
    (viewsFirst : settings.viewsFirst = true)
    (subscribed : client.subscribe settings = (.ok feedId, later)) :
    Tracks settings.filter feedId [] later := by
  obtain ⟨known, rooms, feed, present, caughtUp, sameFilter, waiting⟩ :=
    subscribe_shows viewsFirst subscribed
  refine ⟨known, feed, present, fun _ => ⟨caughtUp, sameFilter, fun id follows => ?_⟩⟩
  have same : Accounts client later [] := accounts_of_rooms (Or.inr rooms)
  have tallies := tallies_shownViews filed follows
  rw [waiting, List.nil_append]
  constructor
  · rw [tallies.length, same.length, Notice.growthOf_nil, Int.add_zero]
  · rw [tallies.membership, same.membership, Notice.lastMembership?_nil, Option.getD_none]

/-- Whoever subscribes to a client and is shown views first can follow its rooms: after any requests
by which no room is forgotten and no room changed without a notice, and while the subscription is
registered, what was received and what waits add up, for every room that is followed, to the length
of the room and to the membership in it.  A run ends where an insertion stops, and where contents
are told by their texts none does. -/
theorem received_follows
    {settings : ClientSettings}
    {before after : List Request}
    {feedSettings : FeedSettings}
    {feedId : FeedId}
    {start subscribed : Client}
    (ran : (ofSettings settings).serveAll? before = some start)
    (subscribes : start.subscribe feedSettings = (.ok feedId, subscribed))
    (viewsFirst : feedSettings.viewsFirst = true)
    (timeline : feedSettings.filter.timeline = true)
    (membership : feedSettings.filter.membership = true)
    (traceable : ∀ request ∈ after, request.isTraceable = true) :
    (∀ last, subscribed.serveAll? after = some last →
      ∀ feed, last.hub.registered? feedId = some feed →
        ∀ id room, feedSettings.filter.follows id = true → last.room? id = some room →
          let told := subscribed.received feedId after ++ feed.stream.waiting
          ((Notice.firstView? id told).elim 0 (·.length) : Int) + Notice.growthOf id told =
              room.timeline.length ∧
            (Notice.lastMembership? id told).getD none = room.membership) ∧
    ∀ given, Json.ToldByTexts given →
      (∀ event ∈ (ofSettings settings).offered before ++ subscribed.offered after,
        given event.content) →
      ∃ last, subscribed.serveAll? after = some last := by
  have started := serveAll_of_serveAll? ran
  constructor
  · intro last reached feed registered id room follows present
    have filed : start.Filed :=
      started ▸ filed_serveAll (houses_ofSettings (fun _ => True) settings).filed before
    have subscribedFiled := filed_serve filed (.subscribe feedSettings)
    rw [serve, subscribes] at subscribedFiled
    have tracks := (tracks_subscribe filed viewsFirst subscribes).serveAll timeline membership
      subscribedFiled traceable
    rw [List.nil_append, serveAll_of_serveAll? reached] at tracks
    obtain ⟨found, isRegistered⟩ := Option.filter_eq_some_iff.mp registered
    obtain ⟨tracked, isThere, adds⟩ := tracks.feed
    obtain rfl := Option.some.inj (found.symm.trans isThere)
    obtain ⟨length, toldMembership⟩ := (adds isRegistered).2.2 id follows
    rw [eventsIn_of_some present] at length
    rw [membershipIn, present] at toldMembership
    exact ⟨length, toldMembership⟩
  · intro given told gives
    obtain ⟨givesBefore, givesAfter⟩ := List.forall_mem_append.mp gives
    have houses := (houses_ofSettings (Room.Keeps given) settings).serveAll
      (Room.keeps_invariant told) givesBefore
    rw [started] at houses
    have housesThen : (start.serve (.subscribe feedSettings)).Houses (Room.Keeps given) :=
      houses.serve (Room.keeps_invariant told) (List.forall_mem_nil _)
    rw [serve, subscribes] at housesThen
    exact ⟨_, housesThen.serveAll?_eq told givesAfter⟩

end

/-- What is asked of a client before somebody subscribes. -/
def earlierRequests : List Request := [
  .ensureRoom "!r:x",
  .insert ⟨5, 5⟩ "!r:x" [message "$a" 30]]

/-- Everything, with views first. -/
def follower : FeedSettings := ⟨none, true, .all⟩

/-- The client before somebody subscribes. -/
def unfollowed : Client := (ofSettings .standard).serveAll earlierRequests

/-- The client with that subscriber. -/
def followed : Client := (unfollowed.subscribe follower).2

/-- A notice that is received, a sync that brings a message to the room, and a local room. -/
def laterRequests : List Request := [
  .feed 1 .receive,
  .deliver (fun _ _ => ⟨7, 7⟩) ⟨none, { SyncLists.empty with
    join := (∅ : RoomBatches).insert "!r:x" ⟨[(message "$b" 40).encode], [], [], [], none⟩ }⟩,
  .openLocalRoom ⟨8, 8⟩ "!l:x"]

/-- The subscription after these, with all but the view still waiting. -/
def followerFeed : Feed where
  settings := ⟨some 1000, true, .all⟩
  stream := {
    capacity := 1000
    waiting := [
      .caughtUp,
      .membership "!r:x" .join,
      .inserted ⟨"!r:x", 1, 0, .forward, 2⟩,
      .membership "!l:x" .join,
      .inserted ⟨"!l:x", 1, 0, .forward, 1⟩]
    hasReceiver := true }
  isRegistered := true
  isCaughtUp := true

theorem received_follows_joinedRoom :
    (ofSettings .standard).serveAll? earlierRequests = some unfollowed ∧
    unfollowed.subscribe follower = (.ok 1, followed) ∧
    (∀ request ∈ laterRequests, request.isTraceable = true) ∧
    ∃ last, followed.serveAll? laterRequests = some last ∧
      last.hub.registered? 1 = some followerFeed ∧
      ∃ room, last.room? "!r:x" = some room ∧
        let told := followed.received 1 laterRequests ++ followerFeed.stream.waiting
        ((Notice.firstView? "!r:x" told).elim 0 (·.length) : Int) +
            Notice.growthOf "!r:x" told = room.timeline.length ∧
          (Notice.lastMembership? "!r:x" told).getD none = room.membership := by
  have texts : Event.TextsTellContents
      ((ofSettings .standard).offered earlierRequests ++ followed.offered laterRequests) := by
    decide +kernel
  have ran : (ofSettings .standard).serveAll? earlierRequests = some unfollowed :=
    (houses_ofSettings _ .standard).serveAll?_eq texts.toldByTexts fun event present =>
      Event.givenBy_of_mem (List.mem_append_left _ present)
  have subscribes : unfollowed.subscribe follower = (.ok 1, followed) := by
    have success : (unfollowed.subscribe follower).1.toOption = some 1 := by decide +kernel
    apply Prod.ext
    · cases result : (unfollowed.subscribe follower).1 with
      | error error =>
          rw [result] at success
          cases success
      | ok id =>
          rw [result] at success
          rw [Option.some.inj success]
    · rfl
  have traceable : ∀ request ∈ laterRequests, request.isTraceable = true := by decide
  obtain ⟨follows, ends⟩ := received_follows ran subscribes rfl rfl rfl traceable
  obtain ⟨last, reached⟩ := ends _ texts.toldByTexts fun event present =>
    Event.givenBy_of_mem present
  have isLast := serveAll_of_serveAll? reached
  have registered : (followed.serveAll laterRequests).hub.registered? 1 = some followerFeed := by
    decide +kernel
  have there : ((followed.serveAll laterRequests).room? "!r:x").isSome = true := by
    decide +kernel
  rw [isLast] at registered there
  obtain ⟨room, present⟩ := Option.isSome_iff_exists.mp there
  exact ⟨ran, subscribes, traceable, last, reached, registered, room, present,
    follows last reached followerFeed registered "!r:x" room rfl present⟩

end Client

end RoomHistory
