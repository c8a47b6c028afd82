import RoomHistory.Proofs.Client.Rooms

/-!
# Changes that are announced

Whoever follows a room is told when an announced request inserts into it, or is removed because no
more notices fit.  What goes unannounced is only that events were replaced by copies of them, which
neither adds nor gives up an event.
-/

namespace RoomHistory

namespace Notice

theorem tellsInsertion_iff (room : RoomId) (notice : Notice) :
    notice.tellsInsertion room = true ↔
      ∃ change, notice = .inserted change ∧ change.room = room := by
  cases notice <;> simp [tellsInsertion]

end Notice

namespace Client

/-- The events of a room; none if the room is not there. -/
def eventsIn (client : Client) (id : RoomId) : List Event :=
  ((client.room? id).map (·.timeline.events)).getD []

section

variable {given : Json → Prop} {client later : Client} {notices : List Notice} {id : RoomId}

theorem eventsIn_of_some {room : Room} (present : client.room? id = some room) :
    client.eventsIn id = room.timeline.events := by
  rw [eventsIn, present]
  rfl

theorem eventsIn_of_none (absent : client.room? id = none) : client.eventsIn id = [] := by
  rw [eventsIn, absent]
  rfl

/-- A client with a new room has no new events. -/
theorem eventsIn_make
    {made : RoomId}
    (absent : client.room? made = none)
    (id : RoomId) :
    (client.make made).eventsIn id = client.eventsIn id := by
  rw [eventsIn, room?_make]
  split
  · next same =>
      rw [← same, eventsIn_of_none absent]
      rfl
  · rfl

theorem eventsIn_answer
    (client : Client)
    (room : Room)
    (own : Room.Request)
    (id : RoomId) :
    (client.answer room own).eventsIn id =
      if room.id = id then (room.serve own).timeline.events else client.eventsIn id := by
  rw [eventsIn, room?_answer]
  split <;> rfl

/-- Where rooms keep what they hold, all their events are granted and settled. -/
theorem Houses.eventsIn
    (houses : client.Houses (Room.Keeps given))
    (id : RoomId) :
    Event.Granted given (client.eventsIn id) ∧ Settled (client.eventsIn id) := by
  cases present : client.room? id with
  | none =>
      rw [eventsIn_of_none present]
      exact ⟨(Timeline.keeps_empty 0 .standard none).granted, .nil⟩
  | some room =>
      have keeps := houses.holds id room present
      rw [eventsIn_of_some present]
      exact ⟨keeps.timeline.granted, keeps.timeline.kept.settles⟩

/-- Subscribers are told of what is announced, one notice after another. -/
theorem Announces.hub_eq (announces : Announces given client later notices) :
    later.hub = client.hub.tellEach notices := by
  induction announces with
  | nothing client => rfl
  | make absent => rfl
  | answer present gives => rfl
  | append first next hypothesis hypothesisThen =>
      rw [hypothesisThen, hypothesis, FeedHub.tellEach_append]

/-- A room whose events became others than copies of those before is told of. -/
theorem Announces.told_or_replaced
    (announces : Announces given client later notices)
    (told : Json.ToldByTexts given)
    (houses : client.Houses (Room.Keeps given))
    (id : RoomId) :
    (∃ notice ∈ notices, notice.tellsInsertion id = true) ∨
      Replaced (client.eventsIn id) (later.eventsIn id) := by
  have invariant := Room.keeps_invariant told
  induction announces with
  | nothing client => exact Or.inr (.refl (houses.eventsIn id).2)
  | make absent =>
      rw [eventsIn_make absent]
      exact Or.inr (.refl (houses.eventsIn id).2)
  | @answer client room own present gives =>
      rw [eventsIn_answer]
      split
      · next same =>
          have keeps := houses.holds room.id room present
          subst same
          rw [Room.serve_eq, eventsIn_of_some present]
          exact keeps.allNotices_tell told (keeps.changesBy gives)
      · exact Or.inr (.refl (houses.eventsIn id).2)
  | @append client later last notices noticesThen first next hypothesis hypothesisThen =>
      have housesThen := first.houses invariant houses
      have housesLast := next.houses invariant housesThen
      rcases hypothesis houses with ⟨notice, toldOf, tells⟩ | replaced
      · exact Or.inl ⟨notice, List.mem_append_left _ toldOf, tells⟩
      · rcases hypothesisThen housesThen with ⟨notice, toldOf, tells⟩ | replacedThen
        · exact Or.inl ⟨notice, List.mem_append_right _ toldOf, tells⟩
        · have granted := ((houses.eventsIn id).1.append (housesThen.eventsIn id).1).append
            (housesLast.eventsIn id).1
          exact Or.inr (replaced.trans replacedThen (granted.orderly told))

theorem offered_append (client : Client) (requests requestsThen : List Request) :
    client.offered (requests ++ requestsThen) =
      client.offered requests ++ (client.serveAll requests).offered requestsThen := by
  induction requests generalizing client with
  | nil => rfl
  | cons request rest hypothesis =>
      show client.offers request ++ (client.serve request).offered (rest ++ requestsThen) = _
      rw [hypothesis, ← List.append_assoc]
      rfl

/-- After any requests to a client: by an announced request, everyone who follows a room and is
caught up is told of an insertion into it, or is removed as no more notices fit or nobody receives
them, or else the events of the room were at most replaced by copies of them. -/
theorem serve_tells_or_replaces
    {settings : ClientSettings}
    {requests : List Request}
    {request : Request}
    {feedId : FeedId}
    {feed : Feed}
    {id : RoomId}
    (texts : Event.TextsTellContents ((ofSettings settings).offered (requests ++ [request])))
    (reached : (ofSettings settings).serveAll requests = client)
    (announced : request.isAnnounced = true)
    (registered : client.hub.registered? feedId = some feed)
    (caughtUp : feed.isCaughtUp = true)
    (timeline : feed.settings.filter.timeline = true)
    (follows : feed.settings.filter.follows id = true) :
    ∃ laterFeed sent, (client.serve request).hub.feed? feedId = some laterFeed ∧
      laterFeed.stream.waiting = feed.stream.waiting ++ sent ∧
      ((∃ change, .inserted change ∈ sent ∧ change.room = id) ∨
        (laterFeed.isRegistered = false ∧
          (laterFeed.stream.hasReceiver = false ∨
            laterFeed.stream.capacity ≤ laterFeed.stream.waiting.length)) ∨
        Replaced (client.eventsIn id) ((client.serve request).eventsIn id)) := by
  have told := texts.toldByTexts
  rw [offered_append, reached] at told
  have gives : ∀ event ∈ (ofSettings settings).offered requests ++ client.offered [request],
      Event.GivenBy ((ofSettings settings).offered requests ++ client.offered [request])
        event.content := fun event present => Event.givenBy_of_mem present
  rw [List.forall_mem_append] at gives
  have houses := (houses_ofSettings _ settings).serveAll (Room.keeps_invariant told) gives.1
  rw [reached] at houses
  have givesLast := (List.forall_mem_append.mp gives.2).1
  obtain ⟨notices, announces⟩ := serve_announces houses.filed announced givesLast
  obtain ⟨present, isRegistered⟩ := Option.filter_eq_some_iff.mp registered
  obtain ⟨⟨sent, sends⟩, -, -⟩ := Feed.tellEach_sends isRegistered caughtUp notices
  refine ⟨feed.tellEach notices, sent, ?_, sends.waiting, ?_⟩
  · rw [announces.hub_eq, FeedHub.feed?_tellEach, present, Option.map_some]
  · rcases announces.told_or_replaced told houses id with ⟨notice, toldOf, tells⟩ | replaced
    · obtain ⟨change, rfl, sameRoom⟩ := (Notice.tellsInsertion_iff id notice).mp tells
      cases stays : (feed.tellEach notices).isRegistered with
      | true =>
          have wanted : feed.settings.filter.wants (.inserted change) = true := by
            rw [FeedFilter.wants, timeline, sameRoom, follows]
            rfl
          rw [sends.whole stays]
          exact Or.inl ⟨change, List.mem_filter.mpr ⟨toldOf, wanted⟩, sameRoom⟩
      | false =>
          have full := (NoticeStream.accepts_eq_false_iff _).mp (sends.full stays)
          exact Or.inr (Or.inl ⟨rfl, full⟩)
    · exact Or.inr (Or.inr replaced)

end

/-- A message that was sent at a time. -/
def message (id : EventId) (time : Timestamp) : Event :=
  { Event.bare id "m.room.message" with sentAt := some time }

/-- A room with a message, and then a subscriber. -/
def listening : List Request := [
  .ensureRoom "!r:x",
  .insert ⟨5, 5⟩ "!r:x" [message "$a" 30],
  .subscribe ⟨none, false, .all⟩]

/-- The client with that room and that subscriber. -/
def listened : Client := (ofSettings .standard).serveAll listening

/-- The subscriber of that client, which has been told that it is caught up and nothing else. -/
def listener : Feed := ⟨⟨some 1000, false, .all⟩, ⟨1000, [.caughtUp], true⟩, true, true⟩

theorem serve_tells_or_replaces_newMessage :
    Event.TextsTellContents
      ((ofSettings .standard).offered (listening ++ [.insert ⟨6, 6⟩ "!r:x" [message "$b" 40]])) ∧
    (ofSettings .standard).serveAll listening = listened ∧
    listened.hub.registered? 1 = some listener ∧
    listener.isCaughtUp = true ∧
    listener.settings.filter.timeline = true ∧
    listener.settings.filter.follows "!r:x" = true ∧
    ∃ laterFeed sent, (listened.serve (.insert ⟨6, 6⟩ "!r:x" [message "$b" 40])).hub.feed? 1 =
        some laterFeed ∧
      laterFeed.stream.waiting = listener.stream.waiting ++ sent ∧
      ((∃ change, .inserted change ∈ sent ∧ change.room = "!r:x") ∨
        (laterFeed.isRegistered = false ∧
          (laterFeed.stream.hasReceiver = false ∨
            laterFeed.stream.capacity ≤ laterFeed.stream.waiting.length)) ∨
        Replaced (listened.eventsIn "!r:x")
          ((listened.serve (.insert ⟨6, 6⟩ "!r:x" [message "$b" 40])).eventsIn "!r:x")) := by
  have texts : Event.TextsTellContents
      ((ofSettings .standard).offered (listening ++ [.insert ⟨6, 6⟩ "!r:x" [message "$b" 40]])) := by
    decide +kernel
  have registered : listened.hub.registered? 1 = some listener := by decide +kernel
  exact ⟨texts, rfl, registered, rfl, rfl, rfl,
    serve_tells_or_replaces texts rfl rfl registered rfl rfl rfl⟩

/-- A message that comes again with an earlier time changes the events of its room, and whoever
follows the room is neither told nor removed. -/
theorem serve_replaces_untold :
    listened.hub.registered? 1 = some listener ∧
    listener.isCaughtUp = true ∧
    listener.settings.filter.timeline = true ∧
    listener.settings.filter.follows "!r:x" = true ∧
    (listened.serve (.insert ⟨6, 6⟩ "!r:x" [message "$a" 20])).hub.registered? 1 = some listener ∧
    (listened.serve (.insert ⟨6, 6⟩ "!r:x" [message "$a" 20])).eventsIn "!r:x" ≠
      listened.eventsIn "!r:x" :=
  ⟨by decide +kernel, rfl, rfl, rfl, by decide +kernel, by decide +kernel⟩

end Client

end RoomHistory
