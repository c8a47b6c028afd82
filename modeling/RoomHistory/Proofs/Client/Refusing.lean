import RoomHistory.Proofs.Client.Accounting
import RoomHistory.Proofs.Feed.Opening
import RoomHistory.Proofs.Room.Refusing

/-!
# Requests that a client refuses

A request fails if its room is not there or refuses it, if a local room would take the place of
another, or if a subscription has no place for what it is to be told first.  By then a ticket may be
spent, a subscription made and partly told, and every horizon asked for.  None of that shows: all
rooms look as they did, and all subscriptions are as they were.
-/

namespace RoomHistory

namespace Client

/-- A client looks like another to everyone who asks, and has the same subscriptions. -/
structure LooksLike (later client : Client) : Prop where
  settings : later.settings = client.settings
  timelinesMade : later.timelinesMade = client.timelinesMade
  /-- The rooms are the same, and each looks the same. -/
  rooms : ∀ id, Option.Rel Room.LooksLike (later.room? id) (client.room? id)
  /-- Every subscription is there or not, as it was, with the notices that wait in its stream. -/
  feeds : later.hub.feeds = client.hub.feeds
  count : later.hub.count = client.hub.count

/-- Why a client refuses a request, if it does. -/
def refusal? (client : Client) : Request → Option Error
  | .openLocalRoom now id => refusalOf (client.openLocalRoom now id)
  | .insert now id events => refusalOf (client.insert now id events)
  | .fetchPage now id server direction limit =>
      refusalOf (client.fetchPage now id server direction limit).1
  | .confirm now id transaction eventId =>
      refusalOf (client.confirm now id transaction eventId)
  | .forgetState id type => refusalOf (client.forgetState id type)
  | .subscribe settings => refusalOf (client.subscribe settings).1
  | .room id own => (client.room? id).bind (·.refusal? own)
  | .ensureRoom _ | .forgetRoom _ | .deliver _ _ | .feed _ _ => none

/-- The room that has to be there for a request, and what it is asked. -/
def Request.addressed? : Request → Option (RoomId × Room.Request)
  | .insert now id events => some (id, .insert now events)
  | .fetchPage now id server direction limit => some (id, .fetchPage now server direction limit)
  | .confirm now id transaction eventId => some (id, .confirm now transaction eventId)
  | .forgetState id type => some (id, .forgetState type)
  | .ensureRoom _ | .openLocalRoom _ _ | .forgetRoom _ | .deliver _ _ | .subscribe _ | .feed _ _
  | .room _ _ => none

/-- How many notices may wait for a subscription with some settings. -/
def placesFor (client : Client) (settings : FeedSettings) : Nat :=
  settings.buffer.getD client.settings.feedBuffer

/-- How many views a subscription with some settings is to be shown. -/
def viewsFor (client : Client) (settings : FeedSettings) : Nat :=
  if settings.viewsFirst then
    ((client.views.map Notice.view).filter settings.filter.wants).length
  else 0

/-- The client with a new subscription that was told nothing yet. -/
def enter (client : Client) (settings : FeedSettings) : Client :=
  client.withHub (client.hub.subscribe (client.settle settings)).2

/-- The causes for which a client refuses requests. -/
inductive Refuses (client : Client) : Request → Error → Prop where
  | unknownRoom {request : Request} {id : RoomId} {own : Room.Request}
      (addressed : request.addressed? = some (id, own))
      (absent : client.room? id = none) :
      Refuses client request (.unknownRoom id)
  /-- The room is there and refuses. -/
  | addressed {request : Request} {id : RoomId} {own : Room.Request} {room : Room} {error : Error}
      (addressed : request.addressed? = some (id, own))
      (present : client.room? id = some room)
      (refuses : room.Refuses own error) :
      Refuses client request error
  | room {id : RoomId} {own : Room.Request} {room : Room} {error : Error}
      (present : client.room? id = some room)
      (refuses : room.Refuses own error) :
      Refuses client (.room id own) error
  | roomExists {now : Moment} {id : RoomId} {room : Room}
      (present : client.room? id = some room) :
      Refuses client (.openLocalRoom now id) (.misuse (.roomExists id))
  | emptyBuffer {settings : FeedSettings}
      (noPlaces : client.placesFor settings = 0) :
      Refuses client (.subscribe settings) (.misuse .emptyBuffer)
  /-- There are places, but not one for each view and another for the mark. -/
  | fewPlaces {settings : FeedSettings}
      (places : 0 < client.placesFor settings)
      (tooFew : client.placesFor settings ≤ client.viewsFor settings) :
      Refuses client (.subscribe settings) .subscriptionEnded

section

variable {client later : Client} {room : Room} {id : RoomId} {settings : FeedSettings}
  {error : Error}

theorem LooksLike.refl (client : Client) : client.LooksLike client where
  settings := rfl
  timelinesMade := rfl
  rooms id := by
    cases client.room? id with
    | none => exact .none
    | some room => exact .some (.refl room)
  feeds := rfl
  count := rfl

/-- Where a room is filed that looks like the one before, nothing shows. -/
theorem putRoom_looksLike
    {changed : Room}
    (present : client.room? id = some room)
    (filed : room.id = id)
    (looksLike : changed.LooksLike room) :
    (client.putRoom changed).LooksLike client where
  settings := rfl
  timelinesMade := rfl
  rooms other := by
    rw [room?_putRoom]
    split
    · next same =>
        rw [← same, looksLike.id, filed, present]
        exact .some looksLike
    · exact (LooksLike.refl client).rooms other
  feeds := rfl
  count := rfl

/-- That all horizons were asked for does not show. -/
theorem looksLike_of_rooms
    (settings : later.settings = client.settings)
    (timelinesMade : later.timelinesMade = client.timelinesMade)
    (rooms : later.rooms = client.rooms ∨ later.rooms = client.rememberHorizons.rooms)
    (feeds : later.hub.feeds = client.hub.feeds) :
    later.LooksLike client where
  settings := settings
  timelinesMade := timelinesMade
  rooms id := by
    rcases rooms with same | remembered
    · have found : later.room? id = client.room? id := by rw [room?, same, room?]
      rw [found]
      exact (LooksLike.refl client).rooms id
    · have found : later.room? id = (client.room? id).map (·.rememberHorizon) := by
        rw [← room?_rememberHorizons, room?, remembered, room?]
      rw [found]
      cases client.room? id with
      | none => exact .none
      | some room => exact .some room.rememberHorizon_looksLike
  feeds := feeds
  count := by rw [FeedHub.count, feeds, FeedHub.count]

/-- A new subscription is told what it is to be told first exactly if there is a place for each view
and one for the mark. -/
theorem introduce_result (client : Client) (settings : FeedSettings) :
    ((client.enter settings).introduce (client.hub.made + 1)).1 =
      if client.viewsFor settings < client.placesFor settings then .ok ()
      else .error .subscriptionEnded := by
  let id := client.hub.made + 1
  let entered := client.enter settings
  let fresh := Feed.ofSettings (client.settle settings)
  have isFresh : entered.hub.feed? id = some fresh := FeedHub.feed?_put_self client.hub id fresh
  have registered : fresh.isRegistered = true := rfl
  have receiving : fresh.stream.hasReceiver = true := rfl
  have asks : entered.hub.asksForViews id = settings.viewsFirst := by
    rw [FeedHub.asksForViews, FeedHub.registered?_of_feed? isFresh, if_pos registered]
    rfl
  show (entered.introduce id).1 = _
  cases first : settings.viewsFirst with
  | false =>
      have accepts : fresh.stream.accepts = true ↔ 0 < client.placesFor settings :=
        decide_eq_true_iff
      rw [introduce_of_silent (asks.trans first), viewsFor, first]
      show (entered.hub.finishCatchUp id).1 = _
      rw [FeedHub.finishCatchUp_result isFresh registered]
      exact if_congr accepts rfl rfl
  | true =>
      have wanted : fresh.stream.waiting.length + (fresh.viewsWanted entered.views).length =
          client.viewsFor settings := by
        rw [viewsFor, first]
        exact Nat.zero_add _
      have places : fresh.stream.capacity = client.placesFor settings := rfl
      have staysIff := Feed.isRegistered_sendViews_iff registered receiving (Nat.zero_le _)
        entered.views
      rw [wanted, places] at staysIff
      rw [introduce_of_asks (asks.trans first), FeedHub.sendViews_result isFresh registered]
      by_cases stays : (fresh.sendViews entered.views).isRegistered = true
      · have accepts := Feed.accepts_sendViews_iff registered receiving stays
        rw [wanted, places] at accepts
        have isShown := (FeedHub.call_own isFresh (.sendViews entered.views)).1
        rw [Feed.serve, if_pos registered] at isShown
        rw [if_pos stays]
        show ((entered.hub.call id (.sendViews entered.views)).finishCatchUp id).1 = _
        rw [FeedHub.finishCatchUp_result isShown stays]
        exact if_congr accepts rfl rfl
      · have tooMany : ¬client.viewsFor settings < client.placesFor settings :=
          fun fewer => stays (staysIff.mpr (Nat.le_of_lt fewer))
        rw [if_neg stays, if_neg tooMany]

theorem subscribe_of_noPlaces (noPlaces : client.placesFor settings = 0) :
    client.subscribe settings = (.error (.misuse .emptyBuffer), client) := by
  have empty : (client.settle settings).buffer = some 0 := congrArg some noPlaces
  simp only [subscribe, if_pos empty]

/-- Where there are places, a subscription is refused if they are too few for what it is to be told
first. -/
theorem refusalOf_subscribe (places : 0 < client.placesFor settings) :
    refusalOf (client.subscribe settings).1 =
      if client.viewsFor settings < client.placesFor settings then none
      else some .subscriptionEnded := by
  have notEmpty : (client.settle settings).buffer ≠ some 0 :=
    fun empty => Nat.ne_of_gt places (Option.some.inj empty)
  cases introduces : (client.enter settings).introduce (client.hub.made + 1) with
  | mk told introduced =>
      have asked : (client.withHub (client.hub.subscribe (client.settle settings)).2).introduce
          (client.hub.subscribe (client.settle settings)).1 = (told, introduced) := introduces
      have refused : refusalOf (client.subscribe settings).1 = refusalOf told := by
        simp only [subscribe, if_neg notEmpty, asked]
        cases told <;> rfl
      have result := client.introduce_result settings
      rw [introduces] at result
      rw [refused]
      subst result
      split <;> rfl

/-- What is asked of a room of the client is refused if the room is not there, or by the room. -/
theorem refusal?_addressed
    {request : Request}
    {own : Room.Request}
    (addressed : request.addressed? = some (id, own)) :
    client.refusal? request =
      match client.room? id with
      | none => some (.unknownRoom id)
      | some room => room.refusal? own := by
  cases request with
  | insert now id events =>
      cases addressed
      rw [refusal?, insert, requireRoom]
      cases client.room? id <;> rfl
  | fetchPage now id server direction limit =>
      cases addressed
      rw [refusal?, fetchPage, requireRoom]
      cases client.room? id with
      | none => rfl
      | some room =>
          simp only [Room.refusal?]
          rcases room.fetchPage now server direction limit with ⟨result, changed⟩
          cases result <;> rfl
  | confirm now id transaction eventId =>
      cases addressed
      rw [refusal?, confirm, requireRoom]
      cases client.room? id with
      | none => rfl
      | some room =>
          simp only [Room.refusal?]
          show refusalOf (room.confirm now transaction eventId >>= _) = _
          cases room.confirm now transaction eventId <;> rfl
  | forgetState id type =>
      cases addressed
      rw [refusal?, forgetState, requireRoom]
      cases client.room? id <;> rfl
  | _ => cases addressed

theorem refusal?_openLocalRoom (client : Client) (now : Moment) (id : RoomId) :
    client.refusal? (.openLocalRoom now id) =
      (client.room? id).map fun _ => .misuse (.roomExists id) := by
  rw [refusal?, openLocalRoom]
  cases client.room? id <;> rfl

/-- For each of the causes a client refuses. -/
theorem refusal?_eq_of_refuses
    {request : Request}
    (refuses : client.Refuses request error) :
    client.refusal? request = some error := by
  cases refuses with
  | unknownRoom addressed absent => rw [refusal?_addressed addressed, absent]
  | addressed addressed present refuses =>
      rw [refusal?_addressed addressed, present]
      exact Room.refusal?_eq_of_refuses refuses
  | room present refuses =>
      rw [refusal?, present]
      exact Room.refusal?_eq_of_refuses refuses
  | roomExists present =>
      rw [refusal?_openLocalRoom, present]
      rfl
  | emptyBuffer noPlaces =>
      rw [refusal?, subscribe_of_noPlaces noPlaces]
      rfl
  | fewPlaces places tooFew =>
      rw [refusal?, refusalOf_subscribe places, if_neg (Nat.not_lt_of_le tooFew)]

/-- A client refuses for no other cause. -/
theorem refuses_of_refusal?_eq
    {request : Request}
    (refused : client.refusal? request = some error) :
    client.Refuses request error := by
  -- What is addressed to a room is all alike, and the rest is taken one by one.
  cases addressed : request.addressed? with
  | some target =>
      obtain ⟨id, own⟩ := target
      rw [refusal?_addressed addressed] at refused
      cases present : client.room? id with
      | none =>
          rw [present] at refused
          rw [← Option.some.inj refused]
          exact .unknownRoom addressed present
      | some room =>
          rw [present] at refused
          exact .addressed addressed present (Room.refuses_of_refusal?_eq refused)
  | none =>
      cases request with
      | openLocalRoom now id =>
          rw [refusal?_openLocalRoom] at refused
          obtain ⟨room, present, rfl⟩ := Option.map_eq_some_iff.mp refused
          exact .roomExists present
      | subscribe settings =>
          rw [refusal?] at refused
          rcases Nat.eq_zero_or_pos (client.placesFor settings) with noPlaces | places
          · rw [subscribe_of_noPlaces noPlaces] at refused
            rw [← Option.some.inj refused]
            exact .emptyBuffer noPlaces
          · rw [refusalOf_subscribe places] at refused
            split at refused
            · cases refused
            · next tooMany =>
                rw [← Option.some.inj refused]
                exact .fewPlaces places (Nat.le_of_not_lt tooMany)
      | room id own =>
          obtain ⟨room, present, refuses⟩ := Option.bind_eq_some_iff.mp refused
          exact .room present (Room.refuses_of_refusal?_eq refuses)
      | ensureRoom id => cases refused
      | forgetRoom id => cases refused
      | deliver now sync => cases refused
      | feed id use => cases refused
      | insert now id events => cases addressed
      | fetchPage now id server direction limit => cases addressed
      | confirm now id transaction eventId => cases addressed
      | forgetState id type => cases addressed

/-- What is asked of a room that is not there changes nothing. -/
theorem serve_addressed_of_none
    {request : Request}
    {own : Room.Request}
    (addressed : request.addressed? = some (id, own))
    (absent : client.room? id = none) :
    client.serve request = client := by
  cases request with
  | insert now id events =>
      cases addressed
      rw [serve, insert, requireRoom_of_none absent]
      rfl
  | fetchPage now id server direction limit =>
      cases addressed
      rw [serve, fetchPage, requireRoom_of_none absent]
  | confirm now id transaction eventId =>
      cases addressed
      rw [serve, confirm, requireRoom_of_none absent]
      rfl
  | forgetState id type =>
      cases addressed
      rw [serve, forgetState, requireRoom_of_none absent]
      rfl
  | _ => cases addressed

/-- What is asked of a room that is there is answered by it. -/
theorem serve_addressed_of_some
    {request : Request}
    {own : Room.Request}
    (addressed : request.addressed? = some (room.id, own))
    (present : client.room? room.id = some room) :
    client.serve request = client.answer room own := by
  cases request with
  | insert now id events =>
      cases addressed
      exact serve_insert present now events
  | fetchPage now id server direction limit =>
      cases addressed
      exact serve_fetchPage present now server direction limit
  | confirm now id transaction eventId =>
      cases addressed
      exact serve_confirm present now transaction eventId
  | forgetState id type =>
      cases addressed
      exact serve_forgetState present type
  | _ => cases addressed

/-- A new subscription changes neither the settings nor the number of timelines. -/
theorem introduce_keeps (client : Client) (id : FeedId) :
    (client.introduce id).2.settings = client.settings ∧
      (client.introduce id).2.timelinesMade = client.timelinesMade := by
  cases asks : client.hub.asksForViews id with
  | false =>
      rw [introduce_of_silent asks]
      exact ⟨rfl, rfl⟩
  | true =>
      rw [introduce_of_asks asks]
      split <;> exact ⟨rfl, rfl⟩

/-- The hub after a new subscription was introduced. -/
theorem hub_introduce (client : Client) (settings : FeedSettings) :
    let introduced := ((client.enter settings).introduce (client.hub.made + 1)).2
    introduced.hub.made = client.hub.made + 1 ∧
      ∀ other, client.hub.made + 1 ≠ other →
        introduced.hub.feed? other = client.hub.feed? other := by
  obtain ⟨-, made, others⟩ := (client.enter settings).introduce_cases (client.hub.made + 1)
  refine ⟨made, fun other differs => (others other differs).trans ?_⟩
  exact FeedHub.feed?_put_of_ne differs client.hub _

/-- A subscription that is refused does not show. -/
theorem subscribe_looksLike
    (numbered : client.hub.Numbered)
    (refused : refusalOf (client.subscribe settings).1 = some error) :
    (client.subscribe settings).2.LooksLike client := by
  have keeps := (client.enter settings).introduce_keeps (client.hub.made + 1)
  have rooms := ((client.enter settings).introduce_cases (client.hub.made + 1)).1
  have hub := client.hub_introduce settings
  rcases client.subscribe_cases settings with
    ⟨cause, none⟩ | ⟨introduced, success, subscribed⟩ | ⟨cause, introduced, failure, forgotten⟩
  · rw [none]
    exact .refl client
  · rw [subscribed] at refused
    cases refused
  · change (client.enter settings).introduce _ = _ at failure
    rw [failure] at keeps rooms hub
    rw [forgotten]
    exact looksLike_of_rooms keeps.1 keeps.2 rooms
      (FeedHub.feeds_forget_subscribed numbered hub.2)

/-- Numbers are given out one after another, and no subscription gets another. -/
theorem numbered_serve
    (filed : client.Filed)
    (numbered : client.hub.Numbered)
    (request : Request) :
    (client.serve request).hub.Numbered := by
  cases announced : request.isAnnounced with
  | true =>
      have told : ∃ notices, Announces (fun _ => True) client (client.serve request) notices :=
        serve_announces filed announced fun _ _ => trivial
      obtain ⟨notices, announces⟩ := told
      rw [announces.hub_eq]
      exact numbered.tellEach notices
  | false =>
      cases request with
      | openLocalRoom now id =>
          rw [serve]
          cases opened : client.openLocalRoom now id with
          | error error => exact numbered
          | ok result =>
              obtain ⟨notices, hub, -⟩ := accounts_openLocalRoom opened
              show result.2.hub.Numbered
              rw [hub]
              exact numbered.tellEach notices
      | subscribe settings =>
          rw [serve]
          obtain ⟨made, others⟩ := client.hub_introduce settings
          rcases client.subscribe_cases settings with
            ⟨cause, none⟩ | ⟨introduced, success, subscribed⟩ |
            ⟨cause, introduced, failure, forgotten⟩
          · rw [none]
            exact numbered
          · change (client.enter settings).introduce _ = _ at success
            rw [success] at made others
            rw [subscribed]
            exact numbered.next made others
          · change (client.enter settings).introduce _ = _ at failure
            rw [failure] at made others
            rw [forgotten]
            exact (numbered.next made others).forget _
      | forgetRoom id => exact numbered
      | feed id use => exact numbered.call id use.call
      | room id own =>
          rw [serve]
          cases client.room? id <;> exact numbered
      | ensureRoom id => cases announced
      | insert now id events => cases announced
      | deliver now sync => cases announced
      | fetchPage now id server direction limit => cases announced
      | confirm now id transaction eventId => cases announced
      | forgetState id type => cases announced

theorem numbered_serveAll
    (filed : client.Filed)
    (numbered : client.hub.Numbered)
    (requests : List Request) :
    (client.serveAll requests).hub.Numbered := by
  induction requests generalizing client with
  | nil => exact numbered
  | cons request rest hypothesis =>
      exact hypothesis (filed_serve filed request) (numbered_serve filed numbered request)

/-- A client whose room is there and refuses looks as it did. -/
theorem answer_looksLike
    {own : Room.Request}
    (present : client.room? room.id = some room)
    (refuses : room.Refuses own error) :
    (client.answer room own).LooksLike client := by
  rw [answer, (Room.serve_of_refuses refuses).2]
  exact putRoom_looksLike present rfl (Room.looksLike_of_refuses refuses)

/-- A client that refuses a request looks as it did. -/
theorem serve_looksLike
    {request : Request}
    (filed : client.Filed)
    (numbered : client.hub.Numbered)
    (refuses : client.Refuses request error) :
    (client.serve request).LooksLike client := by
  cases refuses with
  | unknownRoom addressed absent =>
      rw [serve_addressed_of_none addressed absent]
      exact .refl client
  | @addressed request id own room error addressed present refuses =>
      obtain rfl := filed id room present
      rw [serve_addressed_of_some addressed present]
      exact answer_looksLike present refuses
  | @room id own room error present refuses =>
      rw [serve, present]
      exact putRoom_looksLike present (filed id room present) (Room.looksLike_of_refuses refuses)
  | roomExists present =>
      rw [serve, openLocalRoom, present]
      exact .refl client
  | emptyBuffer noPlaces =>
      rw [serve, subscribe_of_noPlaces noPlaces]
      exact .refl client
  | fewPlaces places tooFew =>
      exact subscribe_looksLike numbered (refusal?_eq_of_refuses (.fewPlaces places tooFew))

end

/-- After any requests, a client refuses a request exactly if the room that it is addressed to is
not there or refuses it, if a room is there where a local one is to be made, or if a subscription
has no place at all or too few for what it is to be told first.  Then all rooms look as they did, a
page would be asked for in the same words, and all subscriptions and what waits for them are as they
were. -/
theorem refused_looksLike
    {settings : ClientSettings}
    {requests : List Request}
    {client : Client}
    (reached : (ofSettings settings).serveAll requests = client)
    (request : Request) :
    (∀ error, client.refusal? request = some error ↔ client.Refuses request error) ∧
    ((client.refusal? request).isSome = true → (client.serve request).LooksLike client) := by
  subst reached
  have unfiled : (ofSettings settings).Filed :=
    (houses_ofSettings (fun _ => True) settings).filed
  have filed := filed_serveAll unfiled requests
  have numbered := numbered_serveAll unfiled FeedHub.numbered_empty requests
  refine ⟨fun error => ⟨refuses_of_refusal?_eq, refusal?_eq_of_refuses⟩, fun refused => ?_⟩
  obtain ⟨error, refused⟩ := Option.isSome_iff_exists.mp refused
  exact serve_looksLike filed numbered (refuses_of_refusal?_eq refused)

/-- A subscriber with a single place that wants to be shown what rooms are like. -/
def crowded : FeedSettings := ⟨some 1, true, .all⟩

theorem refused_looksLike_crowded :
    (ofSettings .standard).serveAll listening = listened ∧
    listened.Refuses (.subscribe crowded) .subscriptionEnded ∧
    (listened.serve (.subscribe crowded)).hub.made = listened.hub.made + 1 ∧
    (listened.serve (.subscribe crowded)).LooksLike listened := by
  have refused : listened.refusal? (.subscribe crowded) = some .subscriptionEnded := by
    decide +kernel
  have reached : (ofSettings .standard).serveAll listening = listened := rfl
  obtain ⟨refuses, looksLike⟩ := refused_looksLike reached (.subscribe crowded)
  refine ⟨reached, (refuses _).mp refused, by decide +kernel, looksLike ?_⟩
  rw [refused]
  rfl

end Client

end RoomHistory
