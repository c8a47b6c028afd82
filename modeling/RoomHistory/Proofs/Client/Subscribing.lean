import RoomHistory.Proofs.Client.Refusing
import RoomHistory.Proofs.Timeline.Fronts

/-!
# All or nothing

Whoever subscribes is told of every room that it is to be shown, each as it is now and by ascending
id, and that it is caught up; or there is no subscription.  Two kinds of notices go into one stream,
and sending either may end the subscription halfway, but which of the two happens depends on nothing
except whether the stream has more places than there are rooms to be shown.  Memory for the places
of a stream is taken to be there.
-/

namespace RoomHistory

/-- What is put into a map under a free key counts in addition to what was there. -/
theorem countP_values_insert
    {κ ν : Type}
    {order : κ → κ → Ordering}
    [Std.TransCmp order]
    [Std.LawfulEqCmp order]
    {map : Std.ExtTreeMap κ ν order}
    {key : κ}
    (absent : map[key]? = none)
    (value : ν)
    (condition : ν → Bool) :
    (map.insert key value).values.countP condition =
      map.values.countP condition + if condition value then 1 else 0 := by
  have free : (key, value) ∉ map.toList := by
    intro present
    rw [Std.ExtTreeMap.mem_toList_iff_getElem?_eq_some, absent] at present
    cases present
  have entries : (map.insert key value).toList.Perm ((key, value) :: map.toList) := by
    apply (List.perm_ext_iff_of_nodup (nodup_toList _)
      (List.nodup_cons.mpr ⟨free, nodup_toList map⟩)).mpr
    rintro ⟨other, otherValue⟩
    rw [List.mem_cons, Std.ExtTreeMap.mem_toList_iff_getElem?_eq_some,
      Std.ExtTreeMap.mem_toList_iff_getElem?_eq_some, Std.ExtTreeMap.getElem?_insert]
    split
    · next same =>
        obtain rfl := Std.LawfulEqCmp.eq_of_compare same
        simp [absent, eq_comm]
    · next differs =>
        have otherKey : other ≠ key := by
          rintro rfl
          exact differs Std.ReflCmp.compare_self
        simp [otherKey]
  rw [values_eq_map_snd, values_eq_map_snd, List.countP_map, List.countP_map,
    entries.countP_eq, List.countP_cons]
  rfl

namespace Room

/-- Whatever is asked of a room, its timeline is reached by insertions. -/
theorem reached_invariant :
    Room.Invariant (fun _ => True) fun room => room.timeline.Reached fun _ => True := by
  have unchecked : ∀ insertion : Insertion, ∀ event ∈ insertion.batch, True :=
    fun _ _ _ => trivial
  have change : ∀ (room : Room) (single : Change), (room.timeline.Reached fun _ => True) →
      (room.change single).timeline.Reached fun _ => True := by
    intro room single reached
    cases single with
    | enter insertion => exact reached.applyTo insertion (unchecked insertion)
    | look => exact reached.rememberHorizon
    | move told => exact reached
    | turn cursors => exact reached
    | post pending => exact reached
    | withdraw transaction => exact reached
    | read type => exact reached
    | forget type => exact reached
  have changeAll : ∀ (room : Room) (changes : List Change),
      (room.timeline.Reached fun _ => True) →
        (room.changeAll changes).timeline.Reached fun _ => True := by
    intro room changes reached
    induction changes generalizing room with
    | nil => exact reached
    | cons single rest hypothesis => exact hypothesis _ (change room single reached)
  refine ⟨fun tag id _ policy => .empty tag policy (some id),
    fun tag id creator policy now _ => ?_, fun room request reached _ => ?_⟩
  · exact (Timeline.Reached.empty tag policy (some id)).applyTo
      (.arriving ((Room.empty tag id creator policy).arrival none now.arrival) now.change [creation id creator])
      (unchecked _)
  · rw [serve_eq]
    exact changeAll room _ reached

/-- What a room is like, with the horizon read off its events. -/
def likeness (room : Room) : RoomView where
  room := room.id
  membership := room.membership
  length := room.timeline.events.length
  horizon := horizonOf room.timeline.events
  generation := room.timeline.generation

theorem view_eq_likeness {room : Room} (vouches : room.timeline.VouchesHorizon) :
    room.view = room.likeness := by
  rw [view, vouches.horizon_eq]
  rfl

end Room

namespace Feed

section

variable {feed : Feed}

/-- The subscription after several notices were sent to it. -/
def sentAll (feed : Feed) (notices : List Notice) : Feed :=
  feed.withStream { feed.stream with waiting := feed.stream.waiting ++ notices }

/-- Where there is a place for each view that is wanted, all of them are sent. -/
theorem sendViews_of_places
    {rooms : List RoomView}
    (receiving : feed.stream.hasReceiver = true)
    (places : feed.stream.waiting.length + (feed.viewsWanted rooms).length ≤
      feed.stream.capacity) :
    feed.sendViews rooms = feed.sentAll (feed.viewsWanted rooms) := by
  induction rooms generalizing feed with
  | nil =>
      rw [sentAll, viewsWanted, List.map_nil, List.filter_nil, List.append_nil]
      rfl
  | cons view rest hypothesis =>
      rw [viewsWanted, List.map_cons] at places ⊢
      rw [sendViews, wants]
      by_cases wanted : feed.settings.filter.wants (.view view) = true
      · rw [List.filter_cons_of_pos wanted] at places ⊢
        rw [if_pos wanted]
        have accepts : feed.stream.accepts = true := by
          rw [List.length_cons] at places
          rw [NoticeStream.accepts, receiving, Bool.true_and, decide_eq_true_eq]
          omega
        let sent := feed.sent (.view view)
        have placesThen : sent.stream.waiting.length + (sent.viewsWanted rest).length ≤
            sent.stream.capacity := by
          show (feed.stream.waiting ++ [Notice.view view]).length +
            (feed.viewsWanted rest).length ≤ _
          rw [viewsWanted, List.length_append, List.length_singleton]
          rw [List.length_cons] at places
          exact (Nat.add_right_comm _ _ _).trans_le places
        have sentRest : sent.sendViews rest = sent.sentAll (sent.viewsWanted rest) :=
          hypothesis receiving placesThen
        rw [send?_of_accepts accepts]
        show sent.sendViews rest = _
        rw [sentRest, sentAll, sentAll]
        show feed.withStream { feed.stream with
          waiting := (feed.stream.waiting ++ [Notice.view view]) ++ feed.viewsWanted rest } = _
        rw [List.append_assoc, List.singleton_append]
        rfl
      · rw [List.filter_cons_of_neg wanted] at places ⊢
        rw [if_neg wanted]
        exact hypothesis receiving places

/-- Where there is a place for the mark, it is sent. -/
theorem serve_finishCatchUp_of_accepts
    (registered : feed.isRegistered = true)
    (accepts : feed.stream.accepts = true) :
    feed.serve (.call .finishCatchUp) = { feed.sentAll [.caughtUp] with isCaughtUp := true } := by
  let marked : Feed := { feed with isCaughtUp := true }
  have acceptsMark : marked.stream.accepts = true := accepts
  have sends : feed.finishCatchUp? = some (marked.sent .caughtUp) :=
    send?_of_accepts acceptsMark .caughtUp
  rw [serve, if_pos registered, sends]
  rfl

end

end Feed

namespace FeedHub

/-- A subscription that is added is counted if it is registered, and the others as before. -/
theorem count_of_added
    {hub later : FeedHub}
    {id : FeedId}
    {feed : Feed}
    (absent : hub.feed? id = none)
    (added : later.feed? id = some feed)
    (others : ∀ other, id ≠ other → later.feed? other = hub.feed? other) :
    later.count = hub.count + if feed.isRegistered then 1 else 0 := by
  have feeds : later.feeds = hub.feeds.insert id feed := by
    apply Std.ExtTreeMap.ext_getElem?
    intro other
    show later.feed? other = (hub.put id feed).feed? other
    by_cases same : id = other
    · rw [← same, added, feed?_put_self]
    · rw [others other same, feed?_put_of_ne same]
  rw [count, feeds]
  exact countP_values_insert absent feed _

end FeedHub

namespace Client

/-- The rooms that a new subscription is to be shown, by ascending id. -/
def roomsShown (client : Client) (settings : FeedSettings) : List Room :=
  if settings.viewsFirst then client.rooms.values.filter fun room => settings.filter.follows room.id
  else []

/-- A subscription of which its receiver has seen nothing yet, with all rooms that it was shown and
the mark that it is caught up. -/
def opened (client : Client) (settings : FeedSettings) : Feed where
  settings := client.settle settings
  stream := {
    capacity := client.placesFor settings
    waiting := ((client.roomsShown settings).map fun room => .view room.likeness) ++ [.caughtUp]
    hasReceiver := true }
  isRegistered := true
  isCaughtUp := true

section

variable {client : Client} {settings : FeedSettings}

theorem viewsFor_eq (client : Client) (settings : FeedSettings) :
    client.viewsFor settings = (client.roomsShown settings).length := by
  rw [viewsFor, roomsShown]
  split
  · rw [views, List.map_map, List.filter_map, List.length_map]
    rfl
  · rfl

/-- The rooms of a client are listed by ascending id. -/
theorem values_ascending (filed : client.Filed) :
    client.rooms.values.Pairwise fun left right => left.id < right.id := by
  rw [values_eq_map_snd, List.pairwise_map]
  apply Std.ExtTreeMap.ordered_keys_toList.imp_of_mem
  intro left right leftIn rightIn before
  have own : ∀ entry ∈ client.rooms.toList, entry.2.id = entry.1 := fun entry present =>
    filed entry.1 entry.2 (Std.ExtTreeMap.mem_toList_iff_getElem?_eq_some.mp present)
  rw [own left leftIn, own right rightIn]
  exact compareOfLessAndEq_eq_lt.mp before

theorem mem_roomsShown_iff (filed : client.Filed) (room : Room) :
    room ∈ client.roomsShown settings ↔
      settings.viewsFirst = true ∧ settings.filter.follows room.id = true ∧
        client.room? room.id = some room := by
  have isListed : room ∈ client.rooms.values ↔ client.room? room.id = some room := by
    rw [mem_values_iff]
    constructor
    · rintro ⟨id, present⟩
      rw [filed id room present]
      exact present
    · exact fun present => ⟨room.id, present⟩
  rw [roomsShown]
  split
  next first => simp only [List.mem_filter, isListed, first, true_and, and_comm]
  next first => simp [first]

theorem roomsShown_ascending (filed : client.Filed) (settings : FeedSettings) :
    (client.roomsShown settings).Pairwise fun left right => left.id < right.id := by
  rw [roomsShown]
  split
  · exact (values_ascending filed).filter _
  · exact .nil

/-- Where there are places, what comes of the introduction of the new subscription decides. -/
theorem subscribe_of_places (places : client.placesFor settings ≠ 0) :
    client.subscribe settings =
      match (client.enter settings).introduce (client.hub.made + 1) with
      | (.ok (), introduced) => (.ok (client.hub.made + 1), introduced)
      | (.error error, introduced) =>
          (.error error, introduced.withHub (introduced.hub.forget (client.hub.made + 1))) := by
  have notEmpty : (client.settle settings).buffer ≠ some 0 :=
    fun empty => places (Option.some.inj empty)
  simp only [subscribe, if_neg notEmpty]
  rfl

/-- With a place for each room to be shown and one more, the subscription is introduced. -/
theorem subscribe_of_enough (enough : client.viewsFor settings < client.placesFor settings) :
    client.subscribe settings =
      (.ok (client.hub.made + 1),
        ((client.enter settings).introduce (client.hub.made + 1)).2) := by
  have told := client.introduce_result settings
  rw [if_pos enough] at told
  rw [subscribe_of_places (Nat.ne_of_gt (Nat.zero_lt_of_lt enough))]
  cases introduces : (client.enter settings).introduce (client.hub.made + 1) with
  | mk result introduced =>
      rw [introduces] at told
      obtain rfl : result = .ok () := told
      rfl

theorem subscribe_result (client : Client) (settings : FeedSettings) :
    (client.subscribe settings).1 =
      if client.placesFor settings = 0 then .error (.misuse .emptyBuffer)
      else if client.placesFor settings ≤ client.viewsFor settings then .error .subscriptionEnded
      else .ok (client.hub.made + 1) := by
  split
  next noPlaces => rw [subscribe_of_noPlaces noPlaces]
  next places =>
    split
    next tooFew =>
      have told := client.introduce_result settings
      rw [if_neg (Nat.not_lt_of_le tooFew)] at told
      rw [subscribe_of_places places]
      cases introduces : (client.enter settings).introduce (client.hub.made + 1) with
      | mk result introduced =>
          rw [introduces] at told
          obtain rfl : result = .error .subscriptionEnded := told
          rfl
    next enough => rw [subscribe_of_enough (Nat.lt_of_not_le enough)]

/-- What is sent to a new subscription first, if it has the places. -/
theorem views_sent
    (vouches : ∀ room ∈ client.rooms.values, room.timeline.VouchesHorizon)
    (viewsFirst : settings.viewsFirst = true) :
    (client.views.map Notice.view).filter settings.filter.wants =
      (client.roomsShown settings).map fun room => .view room.likeness := by
  rw [roomsShown, if_pos viewsFirst, views, List.map_map, List.filter_map]
  apply List.map_congr_left
  intro room shown
  show Notice.view room.view = _
  rw [Room.view_eq_likeness (vouches room (List.mem_filter.mp shown).1)]

/-- A subscription with enough places is sent all that it is to be told first. -/
theorem introduce_opens
    (vouches : ∀ room ∈ client.rooms.values, room.timeline.VouchesHorizon)
    (enough : client.viewsFor settings < client.placesFor settings) :
    ((client.enter settings).introduce (client.hub.made + 1)).2.hub.feed?
      (client.hub.made + 1) = some (client.opened settings) := by
  let id := client.hub.made + 1
  let entered := client.enter settings
  let fresh := Feed.ofSettings (client.settle settings)
  let views := (client.roomsShown settings).map fun room => Notice.view room.likeness
  have isFresh : entered.hub.feed? id = some fresh := FeedHub.feed?_put_self client.hub id fresh
  have asks : entered.hub.asksForViews id = settings.viewsFirst := by
    rw [FeedHub.asksForViews, FeedHub.registered?_of_feed? isFresh]
    rfl
  have fewer : views.length < client.placesFor settings := by
    rw [List.length_map, ← viewsFor_eq]
    exact enough
  -- Whoever wants no views was sent none, so that for both only the mark is left.
  have marks : ∀ hub : FeedHub, hub.feed? id = some (fresh.sentAll views) →
      (hub.call id .finishCatchUp).feed? id = some (client.opened settings) := by
    intro hub isShown
    have accepts : (fresh.sentAll views).stream.accepts = true := decide_eq_true fewer
    rw [(FeedHub.call_own isShown .finishCatchUp).1,
      Feed.serve_finishCatchUp_of_accepts rfl accepts]
    rfl
  show (entered.introduce id).2.hub.feed? id = _
  cases first : settings.viewsFirst with
  | false =>
      have none : views = [] := by
        show (client.roomsShown settings).map _ = []
        rw [roomsShown, first]
        rfl
      rw [introduce_of_silent (asks.trans first)]
      apply marks
      rw [isFresh, none]
      rfl
  | true =>
      have wanted : fresh.viewsWanted entered.views = views := views_sent vouches first
      have shown : fresh.sendViews entered.views = fresh.sentAll views := by
        rw [← wanted]
        apply Feed.sendViews_of_places rfl
        rw [wanted]
        exact (Nat.zero_add _).trans_le (Nat.le_of_lt fewer)
      have isShown : (entered.hub.call id (.sendViews entered.views)).feed? id =
          some (fresh.sentAll views) := by
        rw [(FeedHub.call_own isFresh (.sendViews entered.views)).1, ← shown]
        rfl
      have success : (entered.hub.sendViews id entered.views).1 = .ok () := by
        rw [FeedHub.sendViews_result isFresh rfl, shown]
        rfl
      rw [introduce_of_asks (asks.trans first), success]
      exact marks _ isShown

end

/-- Subscribing is all or nothing, whatever was asked of the client before.  It is refused where the
stream is to have no place, and where it has places, but no more than there are rooms to be shown.
Otherwise the new subscription, which has a number of its own, has waiting what each of these rooms
is like now, by ascending id, and then the mark that it is caught up.  It counts as one subscription
more if it was made, and as none if not, and every other subscription is as it was. -/
theorem subscribe_allOrNothing
    (settings : ClientSettings)
    (requests : List Request)
    (asked : FeedSettings) :
    let client := (ofSettings settings).serveAll requests
    let places := asked.buffer.getD client.settings.feedBuffer
    let shown := client.roomsShown asked
    let id := client.hub.made + 1
    let later := (client.subscribe asked).2
    (∀ room, room ∈ shown ↔
      asked.viewsFirst = true ∧ asked.filter.follows room.id = true ∧
        client.room? room.id = some room) ∧
    shown.Pairwise (fun left right => left.id < right.id) ∧
    (client.subscribe asked).1 =
      (if places = 0 then .error (.misuse .emptyBuffer)
      else if places ≤ shown.length then .error .subscriptionEnded
      else .ok id) ∧
    client.hub.feed? id = none ∧
    later.hub.feed? id = (if shown.length < places then some (client.opened asked) else none) ∧
    later.hub.count = client.hub.count + (if shown.length < places then 1 else 0) ∧
    ∀ other, other ≠ id → later.hub.feed? other = client.hub.feed? other := by
  intro client places shown id later
  have roomless : (ofSettings settings).Houses fun room => room.timeline.Reached fun _ => True :=
    houses_ofSettings _ settings
  have houses : client.Houses fun room => room.timeline.Reached fun _ => True :=
    roomless.serveAll Room.reached_invariant fun _ _ => trivial
  have numbered : client.hub.Numbered :=
    numbered_serveAll roomless.filed FeedHub.numbered_empty requests
  have vouches : ∀ room ∈ client.rooms.values, room.timeline.VouchesHorizon := by
    intro room present
    obtain ⟨key, found⟩ := mem_values_iff.mp present
    exact (houses.holds key room found).vouchesHorizon
  have unused : client.hub.feed? id = none := numbered id (Nat.lt_succ_self client.hub.made)
  have result := client.subscribe_result asked
  rw [viewsFor_eq] at result
  refine ⟨mem_roomsShown_iff houses.filed, roomsShown_ascending houses.filed asked, result, unused,
    ?_⟩
  by_cases enough : shown.length < places
  · have isEnough : client.viewsFor asked < client.placesFor asked := by
      rw [viewsFor_eq]
      exact enough
    have opens := introduce_opens vouches isEnough
    have others := (client.hub_introduce asked).2
    have introduced : later = ((client.enter asked).introduce id).2 := by
      show (client.subscribe asked).2 = _
      rw [subscribe_of_enough isEnough]
    rw [if_pos enough, if_pos enough, introduced]
    refine ⟨opens, ?_, fun other differs => others other differs.symm⟩
    exact FeedHub.count_of_added unused opens others
  · have refused : ∃ error, refusalOf (client.subscribe asked).1 = some error := by
      have tooFew : client.placesFor asked ≤ (client.roomsShown asked).length :=
        Nat.le_of_not_lt enough
      rw [result, if_pos tooFew]
      split <;> exact ⟨_, rfl⟩
    obtain ⟨error, isError⟩ := refused
    have looksLike : later.LooksLike client := subscribe_looksLike numbered isError
    have same : ∀ other, later.hub.feed? other = client.hub.feed? other := fun other => by
      rw [FeedHub.feed?, looksLike.feeds, FeedHub.feed?]
    rw [if_neg enough, if_neg enough]
    exact ⟨(same id).trans unused, looksLike.count, fun other _ => same other⟩

end Client

end RoomHistory
