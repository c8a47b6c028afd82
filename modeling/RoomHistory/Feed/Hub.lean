import Std.Data.ExtTreeMap
import RoomHistory.Feed.Stream

/-!
# The feed hub

The hub holds every subscription that was made.  A registered one is told of changes once it is
caught up.  Whoever cannot be told something that it wants is no longer registered; what already
waits in its stream stays there for its receiver.
-/

namespace RoomHistory

/-- Numbers the subscriptions from one on. -/
abbrev FeedId := Nat

/-- One subscription and its stream. -/
structure Feed where
  settings : FeedSettings
  stream : NoticeStream
  /-- Whether the subscription is still told of changes. -/
  isRegistered : Bool
  /-- Whether changes are told yet. -/
  isCaughtUp : Bool
  deriving DecidableEq

namespace Feed

/-- A subscription that was told nothing yet. -/
def ofSettings (settings : FeedSettings) : Feed where
  settings := settings
  stream := .ofCapacity (settings.buffer.getD FeedSettings.standardBuffer)
  isRegistered := true
  isCaughtUp := false

/-- Whether a notice is wanted. -/
def wants (feed : Feed) (notice : Notice) : Bool :=
  feed.settings.filter.wants notice

/-- The subscription after it was removed. -/
def remove (feed : Feed) : Feed :=
  { feed with isRegistered := false }

/-- The subscription after it was removed and, if its stream takes one more notice, told why. -/
def close (feed : Feed) (reason : EndReason) : Feed :=
  { feed.remove with stream := feed.stream.offer (.dropped reason) }

/-- The subscription after a notice was sent to it, unless sending fails. -/
def send? (feed : Feed) (notice : Notice) : Option Feed :=
  (feed.stream.send? notice).map fun stream => { feed with stream := stream }

/-- Whether a change is to be told. -/
def isDue (feed : Feed) (notice : Notice) : Bool :=
  feed.isRegistered && feed.isCaughtUp && feed.wants notice

/-- Tells of a change that is due, or removes the subscription. -/
def tell (feed : Feed) (notice : Notice) : Feed :=
  if feed.isDue notice then (feed.send? notice).getD (feed.close .bufferOverflow) else feed

/-- Tells what the rooms that are followed are like.  The first that cannot be told ends the
subscription. -/
def sendViews (feed : Feed) : List RoomView → Feed
  | [] => feed
  | view :: rest =>
      if feed.wants (.view view) then
        match feed.send? (.view view) with
        | some sent => sent.sendViews rest
        | none => feed.remove
      else feed.sendViews rest

/-- Starts to be told of changes, and is told so. -/
def finishCatchUp? (feed : Feed) : Option Feed :=
  { feed with isCaughtUp := true }.send? .caughtUp

end Feed

/-- What a receiver finds. -/
inductive Reception where
  | notice (notice : Notice)
  /-- Nothing waits, but something may still come. -/
  | empty
  /-- Nothing waits and nothing will come. -/
  | disconnected
  deriving DecidableEq

/-- All subscriptions. -/
structure FeedHub where
  feeds : Std.ExtTreeMap FeedId Feed
  /-- How many subscriptions were made. -/
  made : Nat

namespace FeedHub

/-- No subscriptions. -/
def empty : FeedHub := ⟨∅, 0⟩

/-- A subscription, registered or not. -/
def feed? (hub : FeedHub) (id : FeedId) : Option Feed :=
  hub.feeds[id]?

/-- A registered subscription. -/
def registered? (hub : FeedHub) (id : FeedId) : Option Feed :=
  (hub.feed? id).filter (·.isRegistered)

/-- How many subscriptions are registered. -/
def count (hub : FeedHub) : Nat :=
  hub.feeds.values.countP (·.isRegistered)

/-- Replaces a subscription. -/
def put (hub : FeedHub) (id : FeedId) (feed : Feed) : FeedHub :=
  { hub with feeds := hub.feeds.insert id feed }

/-- Makes a subscription, which is told no changes until it is caught up. -/
def subscribe (hub : FeedHub) (settings : FeedSettings) : FeedId × FeedHub :=
  let id := hub.made + 1
  (id, { hub.put id (.ofSettings settings) with made := id })

/-- Ends a subscription. -/
def unsubscribe (hub : FeedHub) (id : FeedId) : FeedHub :=
  match hub.registered? id with
  | some feed => hub.put id (feed.close .unsubscribed)
  | none => hub

/-- Tells a subscription what rooms are like.  One that cannot be told is removed. -/
def sendViews (hub : FeedHub) (id : FeedId) (rooms : List RoomView) :
    Except Error Unit × FeedHub :=
  match hub.registered? id with
  | some feed =>
      let told := feed.sendViews rooms
      (if told.isRegistered then .ok () else .error .subscriptionEnded, hub.put id told)
  | none => (.ok (), hub)

/-- Starts to tell a subscription of changes.  One that cannot be told so is removed. -/
def finishCatchUp (hub : FeedHub) (id : FeedId) : Except Error Unit × FeedHub :=
  match hub.registered? id with
  | some feed =>
      match feed.finishCatchUp? with
      | some caughtUp => (.ok (), hub.put id caughtUp)
      | none => (.error .subscriptionEnded, hub.put id feed.remove)
  | none => (.ok (), hub)

/-- Whether a registered subscription wants to be told what rooms are like. -/
def asksForViews (hub : FeedHub) (id : FeedId) : Bool :=
  (hub.registered? id).any (·.settings.viewsFirst)

/-- Tells every subscription that wants it of a change. -/
def tellAll (hub : FeedHub) (notice : Notice) : FeedHub :=
  { hub with feeds := hub.feeds.map fun _ feed => feed.tell notice }

/-- Tells of an insertion, if there is anything to tell. -/
def tellInsertion (hub : FeedHub) (room : RoomId) (outcome : Outcome) : FeedHub :=
  match Notice.ofOutcome? room outcome with
  | some notice => hub.tellAll notice
  | none => hub

/-- Forgets a subscription together with its stream. -/
def forget (hub : FeedHub) (id : FeedId) : FeedHub :=
  { hub with feeds := hub.feeds.erase id }

/-- A subscription whose receiver is still there. -/
def received? (hub : FeedHub) (id : FeedId) : Option Feed :=
  (hub.feed? id).filter (·.stream.hasReceiver)

/-- What a receiver finds next, and the hub after it looked, if the receiver is still there. -/
def receive? (hub : FeedHub) (id : FeedId) : Option (Reception × FeedHub) :=
  (hub.received? id).map fun feed =>
    match feed.stream.receive? with
    | some (notice, stream) => (.notice notice, hub.put id { feed with stream := stream })
    | none => (if feed.isRegistered then .empty else .disconnected, hub)

/-- All notices that wait for a receiver, and the hub without them. -/
def drain? (hub : FeedHub) (id : FeedId) : Option (List Notice × FeedHub) :=
  (hub.received? id).map fun feed =>
    let (notices, stream) := feed.stream.drain
    (notices, hub.put id { feed with stream := stream })

/-- How many notices wait for a receiver. -/
def waiting? (hub : FeedHub) (id : FeedId) : Option Nat :=
  (hub.received? id).map (·.stream.waiting.length)

/-- The hub after a receiver has gone. -/
def abandon? (hub : FeedHub) (id : FeedId) : Option FeedHub :=
  (hub.received? id).map fun feed => hub.put id { feed with stream := feed.stream.abandon }

@[simp] theorem feed?_put_self (hub : FeedHub) (id : FeedId) (feed : Feed) :
    (hub.put id feed).feed? id = some feed := by
  simp [put, feed?]

/-- Replacing a subscription leaves every other one as it was. -/
theorem feed?_put_of_ne {id other : FeedId} (differs : id ≠ other) (hub : FeedHub) (feed : Feed) :
    (hub.put id feed).feed? other = hub.feed? other := by
  simp [put, feed?, Std.ExtTreeMap.getElem?_insert, differs]

/-- What a subscription is told of a change depends on no other subscription. -/
@[simp] theorem feed?_tellAll (hub : FeedHub) (notice : Notice) (id : FeedId) :
    (hub.tellAll notice).feed? id = (hub.feed? id).map (·.tell notice) := by
  simp [tellAll, feed?]

end FeedHub

end RoomHistory
