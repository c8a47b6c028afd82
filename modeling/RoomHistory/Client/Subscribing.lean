import RoomHistory.Client.Basic

/-!
# Subscribing to a client

A new subscriber that asks for it is first told what every room that it follows is like, by
ascending id, and then that it is caught up.  One whose buffer cannot hold all of that gets no
subscription.
-/

namespace RoomHistory

namespace Room

/-- What the room is like now. -/
def view (room : Room) : RoomView where
  room := room.id
  membership := room.membership
  length := room.timeline.length
  horizon := room.timeline.horizon
  generation := room.timeline.generation

/-- The room after it was looked at. -/
def rememberHorizon (room : Room) : Room :=
  { room with timeline := room.timeline.rememberHorizon }

end Room

namespace Client

/-- What all rooms are like now, by ascending id. -/
def views (client : Client) : List RoomView :=
  client.rooms.values.map (·.view)

/-- The client after all its rooms were looked at. -/
def rememberHorizons (client : Client) : Client :=
  { client with rooms := client.rooms.map fun _ room => room.rememberHorizon }

/-- The settings with the client's buffer where it names none. -/
def settle (client : Client) (settings : FeedSettings) : FeedSettings :=
  { settings with buffer := some (settings.buffer.getD client.settings.feedBuffer) }

/-- The client with another hub. -/
def withHub (client : Client) (hub : FeedHub) : Client :=
  { client with hub := hub }

/-- Tells a new subscription what rooms are like, if it wants that, and that it is caught up. -/
def introduce (client : Client) (id : FeedId) : Except Error Unit × Client :=
  let (caughtUp, shown) :=
    if client.hub.asksForViews id then
      let (result, hub) := client.hub.sendViews id client.views
      (result, client.rememberHorizons.withHub hub)
    else (.ok (), client)
  match caughtUp with
  | .error error => (.error error, shown)
  | .ok () =>
      let (marked, hub) := shown.hub.finishCatchUp id
      (marked, shown.withHub hub)

/-- Makes a subscription, or uses up its number and makes none. -/
def subscribe (client : Client) (settings : FeedSettings) : Except Error FeedId × Client :=
  let settled := client.settle settings
  if settled.buffer = some 0 then (.error (.misuse .emptyBuffer), client)
  else
    let (id, hub) := client.hub.subscribe settled
    match (client.withHub hub).introduce id with
    | (.ok (), introduced) => (.ok id, introduced)
    | (.error error, introduced) =>
        (.error error, introduced.withHub (introduced.hub.forget id))

/-- Ends a subscription. -/
def unsubscribe (client : Client) (id : FeedId) : Client :=
  client.withHub (client.hub.unsubscribe id)

end Client

end RoomHistory
