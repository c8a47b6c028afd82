import RoomHistory.Proofs.Client.Requests

/-!
# The rooms of a client

Rooms come to a client empty, or as local rooms, and change only by what is asked of them.  So what
holds of such rooms and is kept by every request to a room holds of all rooms of a client, after any
requests.
-/

namespace RoomHistory

/-- What holds of the rooms that a client makes, and is kept by every request to a room whose events
have given contents. -/
structure Room.Invariant (given : Json → Prop) (holds : Room → Prop) : Prop where
  empty : ∀ tag id user policy, holds (.empty tag id user policy)
  clientOnly : ∀ tag id creator policy now, given (Room.creation id creator).content →
    holds (.clientOnly tag id creator policy now)
  serve : ∀ (room : Room) (request : Room.Request), holds room →
    (∀ event ∈ room.offers request, given event.content) → holds (room.serve request)

/-- What rooms keep is such an invariant. -/
theorem Room.keeps_invariant
    {given : Json → Prop}
    (told : Json.ToldByTexts given) :
    Room.Invariant given (Room.Keeps given) where
  empty := keeps_empty
  clientOnly := keeps_clientOnly told
  serve _ _ keeps gives := keeps.serve told gives

namespace Client

/-- Every room is filed under its own id, and something holds of every room. -/
structure Houses (holds : Room → Prop) (client : Client) : Prop where
  filed : client.Filed
  holds : ∀ id room, client.room? id = some room → holds room

theorem houses_ofSettings (holds : Room → Prop) (settings : ClientSettings) :
    (ofSettings settings).Houses holds where
  filed id room present := by
    simp [ofSettings, room?] at present
  holds id room present := by
    simp [ofSettings, room?] at present

section

variable {given : Json → Prop} {holds : Room → Prop} {client later : Client}
  {notices : List Notice} {request : Request}

/-- A client whose rooms are filed alike houses the same rooms. -/
theorem Houses.of_rooms
    (houses : client.Houses holds)
    (same : later.rooms = client.rooms) :
    later.Houses holds := by
  have found : ∀ id, later.room? id = client.room? id := fun id => by rw [room?, same, room?]
  constructor
  · intro id room present
    exact houses.filed id room (found id ▸ present)
  · intro id room present
    exact houses.holds id room (found id ▸ present)

theorem Houses.putRoom
    {room : Room}
    (houses : client.Houses holds)
    (roomHolds : holds room) :
    (client.putRoom room).Houses holds where
  filed := filed_putRoom houses.filed room
  holds id found present := by
    rw [room?_putRoom] at present
    split at present
    · rw [← Option.some.inj present]
      exact roomHolds
    · exact houses.holds id found present

theorem Announces.houses
    (announces : Announces given client later notices)
    (invariant : Room.Invariant given holds)
    (houses : client.Houses holds) :
    later.Houses holds := by
  induction announces with
  | nothing client => exact houses
  | @make client id absent =>
      exact (houses.putRoom (invariant.empty _ id _ _)).of_rooms rfl
  | @answer client room own present gives =>
      have answered := invariant.serve room own (houses.holds _ room present) gives
      exact (houses.putRoom answered).of_rooms rfl
  | append first next hypothesis hypothesisThen => exact hypothesisThen (hypothesis houses)

theorem room?_rememberHorizons (client : Client) (id : RoomId) :
    client.rememberHorizons.room? id = (client.room? id).map (·.rememberHorizon) := by
  simp [rememberHorizons, room?]

theorem Houses.rememberHorizons
    (houses : client.Houses holds)
    (invariant : Room.Invariant given holds) :
    client.rememberHorizons.Houses holds := by
  have remembered : ∀ id found, client.rememberHorizons.room? id = some found →
      ∃ room, client.room? id = some room ∧ room.rememberHorizon = found := by
    intro id found present
    rw [room?_rememberHorizons] at present
    exact Option.map_eq_some_iff.mp present
  constructor
  · intro id found present
    obtain ⟨room, wasPresent, rfl⟩ := remembered id found present
    exact houses.filed id room wasPresent
  · intro id found present
    obtain ⟨room, wasPresent, rfl⟩ := remembered id found present
    have brings : ∀ event ∈ room.offers .horizon, given event.content := List.forall_mem_nil _
    exact invariant.serve room .horizon (houses.holds id room wasPresent) brings

/-- A subscription that does not ask for views is only told that it is caught up. -/
theorem introduce_of_silent
    {id : FeedId}
    (silent : client.hub.asksForViews id = false) :
    client.introduce id =
      ((client.hub.finishCatchUp id).1, client.withHub (client.hub.finishCatchUp id).2) := by
  simp only [introduce, silent]
  rfl

/-- One that asks for them is shown all views, and then told that it is caught up. -/
theorem introduce_of_asks
    {id : FeedId}
    (asks : client.hub.asksForViews id = true) :
    client.introduce id =
      match (client.hub.sendViews id client.views).1 with
      | .error error =>
          (.error error,
            client.rememberHorizons.withHub (client.hub.call id (.sendViews client.views)))
      | .ok () =>
          (((client.hub.call id (.sendViews client.views)).finishCatchUp id).1,
            client.rememberHorizons.withHub
              ((client.hub.call id (.sendViews client.views)).call id .finishCatchUp)) := by
  simp only [introduce, asks]
  cases (client.hub.sendViews id client.views).1 <;> rfl

/-- A new subscription changes no room, but may have their horizons asked for, and disturbs no
other subscription. -/
theorem introduce_cases (client : Client) (id : FeedId) :
    ((client.introduce id).2.rooms = client.rooms ∨
      (client.introduce id).2.rooms = client.rememberHorizons.rooms) ∧
    (client.introduce id).2.hub.made = client.hub.made ∧
    ∀ other, id ≠ other → (client.introduce id).2.hub.feed? other = client.hub.feed? other := by
  cases asks : client.hub.asksForViews id with
  | false =>
      rw [introduce_of_silent asks]
      exact ⟨Or.inl rfl, client.hub.made_call id .finishCatchUp,
        fun other differs => FeedHub.feed?_call_of_ne differs client.hub .finishCatchUp⟩
  | true =>
      rw [introduce_of_asks asks]
      split
      · exact ⟨Or.inr rfl, client.hub.made_call id _,
          fun other differs => FeedHub.feed?_call_of_ne differs client.hub _⟩
      · refine ⟨Or.inr rfl, ?_, fun other differs => ?_⟩
        · exact (FeedHub.made_call _ id .finishCatchUp).trans (client.hub.made_call id _)
        · exact (FeedHub.feed?_call_of_ne differs _ .finishCatchUp).trans
            (FeedHub.feed?_call_of_ne differs client.hub _)

/-- A subscription is not made, or it is made and introduced, and forgotten if that fails. -/
theorem subscribe_cases (client : Client) (settings : FeedSettings) :
    let id := client.hub.made + 1
    let entered := client.withHub (client.hub.subscribe (client.settle settings)).2
    (∃ error, client.subscribe settings = (.error error, client)) ∨
    (∃ introduced, entered.introduce id = (.ok (), introduced) ∧
      client.subscribe settings = (.ok id, introduced)) ∨
    ∃ error introduced, entered.introduce id = (.error error, introduced) ∧
      client.subscribe settings =
        (.error error, introduced.withHub (introduced.hub.forget id)) := by
  intro id entered
  by_cases none : (client.settle settings).buffer = some 0
  · exact Or.inl ⟨_, by simp only [subscribe, none]; rfl⟩
  · right
    cases introduces : entered.introduce id with
    | mk result introduced =>
        have asked : (client.withHub (client.hub.subscribe (client.settle settings)).2).introduce
            (client.hub.subscribe (client.settle settings)).1 = (result, introduced) := introduces
        cases result with
        | ok _ => exact Or.inl ⟨introduced, rfl, by simp only [subscribe, none, asked]; rfl⟩
        | error error =>
            exact Or.inr ⟨error, introduced, rfl, by simp only [subscribe, none, asked]; rfl⟩

/-- A new subscription leaves all others and, but for remembered horizons, all rooms as they are. -/
theorem subscribe_leaves (client : Client) (settings : FeedSettings) :
    ((client.subscribe settings).2.rooms = client.rooms ∨
      (client.subscribe settings).2.rooms = client.rememberHorizons.rooms) ∧
    client.hub.made ≤ (client.subscribe settings).2.hub.made ∧
    ∀ other, other ≤ client.hub.made →
      (client.subscribe settings).2.hub.feed? other = client.hub.feed? other := by
  let id := client.hub.made + 1
  let entered := client.withHub (client.hub.subscribe (client.settle settings)).2
  have enteredFeed : ∀ other, other ≤ client.hub.made →
      id ≠ other ∧ entered.hub.feed? other = client.hub.feed? other := by
    intro other known
    have differs : id ≠ other := Nat.ne_of_gt (Nat.lt_succ_of_le known)
    exact ⟨differs, FeedHub.feed?_put_of_ne differs client.hub _⟩
  have enteredMade : client.hub.made ≤ entered.hub.made := Nat.le_succ client.hub.made
  obtain ⟨rooms, made, others⟩ := entered.introduce_cases id
  rcases client.subscribe_cases settings with
    ⟨error, refused⟩ | ⟨introduced, success, subscribed⟩ | ⟨error, introduced, failure, subscribed⟩
  · rw [refused]
    exact ⟨Or.inl rfl, Nat.le_refl _, fun _ _ => rfl⟩
  · rw [success] at rooms made others
    rw [subscribed]
    refine ⟨rooms, made ▸ enteredMade, fun other known => ?_⟩
    obtain ⟨differs, same⟩ := enteredFeed other known
    exact (others other differs).trans same
  · rw [failure] at rooms made others
    rw [subscribed]
    refine ⟨rooms, made ▸ enteredMade, fun other known => ?_⟩
    obtain ⟨differs, same⟩ := enteredFeed other known
    exact (FeedHub.feed?_forget_of_ne differs introduced.hub).trans
      ((others other differs).trans same)

/-- What every room keeps is kept by every request to a client. -/
theorem Houses.serve
    (houses : client.Houses holds)
    (invariant : Room.Invariant given holds)
    (gives : ∀ event ∈ client.offers request, given event.content) :
    (client.serve request).Houses holds := by
  cases announced : request.isAnnounced with
  | true =>
      obtain ⟨notices, announces⟩ := serve_announces houses.filed announced gives
      exact announces.houses invariant houses
  | false =>
      cases request with
      | openLocalRoom now id =>
          have made := invariant.clientOnly (client.timelinesMade + 1) id client.settings.user
            client.settings.timeline now (gives _ List.mem_cons_self)
          rw [Client.serve, openLocalRoom]
          split
          · exact houses
          · exact (houses.putRoom made).of_rooms rfl
      | forgetRoom id =>
          have found : ∀ other room, (client.forgetRoom id).2.room? other = some room →
              client.room? other = some room := by
            intro other room present
            rw [forgetRoom, room?, Std.ExtTreeMap.getElem?_erase] at present
            split at present
            · cases present
            · exact present
          exact ⟨fun other room present => houses.filed other room (found other room present),
            fun other room present => houses.holds other room (found other room present)⟩
      | subscribe settings =>
          rcases (client.subscribe_leaves settings).1 with same | remembered
          · exact houses.of_rooms same
          · exact (houses.rememberHorizons invariant).of_rooms remembered
      | feed id use => exact houses.of_rooms rfl
      | room id own =>
          rw [Client.serve]
          cases present : client.room? id with
          | none => exact houses
          | some room =>
              rw [offers, offersTo, present] at gives
              exact houses.putRoom (invariant.serve room own (houses.holds id room present) gives)
      | ensureRoom id => cases announced
      | insert now id events => cases announced
      | deliver now sync => cases announced
      | fetchPage now id server direction limit => cases announced
      | confirm now id transaction eventId => cases announced
      | forgetState id type => cases announced

theorem Houses.serveAll
    {requests : List Request}
    (houses : client.Houses holds)
    (invariant : Room.Invariant given holds)
    (gives : ∀ event ∈ client.offered requests, given event.content) :
    (client.serveAll requests).Houses holds := by
  induction requests generalizing client with
  | nil => exact houses
  | cons request rest hypothesis =>
      rw [offered, List.forall_mem_append] at gives
      exact hypothesis (houses.serve invariant gives.1) gives.2

theorem filed_serve (filed : client.Filed) (request : Request) : (client.serve request).Filed := by
  have invariant : Room.Invariant (fun _ => True) (fun _ => True) :=
    ⟨fun _ _ _ _ => trivial, fun _ _ _ _ _ _ => trivial, fun _ _ _ _ => trivial⟩
  have houses : client.Houses (fun _ => True) := ⟨filed, fun _ _ _ => trivial⟩
  exact (houses.serve invariant fun _ _ => trivial).filed

/-- Every room stays filed under its own id. -/
theorem filed_serveAll
    (filed : client.Filed)
    (requests : List Request) :
    (client.serveAll requests).Filed := by
  induction requests generalizing client with
  | nil => exact filed
  | cons request rest hypothesis => exact hypothesis (filed_serve filed request)

end

end Client

end RoomHistory
