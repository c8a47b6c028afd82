import RoomHistory.Event.Completion

/-!
# What completion fills

An arrival fills the gaps of an event and leaves alone what is there: the room, the time and, under
a sync, the local user's membership.  So what one arrival filled no other one changes, and the same
arrival finds nothing left to fill.
-/

namespace RoomHistory

namespace Event

variable {event : Event} {arrival : Arrival}

/-- A later form of an event: what was there is as it was, and only the room, the time and the
membership may have come. -/
structure Fills (later event : Event) : Prop where
  others : later = { event with
    room := later.room
    sentAt := later.sentAt
    membership := later.membership }
  room : ∀ room ∈ event.room, later.room = some room
  sentAt : ∀ time ∈ event.sentAt, later.sentAt = some time
  membership : ∀ told ∈ event.membership, later.membership = some told

/-- An arrival tells the membership of an event: it happens under a sync to the local user, whose
membership the event is about, and neither the envelope nor the content tells which it is. -/
structure IsToldBy (event : Event) (arrival : Arrival) (action : Membership) : Prop where
  action : arrival.action = some action
  member : event.type = memberType
  user : arrival.user.isSome = true ∧ event.stateKey = arrival.user
  envelope : event.membership = none
  content : (event.content.member? "membership").bind Json.string? = none

/-- An arrival outside a sync tells no membership. -/
theorem arrivedMembership_of_noAction (outside : arrival.action = none) :
    event.arrivedMembership arrival = event.membership := by
  rw [arrivedMembership, outside]

theorem lacksMembershipOf_iff (event : Event) (user : UserId) :
    event.lacksMembershipOf user = true ↔
      event.type = memberType ∧ event.stateKey = some user ∧ event.membershipName? = none := by
  simp [lacksMembershipOf, and_assoc]

theorem membershipName?_eq_none_iff (event : Event) :
    event.membershipName? = none ↔
      event.membership = none ∧ (event.content.member? "membership").bind Json.string? = none := by
  rw [membershipName?]
  cases event.membership <;> simp

/-- Unless an arrival tells the membership of an event, it leaves it as it is. -/
theorem arrivedMembership_cases (event : Event) (arrival : Arrival) :
    event.arrivedMembership arrival = event.membership ∨
      ∃ told, event.arrivedMembership arrival = some told ∧ event.IsToldBy arrival told := by
  unfold arrivedMembership
  split
  next action user isAction isUser =>
    split
    next lacks =>
      obtain ⟨member, own, noName⟩ := (event.lacksMembershipOf_iff user).mp lacks
      obtain ⟨envelope, content⟩ := event.membershipName?_eq_none_iff.mp noName
      refine Or.inr ⟨action, rfl, isAction, member, ?_, envelope, content⟩
      rw [isUser]
      exact ⟨rfl, own⟩
    next _ => exact Or.inl rfl
  next _ => exact Or.inl rfl

theorem IsToldBy.arrivedMembership_eq
    {action : Membership}
    (told : event.IsToldBy arrival action) :
    event.arrivedMembership arrival = some action := by
  obtain ⟨user, isUser⟩ := Option.isSome_iff_exists.mp told.user.1
  have own : event.stateKey = some user := told.user.2.trans isUser
  have noName := event.membershipName?_eq_none_iff.mpr ⟨told.envelope, told.content⟩
  have lacks := (event.lacksMembershipOf_iff user).mpr ⟨told.member, own, noName⟩
  rw [arrivedMembership, told.action, isUser]
  exact if_pos lacks

theorem complete_fills (event : Event) (arrival : Arrival) :
    (event.complete arrival).Fills event where
  others := rfl
  room room present := by
    rw [complete_room, Option.mem_def.mp present]
    rfl
  sentAt time present := by
    rw [complete_sentAt, Option.mem_def.mp present]
    rfl
  membership told present := by
    rcases event.arrivedMembership_cases arrival with same | ⟨_, _, isTold⟩
    · exact same.trans present
    · exact absurd (isTold.envelope.symm.trans present) (Option.some_ne_none told).symm

/-- An arrival tells a membership to the same events before and after another one, but for those
that the other one has told. -/
theorem IsToldBy.of_complete
    {first : Arrival}
    {action : Membership}
    (told : (event.complete first).IsToldBy arrival action) :
    event.IsToldBy arrival action where
  action := told.action
  member := told.member
  user := told.user
  envelope := by
    cases present : event.membership with
    | none => rfl
    | some own =>
        have stays := (event.complete_fills first).membership own present
        exact absurd (told.envelope.symm.trans stays) (Option.some_ne_none own).symm
  content := told.content

/-- What an arrival has completed is complete for it. -/
theorem complete_complete (event : Event) (arrival : Arrival) :
    (event.complete arrival).complete arrival = event.complete arrival := by
  have room : (event.room.or arrival.room).or arrival.room = event.room.or arrival.room := by
    rw [Option.or_assoc, Option.or_self]
  have membership : (event.complete arrival).arrivedMembership arrival =
      event.arrivedMembership arrival := by
    rcases (event.complete arrival).arrivedMembership_cases arrival with
      same | ⟨told, again, isTold⟩
    · exact same
    · rw [again, isTold.of_complete.arrivedMembership_eq]
  unfold complete at membership ⊢
  rw [membership]
  simp only [room, Option.getD_some]

/-- A membership comes to an event that had none exactly by an arrival that tells it. -/
theorem membership_comes_iff (event : Event) (arrival : Arrival) (action : Membership) :
    event.membership = none ∧ (event.complete arrival).membership = some action ↔
      event.IsToldBy arrival action := by
  constructor
  · rintro ⟨absent, comes⟩
    rcases event.arrivedMembership_cases arrival with same | ⟨told, arrived, isTold⟩
    · exact absurd (absent.symm.trans (same.symm.trans comes)) (Option.some_ne_none action).symm
    · have sameTold : told = action := Option.some.inj (arrived.symm.trans comes)
      exact sameTold ▸ isTold
  · exact fun told => ⟨told.envelope, told.arrivedMembership_eq⟩

end Event

end RoomHistory
