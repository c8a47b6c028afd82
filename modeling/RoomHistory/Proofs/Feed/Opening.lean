import RoomHistory.Proofs.Feed.Isolation

/-!
# Opening a subscription

Whether a new subscription can be told what it wants to know first depends on nothing but the places
of its stream: one for each view that it wants, and one for the mark that it is caught up.
Subscriptions are numbered as they are made, so that a new one is never one that is there.
-/

namespace RoomHistory

namespace Feed

section

variable {feed : Feed}

/-- Showing views does not send the receiver away. -/
theorem hasReceiver_sendViews (feed : Feed) (rooms : List RoomView) :
    (feed.sendViews rooms).stream.hasReceiver = feed.stream.hasReceiver := by
  induction rooms generalizing feed with
  | nil => rfl
  | cons view rest hypothesis =>
      rw [sendViews]
      split
      · by_cases accepts : feed.stream.accepts = true
        · rw [send?_of_accepts accepts]
          exact hypothesis (feed.sent (.view view))
        · rw [Bool.not_eq_true] at accepts
          rw [send?_of_full accepts]
          rfl
      · exact hypothesis feed

/-- The views that a subscription wants to be shown. -/
def viewsWanted (feed : Feed) (rooms : List RoomView) : List Notice :=
  (rooms.map Notice.view).filter feed.settings.filter.wants

/-- A subscription stays registered while it is shown views exactly if its stream has a place for
each of those that it wants; then all of them wait. -/
theorem isRegistered_sendViews_iff
    (registered : feed.isRegistered = true)
    (receiving : feed.stream.hasReceiver = true)
    (fits : feed.stream.waiting.length ≤ feed.stream.capacity)
    (rooms : List RoomView) :
    (feed.sendViews rooms).isRegistered = true ↔
      feed.stream.waiting.length + (feed.viewsWanted rooms).length ≤ feed.stream.capacity := by
  obtain ⟨⟨sent, sends⟩, continues, -⟩ := sendViews_sends registered rooms
  have stillFits := continues.fits fits
  rw [sends.waiting, continues.capacity, List.length_append] at stillFits
  constructor
  · intro stays
    rw [sends.whole stays] at stillFits
    exact stillFits
  · intro places
    cases stays : (feed.sendViews rooms).isRegistered with
    | true => rfl
    | false =>
        have lost : sent.length < (feed.viewsWanted rooms).length := sends.lost stays
        rcases (NoticeStream.accepts_eq_false_iff _).mp (sends.full stays) with gone | full
        · rw [hasReceiver_sendViews, receiving] at gone
          cases gone
        · rw [sends.waiting, continues.capacity, List.length_append] at full
          omega

/-- After that the stream takes one more notice exactly if there is a place left. -/
theorem accepts_sendViews_iff
    (registered : feed.isRegistered = true)
    (receiving : feed.stream.hasReceiver = true)
    {rooms : List RoomView}
    (stays : (feed.sendViews rooms).isRegistered = true) :
    (feed.sendViews rooms).stream.accepts = true ↔
      feed.stream.waiting.length + (feed.viewsWanted rooms).length < feed.stream.capacity := by
  obtain ⟨⟨sent, sends⟩, continues, -⟩ := sendViews_sends registered rooms
  rw [NoticeStream.accepts, hasReceiver_sendViews, receiving, Bool.true_and, decide_eq_true_eq,
    sends.waiting, sends.whole stays, List.length_append, continues.capacity]
  rfl

end

end Feed

namespace FeedHub

section

variable {hub : FeedHub} {id : FeedId} {feed : Feed}

theorem sendViews_result
    (present : hub.feed? id = some feed)
    (registered : feed.isRegistered = true)
    (rooms : List RoomView) :
    (hub.sendViews id rooms).1 =
      if (feed.sendViews rooms).isRegistered then .ok () else .error .subscriptionEnded := by
  rw [sendViews, registered?_of_feed? present, if_pos registered]

theorem finishCatchUp_result
    (present : hub.feed? id = some feed)
    (registered : feed.isRegistered = true) :
    (hub.finishCatchUp id).1 =
      if feed.stream.accepts then .ok () else .error .subscriptionEnded := by
  rw [finishCatchUp, registered?_of_feed? present, if_pos registered]
  let marked : Feed := { feed with isCaughtUp := true }
  have sameStream : marked.stream.accepts = feed.stream.accepts := rfl
  cases accepts : feed.stream.accepts with
  | true =>
      have sends : feed.finishCatchUp? = some (marked.sent .caughtUp) :=
        Feed.send?_of_accepts (sameStream.trans accepts) .caughtUp
      simp only [sends]
      rfl
  | false =>
      have fails : feed.finishCatchUp? = none :=
        Feed.send?_of_full (sameStream.trans accepts) .caughtUp
      simp only [fails]
      rfl

/-- A call about a subscription that is not there changes nothing. -/
theorem call_of_absent (absent : hub.feed? id = none) (call : Feed.Call) :
    hub.call id call = hub := by
  have unregistered : hub.registered? id = none := by
    rw [registered?, absent]
    rfl
  have unreceived : hub.received? id = none := by
    rw [received?, absent]
    rfl
  cases call with
  | sendViews rooms => rw [FeedHub.call, sendViews, unregistered]
  | finishCatchUp => rw [FeedHub.call, finishCatchUp, unregistered]
  | unsubscribe => rw [FeedHub.call, unsubscribe, unregistered]
  | receive =>
      rw [FeedHub.call, receive?, unreceived]
      rfl
  | drain =>
      rw [FeedHub.call, drain?, unreceived]
      rfl
  | abandon =>
      rw [FeedHub.call, abandon?, unreceived]
      rfl

/-- No subscription has a number that was not given out. -/
def Numbered (hub : FeedHub) : Prop :=
  ∀ id, hub.made < id → hub.feed? id = none

theorem numbered_empty : empty.Numbered := fun id _ => by
  simp [empty, feed?]

theorem Numbered.call (numbered : hub.Numbered) (id : FeedId) (call : Feed.Call) :
    (hub.call id call).Numbered := by
  intro other unknown
  rw [made_call] at unknown
  by_cases same : id = other
  · subst same
    have absent := numbered id unknown
    rw [call_of_absent absent]
    exact absent
  · rw [feed?_call_of_ne same]
    exact numbered other unknown

theorem Numbered.tellEach (numbered : hub.Numbered) (notices : List Notice) :
    (hub.tellEach notices).Numbered := by
  intro id unknown
  rw [made_tellEach] at unknown
  rw [feed?_tellEach, numbered id unknown]
  rfl

/-- The next number may be given to a new subscription. -/
theorem Numbered.next
    {later : FeedHub}
    (numbered : hub.Numbered)
    (made : later.made = hub.made + 1)
    (others : ∀ other, hub.made + 1 ≠ other → later.feed? other = hub.feed? other) :
    later.Numbered := by
  intro id unknown
  rw [made] at unknown
  rw [others id (Nat.ne_of_lt unknown)]
  exact numbered id (Nat.lt_of_succ_lt unknown)

theorem feed?_forget_self (hub : FeedHub) (id : FeedId) : (hub.forget id).feed? id = none := by
  simp [forget, feed?]

theorem Numbered.forget (numbered : hub.Numbered) (id : FeedId) : (hub.forget id).Numbered := by
  intro other unknown
  by_cases same : id = other
  · rw [same]
    exact hub.feed?_forget_self other
  · rw [feed?_forget_of_ne same]
    exact numbered other unknown

/-- A subscription that was made and forgotten leaves no trace but its number. -/
theorem feeds_forget_subscribed
    {later : FeedHub}
    (numbered : hub.Numbered)
    (others : ∀ other, hub.made + 1 ≠ other → later.feed? other = hub.feed? other) :
    (later.forget (hub.made + 1)).feeds = hub.feeds := by
  apply Std.ExtTreeMap.ext_getElem?
  intro other
  show (later.forget (hub.made + 1)).feed? other = hub.feed? other
  by_cases same : hub.made + 1 = other
  · subst same
    rw [numbered _ (Nat.lt_succ_self hub.made)]
    exact later.feed?_forget_self _
  · rw [feed?_forget_of_ne same]
    exact others other same

end

end FeedHub

end RoomHistory
