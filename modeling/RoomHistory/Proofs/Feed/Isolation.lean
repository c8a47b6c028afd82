import RoomHistory.Proofs.Feed.Delivery

/-!
# Subscriptions do not disturb each other

Whatever is asked of a hub, what one subscription becomes and what its receiver gets depend only
on its settings and on those requests that are about it: its own ones and the changes that are told
to all.  So every subscription fares as if it were alone, and its receiver gets what is due without
gaps, however many others there are and however slowly they are read.
-/

namespace RoomHistory

/-- What a receiver found that is a notice. -/
def Reception.notices : Reception → List Notice
  | .notice found => [found]
  | .empty | .disconnected => []

namespace FeedHub

/-- A change that the owner of a hub tells to all subscriptions. -/
inductive Change where
  /-- A batch entered a timeline. -/
  | insertion (room : RoomId) (outcome : Outcome)
  /-- State of a type was forgotten. -/
  | forgotten (room : RoomId) (type : String)
  /-- The local user has a new membership. -/
  | moved (room : RoomId) (membership : Membership)

/-- The notice of a change, if there is anything to tell. -/
def Change.notice? : Change → Option Notice
  | .insertion room outcome => Notice.ofOutcome? room outcome
  | .forgotten room type => some (.stateInvalidated room type)
  | .moved room membership => some (.membership room membership)

/-- What may be asked of a hub, by its owner or by a receiver. -/
inductive Request where
  | subscribe (settings : FeedSettings)
  | call (id : FeedId) (call : Feed.Call)
  | tell (change : Change)

/-- The hub after a call about one subscription. -/
def call (hub : FeedHub) (id : FeedId) : Feed.Call → FeedHub
  | .sendViews rooms => (hub.sendViews id rooms).2
  | .finishCatchUp => (hub.finishCatchUp id).2
  | .unsubscribe => hub.unsubscribe id
  | .receive => ((hub.receive? id).map Prod.snd).getD hub
  | .drain => ((hub.drain? id).map Prod.snd).getD hub
  | .abandon => (hub.abandon? id).getD hub

/-- The hub after a change was told. -/
def tell (hub : FeedHub) : Change → FeedHub
  | .insertion room outcome => hub.tellInsertion room outcome
  | .forgotten room type => hub.tellAll (.stateInvalidated room type)
  | .moved room membership => hub.tellAll (.membership room membership)

/-- The hub after a request. -/
def serve (hub : FeedHub) : Request → FeedHub
  | .subscribe settings => (hub.subscribe settings).2
  | .call id call => hub.call id call
  | .tell change => hub.tell change

/-- The hub after several requests. -/
def serveAll (hub : FeedHub) (requests : List Request) : FeedHub :=
  requests.foldl serve hub

/-- What a receiver gets by a call about its subscription. -/
def callReceipts (hub : FeedHub) (id : FeedId) : Feed.Call → List Notice
  | .receive => ((hub.receive? id).map fun found => found.1.notices).getD []
  | .drain => ((hub.drain? id).map Prod.fst).getD []
  | .sendViews _ | .finishCatchUp | .unsubscribe | .abandon => []

/-- What the receiver of a subscription gets by a request. -/
def receipts (hub : FeedHub) (id : FeedId) : Request → List Notice
  | .call other call => if other = id then hub.callReceipts id call else []
  | .subscribe _ | .tell _ => []

/-- What the receiver of a subscription gets by several requests. -/
def received (hub : FeedHub) (id : FeedId) : List Request → List Notice
  | [] => []
  | request :: rest => hub.receipts id request ++ (hub.serve request).received id rest

/-- What a request is to one subscription, if it is anything to it. -/
def Request.concerning? (id : FeedId) : Request → Option Feed.Request
  | .call other own => if other = id then some (.call own) else none
  | .tell change => change.notice?.map .tell
  | .subscribe _ => none

section

variable {hub : FeedHub} {id : FeedId} {feed : Feed}

theorem registered?_of_feed? (present : hub.feed? id = some feed) :
    hub.registered? id = if feed.isRegistered then some feed else none := by
  rw [registered?, present, Option.filter_some]

theorem received?_of_feed? (present : hub.feed? id = some feed) :
    hub.received? id = if feed.stream.hasReceiver then some feed else none := by
  rw [received?, present, Option.filter_some]

/-- A call replaces the subscription that it is about, or nothing. -/
theorem call_cases (hub : FeedHub) (id : FeedId) (call : Feed.Call) :
    hub.call id call = hub ∨ ∃ later, hub.call id call = hub.put id later := by
  cases call with
  | sendViews rooms =>
      rw [FeedHub.call, sendViews]
      split
      · exact Or.inr ⟨_, rfl⟩
      · exact Or.inl rfl
  | finishCatchUp =>
      rw [FeedHub.call, finishCatchUp]
      split
      · split
        · exact Or.inr ⟨_, rfl⟩
        · exact Or.inr ⟨_, rfl⟩
      · exact Or.inl rfl
  | unsubscribe =>
      rw [FeedHub.call, unsubscribe]
      split
      · exact Or.inr ⟨_, rfl⟩
      · exact Or.inl rfl
  | receive =>
      rw [FeedHub.call, receive?]
      cases hub.received? id with
      | none => exact Or.inl rfl
      | some feed =>
          rw [Option.map_some, Option.map_some, Option.getD_some]
          split
          · exact Or.inr ⟨_, rfl⟩
          · exact Or.inl rfl
  | drain =>
      rw [FeedHub.call, drain?]
      cases hub.received? id with
      | none => exact Or.inl rfl
      | some feed => exact Or.inr ⟨_, rfl⟩
  | abandon =>
      rw [FeedHub.call, abandon?]
      cases hub.received? id with
      | none => exact Or.inl rfl
      | some feed => exact Or.inr ⟨_, rfl⟩

@[simp] theorem made_call (hub : FeedHub) (id : FeedId) (call : Feed.Call) :
    (hub.call id call).made = hub.made := by
  rcases hub.call_cases id call with same | ⟨later, replaced⟩
  · rw [same]
  · rw [replaced]
    rfl

theorem feed?_call_of_ne
    {other : FeedId}
    (differs : other ≠ id)
    (hub : FeedHub)
    (call : Feed.Call) :
    (hub.call other call).feed? id = hub.feed? id := by
  rcases hub.call_cases other call with same | ⟨later, replaced⟩
  · rw [same]
  · rw [replaced, feed?_put_of_ne differs]

/-- The hub after several changes were told. -/
def tellEach (hub : FeedHub) (notices : List Notice) : FeedHub :=
  notices.foldl tellAll hub

@[simp] theorem made_tellEach (hub : FeedHub) (notices : List Notice) :
    (hub.tellEach notices).made = hub.made := by
  induction notices generalizing hub with
  | nil => rfl
  | cons notice rest hypothesis => exact hypothesis (hub.tellAll notice)

/-- What a subscription becomes by changes that are told depends on no other subscription. -/
@[simp] theorem feed?_tellEach (hub : FeedHub) (notices : List Notice) (id : FeedId) :
    (hub.tellEach notices).feed? id = (hub.feed? id).map (·.tellEach notices) := by
  induction notices generalizing hub with
  | nil => exact Option.map_id'.symm
  | cons notice rest hypothesis =>
      show ((hub.tellAll notice).tellEach rest).feed? id = _
      rw [hypothesis, feed?_tellAll, Option.map_map]
      rfl

theorem tellEach_append (hub : FeedHub) (notices noticesThen : List Notice) :
    hub.tellEach (notices ++ noticesThen) = (hub.tellEach notices).tellEach noticesThen :=
  List.foldl_append

theorem tellInsertion_eq (hub : FeedHub) (room : RoomId) (outcome : Outcome) :
    hub.tellInsertion room outcome = hub.tellEach (Notice.ofOutcome? room outcome).toList := by
  rw [tellInsertion]
  cases Notice.ofOutcome? room outcome <;> rfl

theorem feed?_forget_of_ne
    {other : FeedId}
    (differs : other ≠ id)
    (hub : FeedHub) :
    (hub.forget other).feed? id = hub.feed? id := by
  simp [forget, feed?, Std.ExtTreeMap.getElem?_erase, differs]

/-- What a subscription becomes, and its receiver gets, by a call about it. -/
theorem call_own
    (present : hub.feed? id = some feed)
    (call : Feed.Call) :
    (hub.call id call).feed? id = some (feed.serve (.call call)) ∧
      hub.callReceipts id call = feed.receipts (.call call) := by
  have registered := registered?_of_feed? present
  have receiving := received?_of_feed? present
  cases call with
  | sendViews rooms =>
      refine ⟨?_, rfl⟩
      rw [FeedHub.call, sendViews, registered, Feed.serve]
      by_cases isRegistered : feed.isRegistered = true
      · rw [if_pos isRegistered, if_pos isRegistered]
        exact feed?_put_self hub id _
      · rw [if_neg isRegistered, if_neg isRegistered]
        exact present
  | finishCatchUp =>
      refine ⟨?_, rfl⟩
      rw [FeedHub.call, finishCatchUp, registered, Feed.serve]
      by_cases isRegistered : feed.isRegistered = true
      · rw [if_pos isRegistered, if_pos isRegistered]
        cases marked : feed.finishCatchUp? with
        | some caughtUp => simp [marked]
        | none => simp [marked]
      · rw [if_neg isRegistered, if_neg isRegistered]
        exact present
  | unsubscribe =>
      refine ⟨?_, rfl⟩
      rw [FeedHub.call, unsubscribe, registered, Feed.serve]
      by_cases isRegistered : feed.isRegistered = true
      · rw [if_pos isRegistered, if_pos isRegistered]
        exact feed?_put_self hub id _
      · rw [if_neg isRegistered, if_neg isRegistered]
        exact present
  | receive =>
      rw [FeedHub.call, callReceipts, receive?, receiving]
      obtain ⟨settings, ⟨capacity, waiting, hasReceiver⟩, isRegistered, isCaughtUp⟩ := feed
      cases hasReceiver with
      | false => exact ⟨present, rfl⟩
      | true =>
          cases waiting with
          | nil => cases isRegistered <;> exact ⟨present, rfl⟩
          | cons notice rest => exact ⟨feed?_put_self hub id _, rfl⟩
  | drain =>
      rw [FeedHub.call, callReceipts, drain?, receiving]
      obtain ⟨settings, ⟨capacity, waiting, hasReceiver⟩, isRegistered, isCaughtUp⟩ := feed
      cases hasReceiver with
      | false => exact ⟨present, rfl⟩
      | true =>
          simp [Feed.serve, Feed.pass, Feed.withStream, Feed.taken, Feed.receipts,
            NoticeStream.drain]
  | abandon =>
      refine ⟨?_, rfl⟩
      rw [FeedHub.call, abandon?, receiving]
      obtain ⟨settings, ⟨capacity, waiting, hasReceiver⟩, isRegistered, isCaughtUp⟩ := feed
      cases hasReceiver with
      | false => exact present
      | true => exact feed?_put_self hub id _

theorem tell_eq (hub : FeedHub) (change : Change) :
    hub.tell change = (change.notice?.map hub.tellAll).getD hub := by
  cases change with
  | insertion room outcome =>
      rw [tell, tellInsertion, Change.notice?]
      cases Notice.ofOutcome? room outcome <;> rfl
  | forgotten room type => rfl
  | moved room membership => rfl

/-- What a subscription becomes, and its receiver gets, by any request. -/
theorem serve_concerning
    (present : hub.feed? id = some feed)
    (known : id ≤ hub.made)
    (request : Request) :
    (hub.serve request).feed? id =
        some ((request.concerning? id).elim feed feed.serve) ∧
      hub.receipts id request = (request.concerning? id).elim [] feed.receipts ∧
      id ≤ (hub.serve request).made := by
  cases request with
  | subscribe settings =>
      have differs : hub.made + 1 ≠ id := Nat.ne_of_gt (Nat.lt_succ_of_le known)
      refine ⟨?_, rfl, Nat.le_succ_of_le known⟩
      exact (feed?_put_of_ne differs hub _).trans present
  | call other call =>
      rw [serve, receipts, Request.concerning?, made_call]
      by_cases same : other = id
      · subst same
        rw [if_pos rfl, if_pos rfl]
        exact ⟨(call_own present call).1, (call_own present call).2, known⟩
      · rw [if_neg same, if_neg same, feed?_call_of_ne same]
        exact ⟨present, rfl, known⟩
  | tell change =>
      rw [serve, tell_eq, Request.concerning?]
      cases change.notice? with
      | none => exact ⟨present, rfl, known⟩
      | some notice =>
          refine ⟨?_, rfl, known⟩
          show (hub.tellAll notice).feed? id = some (feed.tell notice)
          rw [feed?_tellAll, present, Option.map_some]

/-- By any requests a subscription becomes, and its receiver gets, what it would alone. -/
theorem serveAll_concerning
    (present : hub.feed? id = some feed)
    (known : id ≤ hub.made)
    (requests : List Request) :
    (hub.serveAll requests).feed? id =
        some (feed.run (requests.filterMap (·.concerning? id))).2 ∧
      hub.received id requests = (feed.run (requests.filterMap (·.concerning? id))).1 := by
  induction requests generalizing hub feed with
  | nil => exact ⟨present, rfl⟩
  | cons request rest hypothesis =>
      obtain ⟨became, got, stillKnown⟩ := serve_concerning present known request
      obtain ⟨last, gotThen⟩ := hypothesis became stillKnown
      rw [List.filterMap_cons]
      show ((hub.serve request).serveAll rest).feed? id = _ ∧
        hub.receipts id request ++ (hub.serve request).received id rest = _
      rw [last, gotThen, got]
      cases request.concerning? id with
      | none => exact ⟨rfl, rfl⟩
      | some own => exact ⟨rfl, rfl⟩

end

/-- After any requests, a subscription has become what it would be alone, and its receiver has got
the same.  What the receiver got, followed by what waits, is a beginning of what was due, the whole
of it while the subscription is registered, and no more waits than the stream may hold.  Only by
its own end or by a notice that was lost is a subscription registered no longer, and none is lost
while its stream accepts it. -/
theorem serveAll_delivers
    (earlier : List Request)
    (settings : FeedSettings)
    (requests : List Request) :
    let id := ((empty.serveAll earlier).subscribe settings).1
    let hub := ((empty.serveAll earlier).subscribe settings).2
    let own := requests.filterMap (·.concerning? id)
    let received := hub.received id requests
    let due := Feed.due settings.filter false own
    let alone := fun done => ((Feed.ofSettings settings).run done).2
    ∃ feed, (hub.serveAll requests).feed? id = some feed ∧
      (received, feed) = (Feed.ofSettings settings).run own ∧
      received ++ feed.stream.waiting <+: due ∧
      (feed.isRegistered = true → received ++ feed.stream.waiting = due) ∧
      (feed.isRegistered = false →
        .call .unsubscribe ∈ own ∨ (received ++ feed.stream.waiting).length < due.length) ∧
      (∀ done request, done ++ [request] <+: own → (alone done).isRegistered = true →
        (alone (done ++ [request])).isRegistered = false →
          request = .call .unsubscribe ∨ (alone (done ++ [request])).stream.accepts = false) ∧
      feed.stream.waiting.length ≤ settings.buffer.getD FeedSettings.standardBuffer := by
  intro id hub own received due alone
  have present : hub.feed? id = some (Feed.ofSettings settings) := feed?_put_self _ id _
  obtain ⟨became, got⟩ := serveAll_concerning present (Nat.le_refl id) requests
  have registered : (Feed.ofSettings settings).isRegistered = true := rfl
  have delivers := Feed.run_delivers registered own
  have removes : ∀ done request, done ++ [request] <+: own → (alone done).isRegistered = true →
      (alone (done ++ [request])).isRegistered = false →
        request = .call .unsubscribe ∨ (alone (done ++ [request])).stream.accepts = false := by
    intro done request _ before after
    have served : alone (done ++ [request]) = (alone done).serve request :=
      Feed.run_concat _ done request
    rw [served] at after ⊢
    exact Feed.serve_removes before after
  have sameReceived : received = ((Feed.ofSettings settings).run own).1 := got
  refine ⟨_, became, Prod.ext sameReceived rfl, ?_⟩
  rw [sameReceived]
  exact ⟨delivers.isPrefix, delivers.whole, delivers.cause, removes, Feed.run_bounded settings own⟩

end FeedHub

end RoomHistory
