import RoomHistory.Feed.Hub

/-!
# What reaches one subscriber

A subscription is due a sequence of notices: the views it is shown, the mark that it is caught up,
the changes that are told while it is marked so, and the farewell when it is ended.  What its
receiver got, followed by what still waits, is always a beginning of that sequence, and it is all
of it as long as the subscription is registered.  The one send that fails ends the subscription,
so nothing follows a notice that was lost.
-/

namespace RoomHistory

namespace NoticeStream

theorem send?_of_accepts
    {stream : NoticeStream}
    (accepts : stream.accepts = true)
    (notice : Notice) :
    stream.send? notice = some { stream with waiting := stream.waiting ++ [notice] } := by
  rw [send?, if_pos accepts]

theorem send?_of_full
    {stream : NoticeStream}
    (full : stream.accepts = false)
    (notice : Notice) :
    stream.send? notice = none := by
  rw [send?, full]
  rfl

/-- A stream does not accept a notice when it is full or nobody receives. -/
theorem accepts_eq_false_iff (stream : NoticeStream) :
    stream.accepts = false ↔
      stream.hasReceiver = false ∨ stream.capacity ≤ stream.waiting.length := by
  unfold accepts
  cases stream.hasReceiver <;> simp

theorem length_lt_of_accepts
    {stream : NoticeStream}
    (accepts : stream.accepts = true) :
    stream.waiting.length < stream.capacity := by
  unfold NoticeStream.accepts at accepts
  simp only [Bool.and_eq_true, decide_eq_true_eq] at accepts
  exact accepts.2

end NoticeStream

namespace Feed

/-- What may be asked about one subscription. -/
inductive Call where
  /-- It is shown what rooms are like. -/
  | sendViews (rooms : List RoomView)
  /-- It is marked as caught up. -/
  | finishCatchUp
  /-- It is ended. -/
  | unsubscribe
  /-- Its receiver takes the next notice, if one waits. -/
  | receive
  /-- Its receiver takes all notices that wait. -/
  | drain
  /-- Its receiver goes. -/
  | abandon

/-- What can happen to a subscription that was made. -/
inductive Request where
  | call (call : Call)
  /-- A change is told to whoever wants it. -/
  | tell (notice : Notice)

/-- The subscription after its stream has passed on. -/
def withStream (feed : Feed) (stream : NoticeStream) : Feed :=
  { feed with stream := stream }

/-- How many of the notices that wait the receiver takes by a call. -/
def taken (feed : Feed) : Call → Nat
  | .receive => if feed.stream.hasReceiver then 1 else 0
  | .drain => if feed.stream.hasReceiver then feed.stream.waiting.length else 0
  | .sendViews _ | .finishCatchUp | .unsubscribe | .abandon => 0

/-- What the receiver gets by a request. -/
def receipts (feed : Feed) : Request → List Notice
  | .call call => feed.stream.waiting.take (feed.taken call)
  | .tell _ => []

/-- The subscription after its receiver has taken some notices. -/
def pass (feed : Feed) (count : Nat) : Feed :=
  feed.withStream { feed.stream with waiting := feed.stream.waiting.drop count }

/-- The subscription after a request. -/
def serve (feed : Feed) : Request → Feed
  | .call (.sendViews rooms) => if feed.isRegistered then feed.sendViews rooms else feed
  | .call .finishCatchUp =>
      if feed.isRegistered then feed.finishCatchUp?.getD feed.remove else feed
  | .call .unsubscribe => if feed.isRegistered then feed.close .unsubscribed else feed
  | .call .receive => feed.pass (feed.taken .receive)
  | .call .drain => feed.pass (feed.taken .drain)
  | .call .abandon => feed.withStream feed.stream.abandon
  | .tell notice => feed.tell notice

/-- What the receiver gets by several requests, and the subscription after them. -/
def run (feed : Feed) : List Request → List Notice × Feed
  | [] => ([], feed)
  | request :: rest =>
      let (received, last) := (feed.serve request).run rest
      (feed.receipts request ++ received, last)

/-- What a request makes due to a subscription, which is told of changes if it is marked. -/
def Request.due (filter : FeedFilter) (marked : Bool) : Request → List Notice
  | .call (.sendViews rooms) => (rooms.map Notice.view).filter filter.wants
  | .call .finishCatchUp => [.caughtUp]
  | .call .unsubscribe => [.dropped .unsubscribed]
  | .call .receive | .call .drain | .call .abandon => []
  | .tell notice => if marked && filter.wants notice then [notice] else []

/-- Whether a subscription is marked as caught up after a request. -/
def Request.marks (marked : Bool) : Request → Bool
  | .call .finishCatchUp => true
  | _ => marked

/-- What several requests make due. -/
def due (filter : FeedFilter) : Bool → List Request → List Notice
  | _, [] => []
  | marked, request :: rest => request.due filter marked ++ due filter (request.marks marked) rest

/-- A later state of a subscription: the settings and the bound of the stream are the same. -/
structure Continues (later feed : Feed) : Prop where
  settings : later.settings = feed.settings
  capacity : later.stream.capacity = feed.stream.capacity
  fits : feed.stream.waiting.length ≤ feed.stream.capacity →
    later.stream.waiting.length ≤ later.stream.capacity

theorem Continues.refl (feed : Feed) : feed.Continues feed := ⟨rfl, rfl, id⟩

theorem Continues.trans
    {last later feed : Feed}
    (second : last.Continues later)
    (first : later.Continues feed) :
    last.Continues feed :=
  ⟨second.settings.trans first.settings, second.capacity.trans first.capacity,
    fun fits => second.fits (first.fits fits)⟩

/-- What became of a registered subscription to which some notices were due: it was sent all of
them, or some first ones and is registered no longer. -/
structure Sends (feed later : Feed) (notices sent : List Notice) : Prop where
  waiting : later.stream.waiting = feed.stream.waiting ++ sent
  isPrefix : sent <+: notices
  whole : later.isRegistered = true → sent = notices
  lost : later.isRegistered = false → sent.length < notices.length
  full : later.isRegistered = false → later.stream.accepts = false

section

variable {feed : Feed} {notice : Notice}

/-- The subscription after a notice was sent that its stream accepts. -/
def sent (feed : Feed) (notice : Notice) : Feed :=
  feed.withStream { feed.stream with waiting := feed.stream.waiting ++ [notice] }

theorem send?_of_accepts (accepts : feed.stream.accepts = true) (notice : Notice) :
    feed.send? notice = some (feed.sent notice) := by
  rw [send?, NoticeStream.send?_of_accepts accepts]
  rfl

theorem send?_of_full (full : feed.stream.accepts = false) (notice : Notice) :
    feed.send? notice = none := by
  rw [send?, NoticeStream.send?_of_full full]
  rfl

/-- Whoever cannot be told a change cannot be told the reason either. -/
theorem close_of_full (full : feed.stream.accepts = false) (reason : EndReason) :
    feed.close reason = feed.remove := by
  rw [close, NoticeStream.offer, NoticeStream.send?_of_full full]
  rfl

theorem close_of_accepts (accepts : feed.stream.accepts = true) (reason : EndReason) :
    feed.close reason = (feed.sent (.dropped reason)).remove := by
  rw [close, NoticeStream.offer, NoticeStream.send?_of_accepts accepts]
  rfl

theorem sent_continues (accepts : feed.stream.accepts = true) (notice : Notice) :
    (feed.sent notice).Continues feed := by
  refine ⟨rfl, rfl, fun _ => ?_⟩
  have room := NoticeStream.length_lt_of_accepts accepts
  show (feed.stream.waiting ++ [notice]).length ≤ feed.stream.capacity
  rw [List.length_append]
  exact room

theorem remove_continues (feed : Feed) : feed.remove.Continues feed := ⟨rfl, rfl, id⟩

theorem Sends.nil (registered : feed.isRegistered = true) : feed.Sends feed [] [] where
  waiting := (List.append_nil _).symm
  isPrefix := List.nil_prefix
  whole _ := rfl
  lost removed := absurd (registered.symm.trans removed) (by decide)
  full removed := absurd (registered.symm.trans removed) (by decide)

/-- A notice that is accepted is sent, whatever comes after it. -/
theorem Sends.cons
    {later : Feed}
    {notices sent : List Notice}
    (rest : (feed.sent notice).Sends later notices sent) :
    feed.Sends later (notice :: notices) (notice :: sent) where
  waiting := by
    rw [rest.waiting]
    show feed.stream.waiting ++ [notice] ++ sent = _
    rw [List.append_assoc, List.singleton_append]
  isPrefix := List.cons_prefix_cons.mpr ⟨rfl, rest.isPrefix⟩
  whole registered := by rw [rest.whole registered]
  lost removed := Nat.succ_lt_succ (rest.lost removed)
  full := rest.full

/-- A notice that is not accepted ends the subscription. -/
theorem Sends.removed
    (full : feed.stream.accepts = false)
    (notice : Notice)
    (notices : List Notice) :
    feed.Sends feed.remove (notice :: notices) [] where
  waiting := (List.append_nil _).symm
  isPrefix := List.nil_prefix
  whole registered := absurd registered Bool.false_ne_true
  lost _ := Nat.succ_pos notices.length
  full _ := full

/-- Views that are wanted are sent one after another, up to the first that is not accepted. -/
theorem sendViews_sends
    (registered : feed.isRegistered = true)
    (rooms : List RoomView) :
    (∃ sent, feed.Sends (feed.sendViews rooms)
      ((rooms.map Notice.view).filter feed.settings.filter.wants) sent) ∧
    (feed.sendViews rooms).Continues feed ∧
    (feed.sendViews rooms).isCaughtUp = feed.isCaughtUp := by
  induction rooms generalizing feed with
  | nil => exact ⟨⟨[], .nil registered⟩, .refl feed, rfl⟩
  | cons view rest hypothesis =>
      rw [sendViews, List.map_cons]
      by_cases wanted : feed.settings.filter.wants (.view view) = true
      · rw [wants, if_pos wanted, List.filter_cons_of_pos wanted]
        by_cases accepts : feed.stream.accepts = true
        · have stays : (feed.sent (.view view)).isRegistered = true := registered
          obtain ⟨⟨sent, sends⟩, continues, marked⟩ := hypothesis stays
          rw [send?_of_accepts accepts]
          exact ⟨⟨_, .cons sends⟩, continues.trans (sent_continues accepts _), marked⟩
        · rw [Bool.not_eq_true] at accepts
          rw [send?_of_full accepts]
          exact ⟨⟨[], .removed accepts _ _⟩, remove_continues feed, rfl⟩
      · rw [wants, if_neg wanted, List.filter_cons_of_neg wanted]
        exact hypothesis registered

/-- A change that is due is sent, or ends the subscription. -/
theorem tell_sends
    (registered : feed.isRegistered = true)
    (notice : Notice) :
    (∃ sent, feed.Sends (feed.tell notice)
      (if feed.isCaughtUp && feed.settings.filter.wants notice then [notice] else []) sent) ∧
    (feed.tell notice).Continues feed ∧
    (feed.tell notice).isCaughtUp = feed.isCaughtUp := by
  rw [tell, isDue, registered, Bool.true_and, wants]
  split
  · by_cases accepts : feed.stream.accepts = true
    · rw [send?_of_accepts accepts, Option.getD_some]
      exact ⟨⟨_, .cons (.nil registered)⟩, sent_continues accepts notice, rfl⟩
    · rw [Bool.not_eq_true] at accepts
      rw [send?_of_full accepts, Option.getD_none, close_of_full accepts]
      exact ⟨⟨[], .removed accepts notice []⟩, remove_continues feed, rfl⟩
  · exact ⟨⟨[], .nil registered⟩, .refl feed, rfl⟩

/-- The mark is sent, or ends the subscription. -/
theorem finishCatchUp_sends (registered : feed.isRegistered = true) :
    (∃ sent, feed.Sends (feed.finishCatchUp?.getD feed.remove) [.caughtUp] sent) ∧
    (feed.finishCatchUp?.getD feed.remove).Continues feed ∧
    ((feed.finishCatchUp?.getD feed.remove).isRegistered = true →
      (feed.finishCatchUp?.getD feed.remove).isCaughtUp = true) := by
  let marked : Feed := { feed with isCaughtUp := true }
  show (∃ sent, feed.Sends ((marked.send? .caughtUp).getD feed.remove) [.caughtUp] sent) ∧
    ((marked.send? .caughtUp).getD feed.remove).Continues feed ∧
    (((marked.send? .caughtUp).getD feed.remove).isRegistered = true →
      ((marked.send? .caughtUp).getD feed.remove).isCaughtUp = true)
  by_cases accepts : feed.stream.accepts = true
  · have acceptsMark : marked.stream.accepts = true := accepts
    rw [send?_of_accepts acceptsMark, Option.getD_some]
    exact ⟨⟨_, ⟨rfl, List.prefix_refl _, fun _ => rfl,
      fun removed => absurd (registered.symm.trans removed) (by decide),
      fun removed => absurd (registered.symm.trans removed) (by decide)⟩⟩,
      ⟨rfl, rfl, (sent_continues accepts .caughtUp).fits⟩, fun _ => rfl⟩
  · rw [Bool.not_eq_true] at accepts
    have refusesMark : marked.stream.accepts = false := accepts
    rw [send?_of_full refusesMark, Option.getD_none]
    exact ⟨⟨[], .removed accepts _ _⟩, remove_continues feed,
      fun stays => absurd stays Bool.false_ne_true⟩

/-- What is sent behind notices that were sent is sent after them, and nothing is sent to a
subscription that is registered no longer. -/
theorem Sends.append
    {later last : Feed}
    {notices noticesThen sent : List Notice}
    (first : feed.Sends later notices sent)
    (next : later.isRegistered = true → ∃ sentThen, later.Sends last noticesThen sentThen)
    (frozen : later.isRegistered = false → last = later) :
    ∃ all, feed.Sends last (notices ++ noticesThen) all := by
  cases registered : later.isRegistered with
  | true =>
      obtain ⟨sentThen, rest⟩ := next registered
      have whole := first.whole registered
      subst whole
      refine ⟨sent ++ sentThen, ?_, ?_, fun stays => ?_, fun removed => ?_, rest.full⟩
      · rw [rest.waiting, first.waiting, List.append_assoc]
      · exact (List.prefix_append_right_inj sent).mpr rest.isPrefix
      · rw [rest.whole stays]
      · rw [List.length_append, List.length_append]
        exact Nat.add_lt_add_left (rest.lost removed) _
  | false =>
      obtain rfl := frozen registered
      refine ⟨sent, first.waiting, first.isPrefix.trans (List.prefix_append _ _),
        fun stays => absurd (stays.symm.trans registered) (by decide), fun _ => ?_, first.full⟩
      rw [List.length_append]
      exact Nat.lt_add_right _ (first.lost registered)

/-- The subscription after several changes were told. -/
def tellEach (feed : Feed) (notices : List Notice) : Feed :=
  notices.foldl tell feed

theorem tell_of_removed (removed : feed.isRegistered = false) (notice : Notice) :
    feed.tell notice = feed := by
  rw [tell, isDue, removed]
  rfl

theorem tellEach_of_removed (removed : feed.isRegistered = false) (notices : List Notice) :
    feed.tellEach notices = feed := by
  induction notices with
  | nil => rfl
  | cons notice rest hypothesis =>
      show (feed.tell notice).tellEach rest = feed
      rw [tell_of_removed removed, hypothesis]

/-- Changes that are wanted are sent one after another to a subscription that is caught up, up to
the first that is not accepted. -/
theorem tellEach_sends
    (registered : feed.isRegistered = true)
    (caughtUp : feed.isCaughtUp = true)
    (notices : List Notice) :
    (∃ sent, feed.Sends (feed.tellEach notices)
      (notices.filter feed.settings.filter.wants) sent) ∧
    (feed.tellEach notices).Continues feed ∧
    (feed.tellEach notices).isCaughtUp = true := by
  induction notices generalizing feed with
  | nil => exact ⟨⟨[], .nil registered⟩, .refl feed, caughtUp⟩
  | cons notice rest hypothesis =>
      obtain ⟨⟨sent, sends⟩, continues, marked⟩ := tell_sends registered notice
      have due : (notice :: rest).filter feed.settings.filter.wants =
          (if feed.isCaughtUp && feed.settings.filter.wants notice then [notice] else []) ++
            rest.filter feed.settings.filter.wants := by
        rw [caughtUp, Bool.true_and, List.filter_cons]
        split <;> rfl
      show (∃ sent, feed.Sends ((feed.tell notice).tellEach rest) _ sent) ∧
        ((feed.tell notice).tellEach rest).Continues feed ∧
        ((feed.tell notice).tellEach rest).isCaughtUp = true
      rw [due]
      have stillCaughtUp := marked.trans caughtUp
      cases stays : (feed.tell notice).isRegistered with
      | true =>
          obtain ⟨more, continuesThen, markedThen⟩ := hypothesis stays stillCaughtUp
          rw [continues.settings] at more
          refine ⟨sends.append (fun _ => more) fun removed => ?_,
            continuesThen.trans continues, markedThen⟩
          exact absurd (stays.symm.trans removed) (by decide)
      | false =>
          have same := tellEach_of_removed stays rest
          rw [same]
          refine ⟨sends.append (fun registered => ?_) fun _ => rfl, continues, stillCaughtUp⟩
          exact absurd (registered.symm.trans stays) (by decide)

end

/-- What some requests did to a subscription to which they made notices due: what was received and
what waits is a beginning of what waited and was due, all of it if the subscription is registered.
It is registered unless it was ended or a notice was lost. -/
structure Delivers
    (feed later : Feed)
    (received notices : List Notice)
    (ended : Prop) : Prop where
  isPrefix : received ++ later.stream.waiting <+: feed.stream.waiting ++ notices
  whole : later.isRegistered = true →
    received ++ later.stream.waiting = feed.stream.waiting ++ notices
  cause : later.isRegistered = false →
    ended ∨ (received ++ later.stream.waiting).length < (feed.stream.waiting ++ notices).length

section

variable {feed later : Feed} {notices sent : List Notice}

theorem Sends.delivers
    (sends : feed.Sends later notices sent)
    (ended : Prop) :
    feed.Delivers later [] notices ended where
  isPrefix := by
    rw [List.nil_append, sends.waiting, List.prefix_append_right_inj]
    exact sends.isPrefix
  whole registered := by
    rw [List.nil_append, sends.waiting, sends.whole registered]
  cause removed := by
    right
    rw [List.nil_append, sends.waiting, List.length_append, List.length_append]
    exact Nat.add_lt_add_left (sends.lost removed) _

/-- What only passes from the stream to the receiver is neither lost nor due. -/
theorem delivers_of_eq
    {received : List Notice}
    (registered : later.isRegistered = true)
    (same : received ++ later.stream.waiting = feed.stream.waiting)
    (ended : Prop) :
    feed.Delivers later received [] ended where
  isPrefix := by
    rw [same]
    exact List.prefix_append _ _
  whole _ := by rw [same, List.append_nil]
  cause removed := absurd (registered.symm.trans removed) (by decide)

/-- What the receiver takes is not lost. -/
theorem pass_delivers
    (registered : feed.isRegistered = true)
    (count : Nat)
    (ended : Prop) :
    feed.Delivers (feed.pass count) (feed.stream.waiting.take count) [] ended := by
  have stays : (feed.pass count).isRegistered = true := registered
  exact delivers_of_eq stays (List.take_append_drop count feed.stream.waiting) ended

theorem close_delivers (feed : Feed) (reason : EndReason) :
    feed.Delivers (feed.close reason) [] [.dropped reason] True ∧
    (feed.close reason).Continues feed := by
  by_cases accepts : feed.stream.accepts = true
  · rw [close_of_accepts accepts]
    exact ⟨⟨List.prefix_refl _, fun _ => rfl, fun _ => Or.inl trivial⟩,
      (remove_continues _).trans (sent_continues accepts _)⟩
  · rw [Bool.not_eq_true] at accepts
    rw [close_of_full accepts]
    exact ⟨⟨List.prefix_append _ _, fun stays => absurd stays Bool.false_ne_true,
      fun _ => Or.inl trivial⟩, remove_continues feed⟩

theorem pass_continues (feed : Feed) (count : Nat) : (feed.pass count).Continues feed := by
  refine ⟨rfl, rfl, fun fits => ?_⟩
  show (feed.stream.waiting.drop count).length ≤ feed.stream.capacity
  rw [List.length_drop]
  exact Nat.le_trans (Nat.sub_le _ count) fits

theorem abandon_continues (feed : Feed) : (feed.withStream feed.stream.abandon).Continues feed :=
  ⟨rfl, rfl, id⟩

/-- What a request does to a registered subscription. -/
theorem serve_delivers
    (registered : feed.isRegistered = true)
    (request : Request) :
    feed.Delivers (feed.serve request) (feed.receipts request)
      (request.due feed.settings.filter feed.isCaughtUp) (request = .call .unsubscribe) ∧
    (feed.serve request).Continues feed ∧
    ((feed.serve request).isRegistered = true →
      (feed.serve request).isCaughtUp = request.marks feed.isCaughtUp) := by
  cases request with
  | tell notice =>
      obtain ⟨⟨sent, sends⟩, continues, marked⟩ := tell_sends registered notice
      exact ⟨sends.delivers _, continues, fun _ => marked⟩
  | call call =>
      cases call with
      | sendViews rooms =>
          obtain ⟨⟨sent, sends⟩, continues, marked⟩ := sendViews_sends registered rooms
          rw [serve, if_pos registered]
          exact ⟨sends.delivers _, continues, fun _ => marked⟩
      | finishCatchUp =>
          obtain ⟨⟨sent, sends⟩, continues, marked⟩ := finishCatchUp_sends registered
          rw [serve, if_pos registered]
          exact ⟨sends.delivers _, continues, marked⟩
      | unsubscribe =>
          obtain ⟨delivers, continues⟩ := close_delivers feed .unsubscribed
          rw [serve, if_pos registered]
          exact ⟨⟨delivers.isPrefix, delivers.whole, fun _ => Or.inl rfl⟩, continues,
            fun stays => absurd stays Bool.false_ne_true⟩
      | receive =>
          exact ⟨pass_delivers registered _ _, feed.pass_continues _, fun _ => rfl⟩
      | drain =>
          exact ⟨pass_delivers registered _ _, feed.pass_continues _, fun _ => rfl⟩
      | abandon =>
          have stays : (feed.withStream feed.stream.abandon).isRegistered = true := registered
          exact ⟨delivers_of_eq stays rfl _, feed.abandon_continues, fun _ => rfl⟩

/-- A registered subscription is removed by its own end, or because its stream accepts nothing. -/
theorem serve_removes
    {request : Request}
    (registered : feed.isRegistered = true)
    (removed : (feed.serve request).isRegistered = false) :
    request = .call .unsubscribe ∨ (feed.serve request).stream.accepts = false := by
  cases request with
  | tell notice =>
      obtain ⟨⟨sent, sends⟩, -, -⟩ := tell_sends registered notice
      exact Or.inr (sends.full removed)
  | call call =>
      cases call with
      | sendViews rooms =>
          rw [serve, if_pos registered] at removed ⊢
          obtain ⟨⟨sent, sends⟩, -, -⟩ := sendViews_sends registered rooms
          exact Or.inr (sends.full removed)
      | finishCatchUp =>
          rw [serve, if_pos registered] at removed ⊢
          obtain ⟨⟨sent, sends⟩, -, -⟩ := finishCatchUp_sends registered
          exact Or.inr (sends.full removed)
      | unsubscribe => exact Or.inl rfl
      | receive => exact absurd (registered.symm.trans removed) (by decide)
      | drain => exact absurd (registered.symm.trans removed) (by decide)
      | abandon => exact absurd (registered.symm.trans removed) (by decide)

/-- Nothing is sent to a subscription that is registered no longer. -/
theorem serve_of_removed
    (removed : feed.isRegistered = false)
    (request : Request) :
    feed.receipts request ++ (feed.serve request).stream.waiting = feed.stream.waiting ∧
    (feed.serve request).isRegistered = false ∧
    (feed.serve request).Continues feed := by
  have untouched : ∀ {later : Feed}, later = feed →
      later.stream.waiting = feed.stream.waiting ∧ later.isRegistered = false ∧
        later.Continues feed := by
    rintro later rfl
    exact ⟨rfl, removed, .refl later⟩
  have notRegistered : ¬feed.isRegistered = true := by
    rw [removed]
    exact Bool.false_ne_true
  cases request with
  | tell notice => exact untouched (by rw [serve, tell, isDue, removed]; rfl)
  | call call =>
      cases call with
      | sendViews rooms => exact untouched (by rw [serve, if_neg notRegistered])
      | finishCatchUp => exact untouched (by rw [serve, if_neg notRegistered])
      | unsubscribe => exact untouched (by rw [serve, if_neg notRegistered])
      | receive => exact ⟨List.take_append_drop _ _, removed, feed.pass_continues _⟩
      | drain => exact ⟨List.take_append_drop _ _, removed, feed.pass_continues _⟩
      | abandon => exact ⟨rfl, removed, feed.abandon_continues⟩

theorem run_continues (feed : Feed) (requests : List Request) :
    (feed.run requests).2.Continues feed := by
  induction requests generalizing feed with
  | nil => exact .refl feed
  | cons request rest hypothesis =>
      have continues : (feed.serve request).Continues feed := by
        cases registered : feed.isRegistered with
        | true => exact (serve_delivers registered request).2.1
        | false => exact (serve_of_removed registered request).2.2
      exact (hypothesis (feed.serve request)).trans continues

/-- No more waits for a receiver than its stream may hold. -/
theorem run_bounded (settings : FeedSettings) (requests : List Request) :
    ((ofSettings settings).run requests).2.stream.waiting.length ≤
      settings.buffer.getD FeedSettings.standardBuffer := by
  have continues := (ofSettings settings).run_continues requests
  have fits := continues.fits (Nat.zero_le _)
  rw [continues.capacity] at fits
  exact fits

theorem run_concat (feed : Feed) (done : List Request) (request : Request) :
    (feed.run (done ++ [request])).2 = (feed.run done).2.serve request := by
  induction done generalizing feed with
  | nil => rfl
  | cons first rest hypothesis => exact hypothesis (feed.serve first)

theorem run_of_removed
    (removed : feed.isRegistered = false)
    (requests : List Request) :
    (feed.run requests).1 ++ (feed.run requests).2.stream.waiting = feed.stream.waiting ∧
    (feed.run requests).2.isRegistered = false := by
  induction requests generalizing feed with
  | nil => exact ⟨rfl, removed⟩
  | cons request rest hypothesis =>
      obtain ⟨same, stillRemoved, -⟩ := serve_of_removed removed request
      obtain ⟨passed, last⟩ := hypothesis stillRemoved
      refine ⟨?_, last⟩
      show feed.receipts request ++ ((feed.serve request).run rest).1 ++
        ((feed.serve request).run rest).2.stream.waiting = _
      rw [List.append_assoc, passed, same]

/-- What follows a request that was delivered is delivered behind it. -/
theorem Delivers.append
    {last : Feed}
    {received receivedThen noticesThen : List Notice}
    {ended endedThen : Prop}
    (first : feed.Delivers later received notices ended)
    (next : later.isRegistered = true → later.Delivers last receivedThen noticesThen endedThen)
    (frozen : later.isRegistered = false →
      receivedThen ++ last.stream.waiting = later.stream.waiting ∧ last.isRegistered = false) :
    feed.Delivers last (received ++ receivedThen) (notices ++ noticesThen)
      (ended ∨ endedThen) := by
  cases registered : later.isRegistered with
  | true =>
      have delivered := first.whole registered
      have more := next registered
      have joined : ∀ {tail : List Notice}, received ++ (later.stream.waiting ++ tail) =
          feed.stream.waiting ++ (notices ++ tail) := by
        intro tail
        rw [← List.append_assoc, delivered, List.append_assoc]
      refine ⟨?_, fun stays => ?_, fun removed => ?_⟩
      · rw [List.append_assoc, ← joined, List.prefix_append_right_inj]
        exact more.isPrefix
      · rw [List.append_assoc, more.whole stays, joined]
      · rcases more.cause removed with ended | lost
        · exact Or.inl (Or.inr ended)
        · right
          rw [List.append_assoc, ← joined]
          simp only [List.length_append] at lost ⊢
          omega
  | false =>
      obtain ⟨passed, lastRemoved⟩ := frozen registered
      have same : received ++ receivedThen ++ last.stream.waiting =
          received ++ later.stream.waiting := by
        rw [List.append_assoc, passed]
      rw [← List.append_nil (received ++ later.stream.waiting)] at same
      refine ⟨?_, fun stays => absurd (stays.symm.trans lastRemoved) (by decide), fun _ => ?_⟩
      · rw [same, List.append_nil, ← List.append_assoc]
        exact first.isPrefix.trans (List.prefix_append _ _)
      · rcases first.cause registered with ended | lost
        · exact Or.inl (Or.inl ended)
        · right
          rw [same, List.append_nil]
          simp only [List.length_append] at lost ⊢
          omega

/-- What any requests do to a registered subscription. -/
theorem run_delivers
    (registered : feed.isRegistered = true)
    (requests : List Request) :
    feed.Delivers (feed.run requests).2 (feed.run requests).1
      (due feed.settings.filter feed.isCaughtUp requests) (.call .unsubscribe ∈ requests) := by
  induction requests generalizing feed with
  | nil => exact delivers_of_eq registered rfl _
  | cons request rest hypothesis =>
      obtain ⟨first, continues, marked⟩ := serve_delivers registered request
      have next : (feed.serve request).isRegistered = true →
          (feed.serve request).Delivers ((feed.serve request).run rest).2
            ((feed.serve request).run rest).1
            (due feed.settings.filter (request.marks feed.isCaughtUp) rest)
            (.call .unsubscribe ∈ rest) := by
        intro stays
        rw [← marked stays, ← continues.settings]
        exact hypothesis stays
      have joined := first.append next fun removed => run_of_removed removed rest
      refine ⟨joined.isPrefix, joined.whole, fun removed => ?_⟩
      rcases joined.cause removed with (rfl | later) | lost
      · exact Or.inl List.mem_cons_self
      · exact Or.inl (List.mem_cons_of_mem request later)
      · exact Or.inr lost

end

end Feed

end RoomHistory
