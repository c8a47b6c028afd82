import RoomHistory.Proofs.Feed.Isolation

/-!
# Subscriptions that a change removes

A subscription that cannot be told a change is removed and is then offered a word of why.  But the
word needs a place in the very stream that has just refused the change, so it is refused as well.
The receiver finds what waited before and then that nothing will come, as if it had never been slow:
in no run does a word of an overflow wait in a stream.
-/

namespace RoomHistory

/-- The word to a subscriber that it was removed because it was too slow. -/
def Notice.overflow : Notice := .dropped .bufferOverflow

namespace Feed

section

variable {feed : Feed} {notice : Notice}

/-- A change removes a subscription by being refused, and leaves nothing in its stream. -/
theorem tell_of_removal
    (registered : feed.isRegistered = true)
    (removed : (feed.tell notice).isRegistered = false) :
    feed.stream.accepts = false ∧ feed.tell notice = feed.remove := by
  rw [tell] at removed ⊢
  split at removed
  next due =>
    cases accepts : feed.stream.accepts with
    | true =>
        rw [send?_of_accepts accepts] at removed
        exact absurd (registered.symm.trans removed) (by decide)
    | false =>
        rw [if_pos due, send?_of_full accepts, Option.getD_none, close_of_full accepts]
        exact ⟨rfl, rfl⟩
  next _ => exact absurd (registered.symm.trans removed) (by decide)

/-- What is due was made due by some request. -/
theorem mem_due
    {filter : FeedFilter}
    {marked : Bool}
    {requests : List Request}
    (present : notice ∈ due filter marked requests) :
    ∃ request ∈ requests, ∃ markedThen, notice ∈ request.due filter markedThen := by
  induction requests generalizing marked with
  | nil => cases present
  | cons request rest hypothesis =>
      rcases List.mem_append.mp present with now | later
      · exact ⟨request, List.mem_cons_self, marked, now⟩
      · obtain ⟨other, listed, found⟩ := hypothesis later
        exact ⟨other, List.mem_cons_of_mem request listed, found⟩

/-- Only a word of an overflow that is told as a change is ever due. -/
theorem eq_tell_of_overflow_due
    {filter : FeedFilter}
    {marked : Bool}
    {request : Request}
    (present : Notice.overflow ∈ request.due filter marked) :
    request = .tell .overflow := by
  cases request with
  | tell notice =>
      rw [Request.due] at present
      split at present
      next _ => rw [List.mem_singleton.mp present]
      next _ => cases present
  | call call =>
      cases call with
      | sendViews rooms =>
          obtain ⟨view, -, isView⟩ := List.mem_map.mp (List.mem_filter.mp present).1
          cases isView
      | finishCatchUp => cases List.mem_singleton.mp present
      | unsubscribe => cases List.mem_singleton.mp present
      | receive => cases present
      | drain => cases present
      | abandon => cases present

end

end Feed

namespace FeedHub

section

variable {hub : FeedHub} {id : FeedId} {feed : Feed}

theorem isRegistered_of_absent
    (present : hub.feed? id = some feed)
    (absent : hub.registered? id = none) :
    feed.isRegistered = false := by
  rw [registered?_of_feed? present] at absent
  split at absent
  next _ => cases absent
  next notRegistered => exact eq_false_of_ne_true notRegistered

/-- No change is a word of an overflow. -/
theorem Request.concerning_ne_overflow (id : FeedId) (request : Request) :
    request.concerning? id ≠ some (.tell .overflow) := by
  intro same
  cases request with
  | subscribe settings => cases same
  | call other call =>
      rw [concerning?] at same
      split at same <;> cases same
  | tell change =>
      obtain ⟨notice, told, isTold⟩ := Option.map_eq_some_iff.mp same
      cases isTold
      cases change with
      | insertion room outcome =>
          rw [Change.notice?, Notice.ofOutcome?] at told
          split at told
          · split at told <;> cases told
          · cases told
      | forgotten room type => cases told
      | moved room membership => cases told

theorem overflow_notDue
    (filter : FeedFilter)
    (marked : Bool)
    (requests : List Request)
    (id : FeedId) :
    Notice.overflow ∉ Feed.due filter marked (requests.filterMap (·.concerning? id)) := by
  intro present
  obtain ⟨own, listed, markedThen, isDue⟩ := Feed.mem_due present
  obtain ⟨request, -, concerns⟩ := List.mem_filterMap.mp listed
  rw [Feed.eq_tell_of_overflow_due isDue] at concerns
  exact request.concerning_ne_overflow id concerns

/-- A subscription that was made keeps its number. -/
theorem known_serveAll
    (present : hub.feed? id = some feed)
    (known : id ≤ hub.made)
    (requests : List Request) :
    id ≤ (hub.serveAll requests).made := by
  induction requests generalizing hub feed with
  | nil => exact known
  | cons request rest hypothesis =>
      obtain ⟨became, -, stillKnown⟩ := serve_concerning present known request
      exact hypothesis became stillKnown

/-- What a change that removes a subscription finds and leaves: a stream that takes no notice. -/
theorem tell_of_removal
    {change : Change}
    (present : hub.registered? id = some feed)
    (known : id ≤ hub.made)
    (removed : (hub.serve (.tell change)).registered? id = none) :
    feed.stream.accepts = false ∧
      (hub.serve (.tell change)).feed? id = some feed.remove ∧
      id ≤ (hub.serve (.tell change)).made := by
  obtain ⟨there, registered⟩ := Option.filter_eq_some_iff.mp present
  obtain ⟨became, -, stillKnown⟩ := serve_concerning there known (.tell change)
  have isRemoved := isRegistered_of_absent became removed
  rw [Request.concerning?] at became isRemoved
  cases told : change.notice? with
  | none =>
      rw [told] at isRemoved
      exact absurd (registered.symm.trans isRemoved) (by decide)
  | some notice =>
      rw [told] at became isRemoved
      obtain ⟨refuses, same⟩ := Feed.tell_of_removal registered isRemoved
      exact ⟨refuses, became.trans (congrArg some same), stillKnown⟩

/-- Once nothing waits for the receiver of a subscription that was removed, it finds that nothing
will come. -/
theorem receive?_of_removed
    (present : hub.feed? id = some feed)
    (removed : feed.isRegistered = false)
    (receiving : feed.stream.hasReceiver = true)
    (nothing : feed.stream.waiting = []) :
    hub.receive? id = some (.disconnected, hub) := by
  have finds : feed.stream.receive? = none := by
    rw [NoticeStream.receive?, nothing]
  rw [receive?, received?_of_feed? present, if_pos receiving, Option.map_some]
  simp only [finds, removed]
  rfl

end

/-- A subscription that a change removes, while its receiver is there, was full.  Whatever happens
next, its receiver gets what waited before, in order, and then finds that nothing will come.  Among
all that it ever got or may still get there is no word of an overflow. -/
theorem tell_removes_untold
    (earlier : List Request)
    (settings : FeedSettings)
    (requests : List Request)
    (change : Change)
    (later : List Request)
    (feed : Feed) :
    let id := ((empty.serveAll earlier).subscribe settings).1
    let opened := ((empty.serveAll earlier).subscribe settings).2
    let full := opened.serveAll requests
    let without := full.serve (.tell change)
    let last := without.serveAll later
    full.registered? id = some feed → without.registered? id = none →
    (feed.stream.hasReceiver = true →
      feed.stream.waiting.length = settings.buffer.getD FeedSettings.standardBuffer) ∧
    Notice.overflow ∉ opened.received id requests ++ feed.stream.waiting ∧
    ∃ gone, last.feed? id = some gone ∧
      without.received id later ++ gone.stream.waiting = feed.stream.waiting ∧
      (gone.stream.hasReceiver = true → gone.stream.waiting = [] →
        last.receive? id = some (.disconnected, last)) := by
  intro id opened full without last present absent
  obtain ⟨there, registered⟩ := Option.filter_eq_some_iff.mp present
  have isOpened : opened.feed? id = some (Feed.ofSettings settings) := feed?_put_self _ id _
  let own := requests.filterMap (·.concerning? id)
  obtain ⟨atEnd, gotBefore⟩ := serveAll_concerning isOpened (Nat.le_refl id) requests
  have isRun : ((Feed.ofSettings settings).run own).2 = feed :=
    Option.some.inj (atEnd.symm.trans there)
  have fresh : (Feed.ofSettings settings).isRegistered = true := rfl
  have isPrefix := (Feed.run_delivers fresh own).isPrefix
  have continues := (Feed.ofSettings settings).run_continues own
  have bounded := Feed.run_bounded settings own
  rw [← gotBefore, isRun] at isPrefix
  rw [isRun] at continues bounded
  have known : id ≤ full.made := known_serveAll isOpened (Nat.le_refl id) requests
  obtain ⟨refuses, isRemoved, stillKnown⟩ := tell_of_removal present known absent
  obtain ⟨became, got⟩ := serveAll_concerning isRemoved stillKnown later
  have removed : feed.remove.isRegistered = false := rfl
  obtain ⟨passed, lastRemoved⟩ :=
    Feed.run_of_removed removed (later.filterMap (·.concerning? id))
  refine ⟨fun receiving => ?_, fun told => ?_, _, became, ?_, fun receiving nothing => ?_⟩
  · rcases (NoticeStream.accepts_eq_false_iff _).mp refuses with gone | noPlace
    · exact absurd (receiving.symm.trans gone) (by decide)
    · rw [continues.capacity] at noPlace
      exact Nat.le_antisymm bounded noPlace
  · exact overflow_notDue _ _ requests id (isPrefix.subset told)
  · rw [got]
    exact passed
  · exact receive?_of_removed became lastRemoved receiving nothing

/-- A batch of one event that arrived at the end. -/
def oneArrived : Change :=
  .insertion "!a:x"
    { added := 1, duplicates := 0, skipped := 0, trimmed := 0, direction := some .forward,
      generation := 1, failed := false }

/-- A subscription with two places, in which the mark and the first batch wait. -/
def slowReader : Feed where
  settings := ⟨some 2, false, .timelineOnly⟩
  stream := ⟨2, [.caughtUp, .inserted ⟨"!a:x", 1, 0, .forward, 1⟩], true⟩
  isRegistered := true
  isCaughtUp := true

theorem tell_removes_untold_slowReader :
    let opened := (empty.subscribe slowReader.settings).2
    let full := opened.serveAll [.call 1 .finishCatchUp, .tell oneArrived]
    let without := full.serve (.tell oneArrived)
    let last := without.serveAll [.call 1 .drain]
    full.registered? 1 = some slowReader ∧
    without.registered? 1 = none ∧
    slowReader.stream.waiting.length = 2 ∧
    ∃ gone, last.feed? 1 = some gone ∧
      without.received 1 [.call 1 .drain] ++ gone.stream.waiting = slowReader.stream.waiting := by
  intro opened full without last
  have present : full.registered? 1 = some slowReader := by decide +kernel
  have absent : without.registered? 1 = none := by decide +kernel
  obtain ⟨isFull, -, gone, became, passed, -⟩ :=
    tell_removes_untold [] slowReader.settings [.call 1 .finishCatchUp, .tell oneArrived]
      oneArrived [.call 1 .drain] slowReader present absent
  exact ⟨present, absent, isFull rfl, gone, became, passed⟩

/-- The reader of a full stream is removed by the next batch, finds what waited, and is then
disconnected without a word of why. -/
theorem tell_removes_withoutWord :
    let opened := (empty.subscribe slowReader.settings).2
    let full := opened.serveAll [.call 1 .finishCatchUp, .tell oneArrived]
    let without := full.serve (.tell oneArrived)
    full.registered? 1 = some slowReader ∧
    without.registered? 1 = none ∧
    without.received 1 [.call 1 .drain] = [.caughtUp, .inserted ⟨"!a:x", 1, 0, .forward, 1⟩] ∧
    ((without.serve (.call 1 .drain)).receive? 1).map Prod.fst = some .disconnected := by
  decide +kernel

end FeedHub

end RoomHistory
