import Mathlib.Logic.Function.Basic
import RoomHistory.Proofs.CurrentState.Freshness

/-!
# Sharing memos among timelines

Any number of timelines are inserted into, and any number of memos are asked about any of them, in
any order.  Generations begin at zero for every timeline, so the tags of the timelines have to
tell them apart.  Where they do, no answer is ever stale.
-/

namespace RoomHistory

/-- Timelines, and memos that may be asked about any of them. -/
structure Desk (ι κ : Type) where
  timelines : ι → Timeline
  memos : κ → StateMemo

namespace Desk

/-- What may be asked of a desk. -/
inductive Request (ι κ : Type) where
  /-- Inserts into a timeline. -/
  | insert (timeline : ι) (insertion : Insertion)
  /-- Asks a memo for the state of a type. -/
  | state (memo : κ) (timeline : ι) (type : String)
  /-- Has a memo forget a type. -/
  | forget (memo : κ) (type : String)
  /-- Asks a timeline for its horizon. -/
  | horizon (timeline : ι)

variable {ι κ : Type}

/-- A desk at which nothing was asked yet. -/
def opened
    (tag : ι → TimelineTag)
    (policy : ι → TimelinePolicy)
    (room : ι → Option RoomId) :
    Desk ι κ where
  timelines timeline := .empty (tag timeline) (policy timeline) (room timeline)
  memos _ := .initial

variable [DecidableEq ι] [DecidableEq κ]

/-- The desk after a request. -/
def serve (desk : Desk ι κ) : Request ι κ → Desk ι κ
  | .insert timeline insertion =>
      { desk with
        timelines := Function.update desk.timelines timeline
          (insertion.applyTo (desk.timelines timeline)).2 }
  | .state memo timeline type =>
      { desk with
        memos := Function.update desk.memos memo
          ((desk.memos memo).get (desk.timelines timeline) type).2 }
  | .forget memo type =>
      { desk with memos := Function.update desk.memos memo ((desk.memos memo).forget type) }
  | .horizon timeline =>
      { desk with
        timelines := Function.update desk.timelines timeline
          (desk.timelines timeline).rememberHorizon }

/-- The desk after several requests. -/
def serveAll (desk : Desk ι κ) (requests : List (Request ι κ)) : Desk ι κ :=
  requests.foldl serve desk

/-- Timelines are told apart, and whatever is remembered at the desk is vouched for. -/
structure Vouches (desk : Desk ι κ) : Prop where
  told : Function.Injective fun timeline => (desk.timelines timeline).tag
  memos : ∀ memo timeline, (desk.memos memo).Vouches (desk.timelines timeline)
  horizons : ∀ timeline, (desk.timelines timeline).VouchesHorizon

omit [DecidableEq ι] [DecidableEq κ] in
theorem vouches_opened
    {tag : ι → TimelineTag}
    (distinct : Function.Injective tag)
    (policy : ι → TimelinePolicy)
    (room : ι → Option RoomId) :
    (opened tag policy room : Desk ι κ).Vouches where
  told := distinct
  memos _ timeline := StateMemo.vouches_initial _
  horizons timeline generation place remembered := by
    cases remembered

omit [DecidableEq κ] in
theorem Vouches.update_timeline
    {desk : Desk ι κ}
    {timeline : ι}
    {later : Timeline}
    (vouches : desk.Vouches)
    (follows : later.Follows (desk.timelines timeline))
    (horizon : later.VouchesHorizon) :
    Vouches { desk with timelines := Function.update desk.timelines timeline later } := by
  have each : ∀ index,
      (Function.update desk.timelines timeline later index).Follows (desk.timelines index) ∧
        (Function.update desk.timelines timeline later index).VouchesHorizon := by
    intro index
    by_cases same : index = timeline
    · rw [same, Function.update_self]
      exact ⟨follows, horizon⟩
    · rw [Function.update_of_ne same]
      exact ⟨.refl _, vouches.horizons index⟩
  refine ⟨?_, ?_, fun index => (each index).2⟩
  · intro left right sameTag
    simp only [(each left).1.tag, (each right).1.tag] at sameTag
    exact vouches.told sameTag
  · exact fun memo index => (vouches.memos memo index).follow (each index).1

omit [DecidableEq ι] in
theorem Vouches.update_memo
    {desk : Desk ι κ}
    {memo : κ}
    {later : StateMemo}
    (vouches : desk.Vouches)
    (memoVouches : ∀ timeline, later.Vouches (desk.timelines timeline)) :
    Vouches { desk with memos := Function.update desk.memos memo later } := by
  refine ⟨vouches.told, ?_, vouches.horizons⟩
  intro index timeline
  by_cases same : index = memo
  · rw [same]
    simpa using memoVouches timeline
  · simpa [Function.update_of_ne same] using vouches.memos index timeline

/-- Every request leaves a desk that vouches. -/
theorem Vouches.serve
    {desk : Desk ι κ}
    (vouches : desk.Vouches)
    (request : Request ι κ) :
    (desk.serve request).Vouches := by
  cases request with
  | insert timeline insertion =>
      exact vouches.update_timeline (Timeline.applyTo_follows _ insertion)
        ((vouches.horizons timeline).applyTo insertion)
  | state memo timeline type =>
      apply vouches.update_memo
      intro index
      apply (vouches.memos memo index).get
      intro sameTag
      rw [vouches.told sameTag]
  | forget memo type =>
      apply vouches.update_memo
      exact fun timeline => (vouches.memos memo timeline).forget type
  | horizon timeline =>
      exact vouches.update_timeline (Timeline.rememberHorizon_follows _)
        (vouches.horizons timeline).rememberHorizon

theorem Vouches.serveAll
    {desk : Desk ι κ}
    (vouches : desk.Vouches)
    (requests : List (Request ι κ)) :
    (desk.serveAll requests).Vouches := by
  induction requests generalizing desk with
  | nil => exact vouches
  | cons request rest hypothesis => exact hypothesis (vouches.serve request)

/-- After any requests to timelines with tags of their own, every memo answers every question about
every timeline with its current state, what a memo counts as current is the current state, and
every horizon is where the oldest event stands that is not a state event. -/
theorem serveAll_fresh
    (tag : ι → TimelineTag)
    (policy : ι → TimelinePolicy)
    (room : ι → Option RoomId)
    (requests : List (Request ι κ))
    (distinct : Function.Injective tag) :
    let desk : Desk ι κ := (opened tag policy room).serveAll requests
    (∀ memo timeline type,
      ((desk.memos memo).get (desk.timelines timeline) type).1 =
        CurrentState.ofTimeline (desk.timelines timeline) type) ∧
    (∀ memo timeline type,
      (desk.memos memo).remembers (desk.timelines timeline) type = true →
        (desk.memos memo).entries[type]?.map (·.state) =
          some (CurrentState.ofTimeline (desk.timelines timeline) type)) ∧
    ∀ timeline,
      (desk.timelines timeline).horizon ≤ (desk.timelines timeline).events.length ∧
      (∀ event ∈ (desk.timelines timeline).events.take (desk.timelines timeline).horizon,
        event.isState = true) ∧
      ∀ event, (desk.timelines timeline).events[(desk.timelines timeline).horizon]? = some event →
        event.isState = false := by
  intro desk
  have vouches : desk.Vouches := (vouches_opened distinct policy room).serveAll requests
  refine ⟨?_, ?_, ?_⟩
  · exact fun memo timeline => (vouches.memos memo timeline).faithful
  · exact fun memo timeline type remembers =>
      (vouches.memos memo timeline).remembers_right remembers
  · intro timeline
    rw [(vouches.horizons timeline).horizon_eq]
    exact horizonOf_spec (desk.timelines timeline).events

/-- Two timelines that change as often, and one memo that is asked about both. -/
def sharedMemoRequests : List (Request Bool Unit) := [
  .insert false (.plain 5 100 [Event.state "$n" ⟨"m.room.name", ""⟩ (.ofMembers [])]),
  .state () false "m.room.name",
  .insert true (.plain 6 101 [Event.bare "$m" "m.room.message"]),
  .horizon true,
  .state () true "m.room.name",
  .forget () "m.room.topic",
  .insert true (.plain 4 102 [Event.bare "$o" "m.room.message"])]

theorem serveAll_fresh_sharedMemo :
    Function.Injective Bool.toNat ∧
    let desk : Desk Bool Unit :=
      (opened Bool.toNat (fun _ => .standard) fun _ => none).serveAll sharedMemoRequests
    (∀ memo timeline type,
      ((desk.memos memo).get (desk.timelines timeline) type).1 =
        CurrentState.ofTimeline (desk.timelines timeline) type) ∧
    (∀ memo timeline type,
      (desk.memos memo).remembers (desk.timelines timeline) type = true →
        (desk.memos memo).entries[type]?.map (·.state) =
          some (CurrentState.ofTimeline (desk.timelines timeline) type)) ∧
    ∀ timeline,
      (desk.timelines timeline).horizon ≤ (desk.timelines timeline).events.length ∧
      (∀ event ∈ (desk.timelines timeline).events.take (desk.timelines timeline).horizon,
        event.isState = true) ∧
      ∀ event, (desk.timelines timeline).events[(desk.timelines timeline).horizon]? = some event →
        event.isState = false := by
  have distinct : Function.Injective Bool.toNat := by
    intro left right
    cases left <;> cases right <;> decide
  exact ⟨distinct, serveAll_fresh Bool.toNat _ _ sharedMemoRequests distinct⟩

end Desk

end RoomHistory
