import RoomHistory.Proofs.CurrentState.Desk
import RoomHistory.Proofs.Timeline.Growth

/-!
# What slots show

The state of a type is replayed over the defaults in the order in which a timeline holds its
events, whatever their times.  Timelines are kept in order, and so the event of a slot that is
replayed last is the newest of that slot.  A slot for which no event speaks shows the default of its
type, if the key is empty and there is one.
-/

namespace RoomHistory

/-- What a slot shows when it is read off some events. -/
inductive Shows (events : List Event) (slot : Slot) : Option Event → Prop where
  /-- The newest of the events that speak for the slot. -/
  | newest {event : Event} (isNewest : Event.IsNewest (speakingFor slot events) event) :
      Shows events slot (some event)
  /-- The default, where no event speaks for the slot. -/
  | default {content : Json} (silent : speakingFor slot events = []) (keyless : slot.key = "")
      (hasDefault : CurrentState.initialContent? slot.type = some content) :
      Shows events slot (some (Event.state "" slot content))
  /-- Nothing, where there is no default either. -/
  | nothing (silent : speakingFor slot events = [])
      (noDefault : slot.key = "" → CurrentState.initialContent? slot.type = none) :
      Shows events slot none

section

variable {events : List Event} {slot : Slot} {event : Event} {left right : Option Event}

/-- The last of the arranged events that speak for a slot is the newest of them. -/
theorem newestOf?_eq_none_or_isNewest
    (ascending : Event.Ascending events)
    (slot : Slot) :
    (newestOf? slot events = none ∧ speakingFor slot events = []) ∨
      ∃ newest, newestOf? slot events = some newest ∧
        Event.IsNewest (speakingFor slot events) newest := by
  cases speaking : speakingFor slot events with
  | nil =>
      left
      rw [← getLast?_speakingFor, speaking]
      exact ⟨rfl, rfl⟩
  | cons first rest =>
      right
      have speakingAscends : Event.Ascending (speakingFor slot events) :=
        ascending.sublist List.filter_sublist
      have firstSpeaks : first ∈ speakingFor slot events := by
        rw [speaking]
        exact List.mem_cons_self
      rw [← speaking]
      exact Event.exists_last_isNewest speakingAscends.arranged firstSpeaks

theorem Event.IsNewest.speaks (isNewest : IsNewest (speakingFor slot events) event) :
    speakingFor slot events ≠ [] :=
  List.ne_nil_of_mem isNewest.present

/-- A slot shows one thing only. -/
theorem Shows.unique
    (orderly : Event.Orderly events)
    (leftShown : Shows events slot left)
    (rightShown : Shows events slot right) :
    left = right := by
  cases leftShown with
  | newest isNewest =>
      cases rightShown with
      | newest otherNewest =>
          have speakingOrderly : Event.Orderly (speakingFor slot events) :=
            orderly.subset List.filter_sublist.subset
          exact congrArg some (speakingOrderly.newest_unique isNewest otherNewest)
      | default silent => exact absurd silent isNewest.speaks
      | nothing silent => exact absurd silent isNewest.speaks
  | default silent keyless hasDefault =>
      cases rightShown with
      | newest otherNewest => exact absurd silent otherNewest.speaks
      | default _ _ otherDefault =>
          rw [Option.some.inj (hasDefault.symm.trans otherDefault)]
      | nothing _ noDefault => simp [noDefault keyless] at hasDefault
  | nothing silent noDefault =>
      cases rightShown with
      | newest otherNewest => exact absurd silent otherNewest.speaks
      | default _ keyless hasDefault => simp [noDefault keyless] at hasDefault
      | nothing => rfl

end

namespace CurrentState

/-- Before any event has arrived only the empty key of a type with a default has an event. -/
theorem initial_getElem? (type key : String) :
    (initial type)[key]? =
      if key = "" then (initialContent? type).map (Event.state "" ⟨type, ""⟩) else none := by
  unfold initial
  cases initialContent? type with
  | none => simp
  | some content =>
      simp [Std.ExtTreeMap.getElem?_insert, @eq_comm String "" key]

/-- Over events in order, replaying leaves in every slot what it shows. -/
theorem ofTimeline_shows
    {timeline : Timeline}
    (ascending : Event.Ascending timeline.events)
    (type key : String) :
    Shows timeline.events ⟨type, key⟩ (ofTimeline timeline type)[key]? := by
  rw [ofTimeline_getElem?]
  rcases newestOf?_eq_none_or_isNewest ascending ⟨type, key⟩ with
    ⟨none, silent⟩ | ⟨newest, isLast, isNewest⟩
  · -- nothing was filed under the key, so the answer is what the replay began with
    rw [none, Option.none_or, initial_getElem?]
    by_cases keyless : key = ""
    · subst keyless
      rw [if_pos rfl]
      cases hasDefault : initialContent? type with
      | none => exact .nothing silent fun _ => hasDefault
      | some content => exact .default silent rfl hasDefault
    · rw [if_neg keyless]
      exact .nothing silent fun isKeyless => absurd isKeyless keyless
  · rw [isLast, Option.some_or]
    exact .newest isNewest

end CurrentState

namespace Desk

variable {ι κ : Type}

/-- The events that a request brings. -/
def Request.offers : Request ι κ → List Event
  | .insert _ insertion => insertion.batch
  | .state _ _ _ | .forget _ _ | .horizon _ => []

/-- The events that several requests bring. -/
def offered (requests : List (Request ι κ)) : List Event :=
  requests.flatMap Request.offers

variable [DecidableEq ι] [DecidableEq κ] {given : Json → Prop} {desk : Desk ι κ}

/-- Every request leaves timelines to which insertions lead. -/
theorem reached_serve
    {request : Request ι κ}
    (reached : ∀ timeline, (desk.timelines timeline).Reached given)
    (gives : ∀ event ∈ request.offers, given event.content) :
    ∀ timeline, ((desk.serve request).timelines timeline).Reached given := by
  have updated : ∀ (index : ι) (later : Timeline), later.Reached given →
      ∀ timeline, (Function.update desk.timelines index later timeline).Reached given := by
    intro index later laterReached
    apply (Function.forall_update_iff desk.timelines fun _ timeline => timeline.Reached given).mpr
    exact ⟨laterReached, fun other _ => reached other⟩
  cases request with
  | insert index insertion => exact updated index _ ((reached index).applyTo insertion gives)
  | state memo index type => exact reached
  | forget memo type => exact reached
  | horizon index => exact updated index _ (reached index).rememberHorizon

theorem reached_serveAll
    {requests : List (Request ι κ)}
    (reached : ∀ timeline, (desk.timelines timeline).Reached given)
    (gives : ∀ event ∈ offered requests, given event.content) :
    ∀ timeline, ((desk.serveAll requests).timelines timeline).Reached given := by
  induction requests generalizing desk with
  | nil => exact reached
  | cons request rest hypothesis =>
      have offers : offered (request :: rest) = request.offers ++ offered rest := List.flatMap_cons
      rw [offers] at gives
      apply hypothesis
      · apply reached_serve reached
        exact fun event present => gives event (List.mem_append_left _ present)
      · exact fun event present => gives event (List.mem_append_right _ present)

/-- After any requests, a slot of a timeline shows one thing: the newest of the events held that
speak for it, or the default, or nothing.  This is what replaying finds, and it is what every memo
answers for the slot, be it asked for the state of the type, for the event or for the contents. -/
theorem serveAll_shows
    (tag : ι → TimelineTag)
    (policy : ι → TimelinePolicy)
    (room : ι → Option RoomId)
    (requests : List (Request ι κ))
    (distinct : Function.Injective tag)
    (texts : Event.TextsTellContents (offered requests))
    (memo : κ)
    (timeline : ι)
    (type key : String) :
    let desk : Desk ι κ := (opened tag policy room).serveAll requests
    let asked := desk.timelines timeline
    ∃ answer, (∀ shown, Shows asked.events ⟨type, key⟩ shown ↔ shown = answer) ∧
      (CurrentState.ofTimeline asked type)[key]? = answer ∧
      ((desk.memos memo).get asked type).1[key]? = answer ∧
      ((desk.memos memo).event? asked type key).1 = answer ∧
      ((desk.memos memo).contents asked type).1[key]? = answer.map (·.content) := by
  intro desk asked
  have reached : asked.Reached (Event.GivenBy (offered requests)) :=
    reached_serveAll (fun timeline => .empty (tag timeline) (policy timeline) (room timeline))
      (fun _ => Event.givenBy_of_mem) timeline
  have keeps := reached.keeps texts.toldByTexts
  have orderly := keeps.granted.orderly texts.toldByTexts
  have vouches : desk.Vouches := (vouches_opened distinct policy room).serveAll requests
  have faithful : ((desk.memos memo).get asked type).1 = CurrentState.ofTimeline asked type :=
    (vouches.memos memo timeline).faithful type
  have shows := CurrentState.ofTimeline_shows keeps.kept.settles.ascending type key
  refine ⟨(CurrentState.ofTimeline asked type)[key]?, ?_, rfl, ?_, ?_, ?_⟩
  · intro shown
    refine ⟨fun isShown => isShown.unique orderly shows, ?_⟩
    rintro rfl
    exact shows
  · rw [faithful]
  · show ((desk.memos memo).get asked type).1[key]? = _
    rw [faithful]
  · show (((desk.memos memo).get asked type).1.map fun _ event => event.content)[key]? = _
    rw [faithful]
    exact Std.ExtTreeMap.getElem?_map

/-- A name of the room. -/
def nameEvent (id name : String) (sentAt : Timestamp) : Event :=
  { Event.state id ⟨"m.room.name", ""⟩ (.ofMembers [("name", .string name)]) with
    sentAt := some sentAt }

/-- Of two timelines one is told an older name after a newer one; a memo is asked about it in
between. -/
def namingRequests : List (Request Bool Unit) := [
  .insert false (.plain 9 100 [nameEvent "$fox" "fox" 5]),
  .state () false "m.room.name",
  .insert true (.plain 9 101 [nameEvent "$owl" "owl" 7]),
  .insert false (.plain 9 102 [nameEvent "$den" "den" 2])]

theorem serveAll_shows_naming :
    Function.Injective Bool.toNat ∧ Event.TextsTellContents (offered namingRequests) ∧
    let desk : Desk Bool Unit :=
      (opened Bool.toNat (fun _ => .standard) fun _ => none).serveAll namingRequests
    let asked := desk.timelines false
    (CurrentState.ofTimeline asked "m.room.name")[""]? = some (nameEvent "$fox" "fox" 5) ∧
    ((desk.memos ()).contents asked "m.room.topic").1[""]? =
      some (CurrentState.nullMember "topic") ∧
    ((desk.memos ()).event? asked "m.room.name" "@a:x").1 = none := by
  have distinct : Function.Injective Bool.toNat := by
    intro left right
    cases left <;> cases right <;> decide
  have texts : Event.TextsTellContents (offered namingRequests) := by decide
  refine ⟨distinct, texts, ?_⟩
  intro desk asked
  have shows := serveAll_shows Bool.toNat (fun _ => .standard) (fun _ => none) namingRequests
    distinct texts () false
  refine ⟨?_, ?_, ?_⟩
  · obtain ⟨answer, only, replayed, -⟩ := shows "m.room.name" ""
    rw [replayed]
    have last : (speakingFor ⟨"m.room.name", ""⟩ asked.events).getLast? =
        some (nameEvent "$fox" "fox" 5) := rfl
    exact ((only _).mp (.newest ⟨List.mem_of_getLast? last, by decide⟩)).symm
  · obtain ⟨answer, only, -, -, -, contents⟩ := shows "m.room.topic" ""
    rw [contents, ← (only _).mp (.default (by decide) rfl rfl)]
    rfl
  · obtain ⟨answer, only, -, -, told, -⟩ := shows "m.room.name" "@a:x"
    rw [told]
    exact ((only _).mp (.nothing (by decide) (by decide))).symm

end Desk

end RoomHistory
