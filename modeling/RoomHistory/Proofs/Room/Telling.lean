import RoomHistory.Proofs.Room.Keeping
import RoomHistory.Proofs.Timeline.Copies

/-!
# What notices tell of a room

From the notices about a room a subscriber can tell by how much the room has grown and what the
membership in it is.  Whatever changes in a room, the notices that are told of it account for the
growth and the membership exactly.  They need not show that the events have changed: one that comes
again may take the place of a later copy without a notice.
-/

namespace RoomHistory

namespace Notice

/-- The room of which a notice tells a change. -/
def changed? : Notice → Option RoomId
  | .inserted change => some change.room
  | .stateInvalidated room _ => some room
  | .membership room _ => some room
  | .view _ | .caughtUp | .dropped _ => none

/-- Whether a notice tells that a batch has entered a room. -/
def tellsInsertion (room : RoomId) : Notice → Bool
  | .inserted change => change.room == room
  | .view _ | .stateInvalidated _ _ | .membership _ _ | .caughtUp | .dropped _ => false

/-- By how much a notice tells that a room has grown. -/
def growth (room : RoomId) : Notice → Int
  | .inserted change => if change.room = room then (change.added : Int) - change.trimmed else 0
  | .view _ | .stateInvalidated _ _ | .membership _ _ | .caughtUp | .dropped _ => 0

/-- The membership in a room that a notice tells. -/
def membership? (room : RoomId) : Notice → Option (Option Membership)
  | .view shown => if shown.room = room then some shown.membership else none
  | .membership other told => if other = room then some (some told) else none
  | .inserted _ | .stateInvalidated _ _ | .caughtUp | .dropped _ => none

/-- The view of a room that a notice shows. -/
def view? (room : RoomId) : Notice → Option RoomView
  | .view shown => if shown.room = room then some shown else none
  | .inserted _ | .stateInvalidated _ _ | .membership _ _ | .caughtUp | .dropped _ => none

/-- By how much notices tell that a room has grown. -/
def growthOf (room : RoomId) : List Notice → Int
  | [] => 0
  | notice :: rest => growth room notice + growthOf room rest

/-- The membership in a room that notices tell last, if they tell any. -/
def lastMembership? (room : RoomId) (notices : List Notice) : Option (Option Membership) :=
  (notices.filterMap (membership? room)).getLast?

/-- The first view of a room that notices show, if they show any. -/
def firstView? (room : RoomId) (notices : List Notice) : Option RoomView :=
  notices.findSome? (view? room)

section

variable {room : RoomId} {notices later : List Notice} {notice : Notice}

@[simp] theorem growthOf_nil (room : RoomId) : growthOf room [] = 0 := rfl

@[simp] theorem lastMembership?_nil (room : RoomId) : lastMembership? room [] = none := rfl

theorem growthOf_append (room : RoomId) (notices later : List Notice) :
    growthOf room (notices ++ later) = growthOf room notices + growthOf room later := by
  induction notices with
  | nil => exact (Int.zero_add _).symm
  | cons notice rest hypothesis =>
      rw [List.cons_append, growthOf, growthOf, hypothesis, Int.add_assoc]

theorem growthOf_eq_zero
    (still : ∀ notice ∈ notices, growth room notice = 0) :
    growthOf room notices = 0 := by
  induction notices with
  | nil => rfl
  | cons notice rest hypothesis =>
      obtain ⟨stillFirst, stillRest⟩ := List.forall_mem_cons.mp still
      rw [growthOf, stillFirst, hypothesis stillRest, Int.add_zero]

theorem lastMembership?_eq_none
    (untold : ∀ notice ∈ notices, membership? room notice = none) :
    lastMembership? room notices = none := by
  rw [lastMembership?, List.filterMap_eq_nil_iff.mpr untold]
  rfl

theorem lastMembership?_append (room : RoomId) (notices later : List Notice) :
    lastMembership? room (notices ++ later) =
      (lastMembership? room later).or (lastMembership? room notices) := by
  rw [lastMembership?, List.filterMap_append, List.getLast?_append]
  rfl

/-- What notices tell last of a membership holds behind what was told before. -/
theorem getD_lastMembership?_append
    (room : RoomId)
    (notices later : List Notice)
    (before : Option Membership) :
    (lastMembership? room (notices ++ later)).getD before =
      (lastMembership? room later).getD ((lastMembership? room notices).getD before) := by
  rw [lastMembership?_append]
  cases lastMembership? room later <;> rfl

/-- A notice of a change shows no view. -/
theorem firstView?_append
    (changes : ∀ notice ∈ later, notice.changed?.isSome = true)
    (room : RoomId)
    (notices : List Notice) :
    firstView? room (notices ++ later) = firstView? room notices := by
  have unshown : later.findSome? (view? room) = none := by
    rw [List.findSome?_eq_none_iff]
    intro notice present
    have change := changes notice present
    cases notice with
    | view shown => cases change
    | _ => rfl
  rw [firstView?, List.findSome?_append, unshown, Option.or_none]
  rfl

/-- Notices that tell of changes to another room tell nothing of a room. -/
theorem tells_nothing
    {other : RoomId}
    (about : ∀ notice ∈ notices, notice.changed? = some other)
    (differs : other ≠ room) :
    growthOf room notices = 0 ∧ lastMembership? room notices = none := by
  have each : ∀ notice ∈ notices, growth room notice = 0 ∧ membership? room notice = none := by
    intro notice present
    have isAbout := about notice present
    cases notice <;> cases isAbout <;> simp [growth, membership?, differs]
  constructor
  · exact growthOf_eq_zero fun notice present => (each notice present).1
  · exact lastMembership?_eq_none fun notice present => (each notice present).2

/-- What a filter leaves tells the same of a room that it follows. -/
theorem tells_same_filter
    {filter : FeedFilter}
    (timeline : filter.timeline = true)
    (membership : filter.membership = true)
    (follows : filter.follows room = true)
    (notices : List Notice) :
    growthOf room (notices.filter filter.wants) = growthOf room notices ∧
      lastMembership? room (notices.filter filter.wants) = lastMembership? room notices := by
  have unwanted : ∀ notice, filter.wants notice = false →
      growth room notice = 0 ∧ membership? room notice = none := by
    intro notice refused
    cases notice with
    | inserted change =>
        simp only [FeedFilter.wants, timeline, Bool.true_and] at refused
        refine ⟨if_neg ?_, rfl⟩
        rintro rfl
        exact absurd (follows.symm.trans refused) (by decide)
    | membership other told =>
        simp only [FeedFilter.wants, membership, Bool.true_and] at refused
        refine ⟨rfl, if_neg ?_⟩
        rintro rfl
        exact absurd (follows.symm.trans refused) (by decide)
    | view shown =>
        refine ⟨rfl, if_neg ?_⟩
        rintro rfl
        exact absurd (follows.symm.trans refused) (by decide)
    | stateInvalidated other type => exact ⟨rfl, rfl⟩
    | caughtUp => exact ⟨rfl, rfl⟩
    | dropped reason => exact ⟨rfl, rfl⟩
  induction notices using List.reverseRecOn with
  | nil => exact ⟨rfl, rfl⟩
  | append_singleton earlier notice hypothesis =>
      rw [List.filter_append, growthOf_append, growthOf_append, lastMembership?_append,
        lastMembership?_append, hypothesis.1, hypothesis.2]
      cases wanted : filter.wants notice with
      | true => simp [wanted]
      | false =>
          obtain ⟨noGrowth, noMembership⟩ := unwanted notice wanted
          simp [wanted, growthOf, lastMembership?, noGrowth, noMembership]

/-- The notice of an outcome tells its counts. -/
theorem growthOf_ofOutcome?
    (room : RoomId)
    {outcome : Outcome}
    (countless : outcome.direction = none → outcome.added = 0 ∧ outcome.trimmed = 0) :
    growthOf room (ofOutcome? room outcome).toList = (outcome.added : Int) - outcome.trimmed := by
  unfold ofOutcome?
  split
  · split
    · next nothing => simp [nothing.1, nothing.2]
    · simp [growthOf, growth]
  · next noDirection =>
      obtain ⟨added, trimmed⟩ := countless noDirection
      simp [added, trimmed]

theorem ofOutcome?_changed
    {outcome : Outcome}
    (told : notice ∈ (ofOutcome? room outcome).toList) :
    notice.changed? = some room ∧ notice.tellsInsertion room = true ∧
      ∀ other, membership? other notice = none := by
  unfold ofOutcome? at told
  split at told
  · split at told
    · cases told
    · obtain rfl := List.mem_singleton.mp told
      exact ⟨rfl, beq_self_eq_true room, fun _ => rfl⟩
  · cases told

theorem lastMembership?_ofOutcome? (other room : RoomId) (outcome : Outcome) :
    lastMembership? other (ofOutcome? room outcome).toList = none :=
  lastMembership?_eq_none fun _ told => (ofOutcome?_changed told).2.2 other

end

end Notice

namespace Room

section

variable {room : Room} {single : Change} {changes : List Change} {given : Json → Prop}

@[simp] theorem change_id (room : Room) (single : Change) : (room.change single).id = room.id := by
  cases single <;> rfl

@[simp] theorem changeAll_id (room : Room) (changes : List Change) :
    (room.changeAll changes).id = room.id := by
  induction changes generalizing room with
  | nil => rfl
  | cons single rest hypothesis => rw [changeAll_cons, hypothesis, change_id]

@[simp] theorem serve_id (room : Room) (request : Request) : (room.serve request).id = room.id := by
  rw [serve_eq, changeAll_id]

theorem notices_changed : ∀ notice ∈ room.notices single, notice.changed? = some room.id := by
  intro notice told
  cases single with
  | enter insertion => exact (Notice.ofOutcome?_changed told).1
  | move membership =>
      rw [notices] at told
      split at told
      · cases told
      · obtain rfl := List.mem_singleton.mp told
        rfl
  | forget type =>
      obtain rfl := List.mem_singleton.mp told
      rfl
  | turn cursors => cases told
  | post pending => cases told
  | withdraw transaction => cases told
  | read type => cases told
  | look => cases told

/-- The notices of changes to a room tell of changes to that room. -/
theorem allNotices_changed :
    ∀ notice ∈ room.allNotices changes, notice.changed? = some room.id := by
  induction changes generalizing room with
  | nil => exact List.forall_mem_nil _
  | cons single rest hypothesis =>
      rw [allNotices, List.forall_mem_append]
      refine ⟨notices_changed, ?_⟩
      rw [← room.change_id single]
      exact hypothesis

/-- The notices of a change account for the growth of the room and for the membership. -/
theorem notices_account (room : Room) (single : Change) :
    ((room.change single).timeline.length : Int) =
        room.timeline.length + Notice.growthOf room.id (room.notices single) ∧
      (room.change single).membership =
        (Notice.lastMembership? room.id (room.notices single)).getD room.membership := by
  cases single with
  | enter insertion =>
      obtain ⟨balance, countless⟩ := room.timeline.applyTo_balance insertion
      constructor
      · rw [notices, Notice.growthOf_ofOutcome? room.id countless]
        show ((insertion.applyTo room.timeline).2.length : Int) = _
        omega
      · rw [notices, Notice.lastMembership?_ofOutcome?]
        rfl
  | move told =>
      rw [notices]
      split
      · next same => exact ⟨(Int.add_zero _).symm, same.symm⟩
      · exact ⟨(Int.add_zero _).symm, by simp [Notice.lastMembership?, Notice.membership?, change]⟩
  | forget type => exact ⟨(Int.add_zero _).symm, rfl⟩
  | turn cursors => exact ⟨(Int.add_zero _).symm, rfl⟩
  | post pending => exact ⟨(Int.add_zero _).symm, rfl⟩
  | withdraw transaction => exact ⟨(Int.add_zero _).symm, rfl⟩
  | read type => exact ⟨(Int.add_zero _).symm, rfl⟩
  | look => exact ⟨(Int.add_zero _).symm, rfl⟩

/-- The notices of changes account for the growth of the room and for the membership. -/
theorem allNotices_account (room : Room) (changes : List Change) :
    ((room.changeAll changes).timeline.length : Int) =
        room.timeline.length + Notice.growthOf room.id (room.allNotices changes) ∧
      (room.changeAll changes).membership =
        (Notice.lastMembership? room.id (room.allNotices changes)).getD room.membership := by
  induction changes generalizing room with
  | nil => exact ⟨(Int.add_zero _).symm, rfl⟩
  | cons single rest hypothesis =>
      obtain ⟨length, membership⟩ := room.notices_account single
      obtain ⟨lengthThen, membershipThen⟩ := hypothesis (room.change single)
      rw [change_id] at lengthThen membershipThen
      rw [changeAll_cons, allNotices, Notice.growthOf_append, Notice.getD_lastMembership?_append,
        lengthThen, length, membershipThen, membership]
      exact ⟨Int.add_assoc _ _ _, rfl⟩

/-- If no notice tells of an insertion then the events are those before or copies of them. -/
theorem Keeps.notices_tell
    (keeps : room.Keeps given)
    (told : Json.ToldByTexts given)
    (gives : single.Gives given) :
    (∃ notice ∈ room.notices single, notice.tellsInsertion room.id = true) ∨
      Replaced room.timeline.events (room.change single).timeline.events := by
  have same := Replaced.refl keeps.timeline.kept.settles
  cases single with
  | enter insertion =>
      have orderly := keeps.timeline.orderly told gives
      have countless := (room.timeline.applyTo_balance insertion).2
      cases announced : Notice.ofOutcome? room.id (insertion.applyTo room.timeline).1 with
      | some notice =>
          have toldOf : notice ∈ room.notices (.enter insertion) := by
            rw [notices, announced]
            exact List.mem_singleton_self notice
          exact Or.inl ⟨notice, toldOf, (Notice.ofOutcome?_changed toldOf).2.1⟩
      | none =>
          right
          have nothing : (insertion.applyTo room.timeline).1.added = 0 ∧
              (insertion.applyTo room.timeline).1.trimmed = 0 := by
            unfold Notice.ofOutcome? at announced
            split at announced
            · split at announced
              · next counts => exact counts
              · cases announced
            · next noDirection => exact countless noDirection
          exact Timeline.applyTo_replaced orderly keeps.timeline.kept.settles nothing.1 nothing.2
  | move told => exact Or.inr same
  | forget type => exact Or.inr same
  | turn cursors => exact Or.inr same
  | post pending => exact Or.inr same
  | withdraw transaction => exact Or.inr same
  | read type => exact Or.inr same
  | look => exact Or.inr same

theorem Keeps.allNotices_tell
    (keeps : room.Keeps given)
    (told : Json.ToldByTexts given)
    (gives : ∀ change ∈ changes, change.Gives given) :
    (∃ notice ∈ room.allNotices changes, notice.tellsInsertion room.id = true) ∨
      Replaced room.timeline.events (room.changeAll changes).timeline.events := by
  induction changes generalizing room with
  | nil => exact Or.inr (.refl keeps.timeline.kept.settles)
  | cons single rest hypothesis =>
      obtain ⟨givesFirst, givesRest⟩ := List.forall_mem_cons.mp gives
      have keepsThen := keeps.change told givesFirst
      have keepsLast := keepsThen.changeAll told givesRest
      have next := hypothesis keepsThen givesRest
      rw [change_id] at next
      rcases keeps.notices_tell told givesFirst with ⟨notice, toldOf, tells⟩ | replaced
      · exact Or.inl ⟨notice, List.mem_append_left _ toldOf, tells⟩
      · rcases next with ⟨notice, toldOf, tells⟩ | replacedThen
        · exact Or.inl ⟨notice, List.mem_append_right _ toldOf, tells⟩
        · have orderly := ((keeps.timeline.granted.append keepsThen.timeline.granted).append
            keepsLast.timeline.granted).orderly told
          exact Or.inr (replaced.trans replacedThen orderly)

end

end Room

end RoomHistory
