import Mathlib.Tactic.ByContra
import Mathlib.Tactic.Tauto
import RoomHistory.Proofs.Event.TotalOrder

/-!
# How far the order of events carries

Two events swapped always compare the other way around.  Two events compare equal if they agree in
everything but their times, and their times do not differ where both have one; a time that only one
of them has is never compared.  What the comparison of times passes over, the envelope decides.  So
the order carries over from two comparisons to a third only among events that tell the same of when
they were sent: there it is the order of their moments, followed by the parts of their envelopes.
Between events of which some tell more than others it goes round in circles.
-/

namespace RoomHistory

/-- What an event tells of when it was sent. -/
inductive Timing where
  /-- The time. -/
  | dated
  /-- How long ago that was, but not the time. -/
  | aged
  /-- Nothing. -/
  | undated
  deriving DecidableEq

namespace Event

/-- What the event tells of when it was sent. -/
def timing (event : Event) : Timing :=
  match event.sentAt, event.unsigned.age with
  | some _, _ => .dated
  | none, some _ => .aged
  | none, none => .undated

/-- When the event was sent, as far as it tells; an age counts back from the delivery. -/
def moment (event : Event) : Int :=
  match event.sentAt, event.unsigned.age with
  | some time, _ => time
  | none, some age => -age
  | none, none => 0

/-- The parts of the envelope in turn, contents by their texts. -/
def envelopeKeyOrder : Event → Event → Ordering :=
  compareLex (compareOn (·.room)) <|
  compareLex (compareOn (·.id)) <|
  compareLex (compareOn (·.sender)) <|
  compareLex (compareOn (·.content.compact)) <|
  compareLex (compareOn (·.type)) <|
  compareLex (compareOn (·.stateKey)) <|
  compareLex (compareOn (·.membership)) <|
  compareLex (compareOn (·.unsigned.age)) <|
  compareOn (·.unsigned.transaction)

/-- The moments of events, and then the parts of their envelopes. -/
def momentOrder : Event → Event → Ordering :=
  compareLex (compareOn moment) envelopeKeyOrder

instance : Std.TransCmp envelopeKeyOrder := by
  unfold envelopeKeyOrder
  infer_instance

instance : Std.TransCmp momentOrder := by
  unfold momentOrder
  infer_instance

/-- Contents that are equal are the same, down to the signs of their zeros. -/
def ExactContents (events : List Event) : Prop :=
  ∀ left ∈ events, ∀ right ∈ events,
    (left.content == right.content) = true → left.content = right.content

instance (events : List Event) : Decidable (ExactContents events) := by
  unfold ExactContents
  infer_instance

/-- Two events agree in everything but their times and the writing of their contents, and their
times do not differ where both have one. -/
structure Interchangeable (left right : Event) : Prop where
  times : ∀ leftTime ∈ left.sentAt, ∀ rightTime ∈ right.sentAt, leftTime = rightTime
  contents : (left.content == right.content) = true ∨
    left.content.compact = right.content.compact
  others : { left with sentAt := right.sentAt, content := right.content } = right

/-- Not to come after carries over among the events of some timings. -/
def CarriesOver (timings : Timing → Prop) : Prop :=
  ∀ left middle right : Event,
    timings left.timing → timings middle.timing → timings right.timing →
      ExactContents [left, middle, right] →
        left.order middle ≠ .gt → middle.order right ≠ .gt → left.order right ≠ .gt

theorem swap_compare
    {α : Type}
    [Ord α]
    [Std.OrientedOrd α]
    (left right : α) :
    (compare left right).swap = compare right left :=
  Std.OrientedOrd.eq_swap.symm

theorem swap_ageOrder (left right : Option Int) :
    (ageOrder left right).swap = ageOrder right left := by
  cases left with
  | none => cases right <;> rfl
  | some left =>
      cases right with
      | none => rfl
      | some right => exact swap_compare right left

theorem swap_timeOrder (left right : Event) :
    (timeOrder left right).swap = timeOrder right left := by
  unfold timeOrder
  cases left.sentAt with
  | none =>
      cases right.sentAt with
      | none => exact swap_ageOrder left.unsigned.age right.unsigned.age
      | some rightTime => rfl
  | some leftTime =>
      cases right.sentAt with
      | none => rfl
      | some rightTime => exact swap_compare leftTime rightTime

theorem swap_contentOrder (left right : Ranked) :
    (left.contentOrder right).swap = right.contentOrder left := by
  unfold Ranked.contentOrder
  rw [Json.beq_comm]
  split
  · rfl
  · exact swap_compare left.contentText.get right.contentText.get

theorem swap_envelopeOrder (left right : Ranked) :
    (left.envelopeOrder right).swap = right.envelopeOrder left := by
  unfold Ranked.envelopeOrder
  simp only [Ordering.swap_then, swap_contentOrder, swap_compare]

/-- Any two events swapped compare the other way around. -/
theorem swap_order (left right : Event) : (left.order right).swap = right.order left := by
  show ((timeOrder left right).then (left.ranked.envelopeOrder right.ranked)).swap = _
  rw [Ordering.swap_then, swap_timeOrder, swap_envelopeOrder]
  rfl

section

variable {left right : Event}

theorem contentOrder_eq_eq_iff :
    left.ranked.contentOrder right.ranked = .eq ↔
      (left.content == right.content) = true ∨
        left.content.compact = right.content.compact := by
  show (if (left.content == right.content) = true then Ordering.eq
    else compare left.content.compact right.content.compact) = .eq ↔ _
  split
  next equal => simp [equal]
  next unequal => rw [Std.LawfulEqOrd.compare_eq_iff_eq, or_iff_right unequal]

theorem envelopeOrder_eq_eq_iff :
    left.ranked.envelopeOrder right.ranked = .eq ↔
      ((left.content == right.content) = true ∨
        left.content.compact = right.content.compact) ∧
      { left with sentAt := right.sentAt, content := right.content } = right := by
  simp only [Ranked.envelopeOrder, Ordering.then_eq_eq, contentOrder_eq_eq_iff, event_ranked,
    Std.LawfulEqOrd.compare_eq_iff_eq]
  obtain ⟨id, type, stateKey, room, sender, sentAt, content, membership, age, transaction⟩ := left
  obtain ⟨otherId, otherType, otherKey, otherRoom, otherSender, otherTime, otherContent,
    otherMembership, otherAge, otherTransaction⟩ := right
  simp only [mk.injEq, Unsigned.mk.injEq, true_and]
  tauto

/-- Where the ages are the same, times only compare unequal if both events have one. -/
theorem timeOrder_eq_eq_iff (sameAge : left.unsigned.age = right.unsigned.age) :
    timeOrder left right = .eq ↔
      ∀ leftTime ∈ left.sentAt, ∀ rightTime ∈ right.sentAt, leftTime = rightTime := by
  unfold timeOrder
  rw [sameAge]
  cases left.sentAt with
  | some leftTime =>
      cases right.sentAt with
      | some rightTime => simp
      | none => simp
  | none =>
      cases right.sentAt with
      | some rightTime => simp
      | none => cases right.unsigned.age <;> simp [ageOrder]

/-- Events compare equal exactly when they are interchangeable. -/
theorem order_eq_eq_iff : left.order right = .eq ↔ Interchangeable left right := by
  show (timeOrder left right).then (left.ranked.envelopeOrder right.ranked) = .eq ↔ _
  rw [Ordering.then_eq_eq, envelopeOrder_eq_eq_iff]
  constructor
  · rintro ⟨time, contents, others⟩
    have sameAge : left.unsigned.age = right.unsigned.age := by rw [← others]
    exact ⟨(timeOrder_eq_eq_iff sameAge).mp time, contents, others⟩
  · rintro ⟨times, contents, others⟩
    have sameAge : left.unsigned.age = right.unsigned.age := by rw [← others]
    exact ⟨(timeOrder_eq_eq_iff sameAge).mpr times, contents, others⟩

/-- Interchangeable events are equal if both have a time or neither has, and their contents are
equal. -/
theorem Interchangeable.beq_iff (interchangeable : Interchangeable left right) :
    (left == right) = true ↔
      left.sentAt.isSome = right.sentAt.isSome ∧ (left.content == right.content) = true := by
  rw [Event.beq_iff]
  constructor
  · rintro ⟨content, others⟩
    have sameTime : left.sentAt = right.sentAt := by rw [← others]
    exact ⟨congrArg Option.isSome sameTime, content⟩
  · rintro ⟨bothOrNeither, content⟩
    have sameTime : left.sentAt = right.sentAt := by
      cases leftTime : left.sentAt with
      | none =>
          rw [leftTime, eq_comm, Option.isSome_none, Option.isSome_eq_false_iff,
            Option.isNone_iff_eq_none] at bothOrNeither
          rw [bothOrNeither]
      | some time =>
          rw [leftTime, eq_comm, Option.isSome_some, Option.isSome_iff_exists] at bothOrNeither
          obtain ⟨otherTime, rightTime⟩ := bothOrNeither
          rw [rightTime, interchangeable.times time leftTime otherTime rightTime]
    have others := interchangeable.others
    rw [← sameTime] at others
    exact ⟨content, others⟩

theorem compare_neg (left right : Int) : compare (-left) (-right) = compare right left := by
  cases order : compare right left with
  | lt =>
      rw [Int.compare_eq_lt] at order ⊢
      omega
  | eq =>
      rw [Int.compare_eq_eq] at order ⊢
      omega
  | gt =>
      rw [Int.compare_eq_gt] at order ⊢
      omega

/-- Events that tell the same of when they were sent compare by their moments first. -/
theorem timeOrder_of_timing (same : left.timing = right.timing) :
    timeOrder left right = compare left.moment right.moment := by
  unfold timing at same
  unfold timeOrder moment
  cases leftTime : left.sentAt with
  | some time =>
      rw [leftTime] at same
      cases rightTime : right.sentAt with
      | some otherTime => rfl
      | none => cases rightAge : right.unsigned.age <;> simp [rightTime, rightAge] at same
  | none =>
      rw [leftTime] at same
      cases rightTime : right.sentAt with
      | some otherTime => cases leftAge : left.unsigned.age <;> simp [rightTime, leftAge] at same
      | none =>
          rw [rightTime] at same
          cases leftAge : left.unsigned.age with
          | none =>
              cases rightAge : right.unsigned.age with
              | none => rfl
              | some otherAge => simp [leftAge, rightAge] at same
          | some age =>
              cases rightAge : right.unsigned.age with
              | none => simp [leftAge, rightAge] at same
              | some otherAge => exact (compare_neg age otherAge).symm

theorem envelopeOrder_of_exact
    (exact : (left.content == right.content) = true → left.content = right.content) :
    left.ranked.envelopeOrder right.ranked = envelopeKeyOrder left right := by
  have content : left.ranked.contentOrder right.ranked =
      compare left.content.compact right.content.compact := by
    show (if (left.content == right.content) = true then Ordering.eq
      else compare left.content.compact right.content.compact) = _
    split
    next equal =>
      rw [exact equal]
      exact Std.ReflOrd.compare_self.symm
    next => rfl
  rw [Ranked.envelopeOrder, content]
  rfl

theorem order_of_timing
    (same : left.timing = right.timing)
    (exact : (left.content == right.content) = true → left.content = right.content) :
    left.order right = momentOrder left right := by
  show (timeOrder left right).then (left.ranked.envelopeOrder right.ranked) = _
  rw [timeOrder_of_timing same, envelopeOrder_of_exact exact]
  rfl

end

end Event

/-- A message that tells as much of the moment at which it was sent as a timing allows. -/
def Timing.message (timing : Timing) (id : EventId) (moment : Int) : Event :=
  match timing with
  | .dated => { Event.bare id "m.room.message" with sentAt := some moment }
  | .aged => { Event.bare id "m.room.message" with unsigned := ⟨some (-moment), none⟩ }
  | .undated => Event.bare id "m.room.message"

namespace Event

@[simp] theorem timing_message (timing : Timing) (id : EventId) (moment : Int) :
    (timing.message id moment).timing = timing := by
  cases timing <;> rfl

/-- Two messages that tell their moments and one that tells something else stand in a circle: its
id comes between theirs, and the moments turn theirs around. -/
theorem circle_of_ne
    {timing other : Timing}
    (tells : timing ≠ .undated)
    (differs : other ≠ timing) :
    (timing.message "$a" 2).order (other.message "$b" 0) = .lt ∧
    (other.message "$b" 0).order (timing.message "$c" 1) = .lt ∧
    (timing.message "$a" 2).order (timing.message "$c" 1) = .gt := by
  cases timing with
  | undated => exact absurd rfl tells
  | dated =>
      cases other with
      | dated => exact absurd rfl differs
      | aged => decide +kernel
      | undated => decide +kernel
  | aged =>
      cases other with
      | aged => exact absurd rfl differs
      | dated => decide +kernel
      | undated => decide +kernel

theorem not_carriesOver_of_ne
    {timings : Timing → Prop}
    {timing other : Timing}
    (among : timings timing)
    (otherAmong : timings other)
    (tells : timing ≠ .undated)
    (differs : other ≠ timing) :
    ¬CarriesOver timings := by
  intro carries
  obtain ⟨first, second, circle⟩ := circle_of_ne tells differs
  refine carries (timing.message "$a" 2) (other.message "$b" 0) (timing.message "$c" 1)
    (by simpa using among) (by simpa using otherAmong) (by simpa using among) ?_ ?_ ?_ circle
  · cases timing <;> cases other <;> decide
  · rw [first]
    decide
  · rw [second]
    decide

/-- The order carries over exactly among events that tell the same of when they were sent. -/
theorem carriesOver_iff (timings : Timing → Prop) :
    CarriesOver timings ↔
      ∀ first second, timings first → timings second → first = second := by
  constructor
  · intro carries first second firstAmong secondAmong
    by_contra differs
    by_cases tells : first = .undated
    · have otherTells : second ≠ .undated := fun silent => differs (tells.trans silent.symm)
      exact not_carriesOver_of_ne secondAmong firstAmong otherTells differs carries
    · exact not_carriesOver_of_ne firstAmong secondAmong tells (Ne.symm differs) carries
  · intro alike left middle right leftAmong middleAmong rightAmong exact first second
    have leftIn : left ∈ [left, middle, right] := by simp
    have middleIn : middle ∈ [left, middle, right] := by simp
    have rightIn : right ∈ [left, middle, right] := by simp
    rw [order_of_timing (alike _ _ leftAmong middleAmong) (exact left leftIn middle middleIn),
      ne_eq, Ordering.ne_gt_iff_isLE] at first
    rw [order_of_timing (alike _ _ middleAmong rightAmong) (exact middle middleIn right rightIn),
      ne_eq, Ordering.ne_gt_iff_isLE] at second
    rw [order_of_timing (alike _ _ leftAmong rightAmong) (exact left leftIn right rightIn),
      ne_eq, Ordering.ne_gt_iff_isLE]
    exact Std.TransCmp.isLE_trans first second

/-- Any two events swapped compare the other way around.  They compare equal exactly when they are
interchangeable, and then they are equal if both have a time or neither has, and their contents are
equal.  Among events of some timings whose contents are exact, not to come after carries over
exactly if there is only one timing among them. -/
theorem order_lawful (left right : Event) (timings : Timing → Prop) :
    right.order left = (left.order right).swap ∧
    (left.order right = .eq ↔ Interchangeable left right) ∧
    (left.order right = .eq →
      ((left == right) = true ↔
        left.sentAt.isSome = right.sentAt.isSome ∧ (left.content == right.content) = true)) ∧
    (CarriesOver timings ↔
      ∀ first second, timings first → timings second → first = second) :=
  ⟨(swap_order left right).symm, order_eq_eq_iff,
    fun equal => (order_eq_eq_iff.mp equal).beq_iff, carriesOver_iff timings⟩

/-- The content with a zero of the given sign. -/
def zeroOf (negative : Bool) : Json :=
  .object [("n", .number (.float (.zero negative)))]

/-- The content with the number that is one less than zero. -/
def belowZero : Json :=
  .object [("n", .number (.float ⟨0xbff0000000000000⟩))]

/-- A message and its copy without a time compare equal and are not.  A message without a time
stands between two with times that are the other way around, and so does a number below zero
between two zeros that are equal. -/
theorem order_lawless :
    ((Timing.dated.message "$a" 5).order (Timing.undated.message "$a" 5) = .eq ∧
      (Timing.dated.message "$a" 5 == Timing.undated.message "$a" 5) = false) ∧
    ((Timing.dated.message "$a" 2).order (Timing.undated.message "$b" 0) = .lt ∧
      (Timing.undated.message "$b" 0).order (Timing.dated.message "$c" 1) = .lt ∧
      (Timing.dated.message "$a" 2).order (Timing.dated.message "$c" 1) = .gt) ∧
    (sparse (zeroOf false)).order (sparse (zeroOf true)) = .eq ∧
      (sparse (zeroOf true)).order (sparse belowZero) = .lt ∧
      (sparse (zeroOf false)).order (sparse belowZero) = .gt := by
  refine ⟨⟨?_, ?_⟩, circle_of_ne (by decide) (by decide), ?_, ?_, ?_⟩ <;> decide +kernel

end Event

end RoomHistory
