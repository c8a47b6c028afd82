import RoomHistory.Event.Order
import RoomHistory.Proofs.Json.ExactText

/-!
# Where the order of events is total

The order compares times only where both events have one, and it takes contents for alike when
they are equal, however they are written.  Among events that all have a time, and whose contents
are equal exactly when their compact texts are, it is the lexicographic order of ten parts, the
content standing as its text.  There it is a total order in which only the same event compares
equal.
-/

namespace RoomHistory

namespace Membership

instance : Std.TransOrd Membership where
  eq_swap := Std.OrientedOrd.eq_swap (α := Nat)
  isLE_trans := Std.TransOrd.isLE_trans (α := Nat)

instance : Std.LawfulEqOrd Membership where
  compare_self := Std.ReflOrd.compare_self (α := Nat)
  eq_of_compare {left right} equal := by
    have ranks : left.rank = right.rank := Std.LawfulEqOrd.eq_of_compare (α := Nat) equal
    cases left <;> cases right <;> simp_all [rank]

end Membership

namespace Event

/-- The parts of events in turn, contents by their texts. -/
def keyOrder : Event → Event → Ordering :=
  compareLex (compareOn (·.sentAt)) <|
  compareLex (compareOn (·.room)) <|
  compareLex (compareOn (·.id)) <|
  compareLex (compareOn (·.sender)) <|
  compareLex (compareOn (·.content.compact)) <|
  compareLex (compareOn (·.type)) <|
  compareLex (compareOn (·.stateKey)) <|
  compareLex (compareOn (·.membership)) <|
  compareLex (compareOn (·.unsigned.age)) <|
  compareOn (·.unsigned.transaction)

instance : Std.TransCmp keyOrder := by
  unfold keyOrder
  infer_instance

/-- Events that compare equal part by part differ at most in their contents. -/
theorem eq_of_keyOrder
    {left right : Event}
    (equal : keyOrder left right = .eq)
    (content : left.content = right.content) :
    left = right := by
  simp only [keyOrder, compareLex_eq_eq, compareOn, Std.LawfulEqOrd.compare_eq_iff_eq] at equal
  obtain ⟨sentAt, room, id, sender, -, type, stateKey, membership, age, transaction⟩ := equal
  have unsigned : left.unsigned = right.unsigned := by
    cases leftUnsigned : left.unsigned
    cases rightUnsigned : right.unsigned
    simp_all
  cases left
  cases right
  simp_all

/-- The contents of some events are equal exactly when their compact texts are. -/
def TextsTellContents (events : List Event) : Prop :=
  ∀ left ∈ events, ∀ right ∈ events,
    (left.content == right.content) = true ↔ left.content.compact = right.content.compact

instance (events : List Event) : Decidable (TextsTellContents events) := by
  unfold TextsTellContents
  infer_instance

/-- Two events that agree in all that is compared before their contents. -/
structure LeadAlike (left right : Event) : Prop where
  sentAt : left.sentAt = right.sentAt
  room : left.room = right.room
  id : left.id = right.id
  sender : left.sender = right.sender

/-- Events that all have a time, and whose contents, where they are compared, are told by their
texts. -/
structure Orderly (events : List Event) : Prop where
  timed : ∀ event ∈ events, event.sentAt.isSome = true
  texts : ∀ left ∈ events, ∀ right ∈ events, LeadAlike left right →
    ((left.content == right.content) = true ↔ left.content.compact = right.content.compact)

/-- Every event comes strictly before all later ones. -/
def Ascending (events : List Event) : Prop :=
  events.Pairwise fun older newer => older.order newer = .lt

theorem TextsTellContents.orderly
    {events : List Event}
    (texts : TextsTellContents events)
    (timed : ∀ event ∈ events, event.sentAt.isSome = true) :
    Orderly events :=
  ⟨timed, fun left leftIn right rightIn _ => texts left leftIn right rightIn⟩

theorem Orderly.subset
    {events fewer : List Event}
    (orderly : Orderly events)
    (subset : fewer ⊆ events) :
    Orderly fewer where
  timed event present := orderly.timed event (subset present)
  texts left leftIn right rightIn := orderly.texts left (subset leftIn) right (subset rightIn)

theorem precedes_iff (left right : Event) :
    left.precedes right = true ↔ left.order right = .lt := by
  show (left.order right).isLT = true ↔ left.order right = .lt
  cases left.order right <;> decide

theorem precedes_eq_false_iff (left right : Event) :
    left.precedes right = false ↔ left.order right ≠ .lt := by
  rw [ne_eq, ← precedes_iff, Bool.not_eq_true]

/-- Nothing comes before or after itself. -/
@[simp] theorem order_self (event : Event) : event.order event = .eq := by
  have time : timeOrder event event = .eq := by
    unfold timeOrder
    cases event.sentAt with
    | some time => exact Std.ReflOrd.compare_self
    | none =>
        cases age : event.unsigned.age with
        | some age => simp [ageOrder]
        | none => rfl
  simp [order, Ranked.order, Ranked.envelopeOrder, Ranked.contentOrder, time]

/-- Events are equal when their contents are and they agree in everything else. -/
theorem beq_iff (left right : Event) :
    (left == right) = true ↔
      (left.content == right.content) = true ∧
        { left with content := right.content } = right := by
  cases left
  cases right
  show instBEqEvent.beq _ _ = true ↔ _
  simp only [instBEqEvent.beq, Bool.and_eq_true, beq_iff_eq, mk.injEq, true_and]
  constructor
  · rintro ⟨id, type, stateKey, room, sender, sentAt, content, membership, unsigned⟩
    exact ⟨content, id, type, stateKey, room, sender, sentAt, membership, unsigned⟩
  · rintro ⟨content, id, type, stateKey, room, sender, sentAt, membership, unsigned⟩
    exact ⟨id, type, stateKey, room, sender, sentAt, content, membership, unsigned⟩

/-- What is compared second matters only where the first comparison leaves it open. -/
theorem then_congr
    {first second other : Ordering}
    (agree : first = .eq → second = other) :
    first.then second = first.then other := by
  cases first with
  | lt => rfl
  | eq => exact agree rfl
  | gt => rfl

namespace Orderly

section

variable {events : List Event} {left middle right : Event}

/-- Among orderly events the order is that of their parts. -/
theorem order_eq_keyOrder
    (orderly : Orderly events)
    (leftIn : left ∈ events)
    (rightIn : right ∈ events) :
    left.order right = keyOrder left right := by
  obtain ⟨leftTime, leftTimed⟩ := Option.isSome_iff_exists.mp (orderly.timed left leftIn)
  obtain ⟨rightTime, rightTimed⟩ := Option.isSome_iff_exists.mp (orderly.timed right rightIn)
  have time : timeOrder left right = compare left.sentAt right.sentAt := by
    rw [timeOrder, leftTimed, rightTimed]
    rfl
  have content (alike : LeadAlike left right) : left.ranked.contentOrder right.ranked =
      compare left.content.compact right.content.compact := by
    show (if (left.content == right.content) = true then Ordering.eq
      else compare left.content.compact right.content.compact) = _
    split
    next equal =>
      rw [(orderly.texts left leftIn right rightIn alike).mp equal]
      exact Std.ReflOrd.compare_self.symm
    next => rfl
  show (timeOrder left right).then (left.ranked.envelopeOrder right.ranked) = _
  rw [time]
  -- the contents are compared only where the four parts before them agree
  refine then_congr fun sameTime => then_congr fun sameRoom => then_congr fun sameId =>
    then_congr fun sameSender => ?_
  rw [content ⟨Std.LawfulEqOrd.eq_of_compare sameTime, Std.LawfulEqOrd.eq_of_compare sameRoom,
    Std.LawfulEqOrd.eq_of_compare sameId, Std.LawfulEqOrd.eq_of_compare sameSender⟩]
  rfl

/-- Only the same event compares equal. -/
theorem eq_of_order
    (orderly : Orderly events)
    (leftIn : left ∈ events)
    (rightIn : right ∈ events)
    (equal : left.order right = .eq) :
    left = right := by
  rw [orderly.order_eq_keyOrder leftIn rightIn] at equal
  apply eq_of_keyOrder equal
  simp only [keyOrder, compareLex_eq_eq, compareOn, Std.LawfulEqOrd.compare_eq_iff_eq] at equal
  obtain ⟨sentAt, room, id, sender, text, -⟩ := equal
  have alike : LeadAlike left right := ⟨sentAt, room, id, sender⟩
  exact Json.eq_of_beq_of_compact ((orderly.texts left leftIn right rightIn alike).mpr text) text

/-- Swapping two events turns their order around. -/
theorem order_swap
    (orderly : Orderly events)
    (leftIn : left ∈ events)
    (rightIn : right ∈ events) :
    right.order left = (left.order right).swap := by
  rw [orderly.order_eq_keyOrder leftIn rightIn, orderly.order_eq_keyOrder rightIn leftIn]
  exact Std.OrientedCmp.eq_swap

theorem lt_trans
    (orderly : Orderly events)
    (leftIn : left ∈ events)
    (middleIn : middle ∈ events)
    (rightIn : right ∈ events)
    (first : left.order middle = .lt)
    (second : middle.order right = .lt) :
    left.order right = .lt := by
  rw [orderly.order_eq_keyOrder leftIn middleIn] at first
  rw [orderly.order_eq_keyOrder middleIn rightIn] at second
  rw [orderly.order_eq_keyOrder leftIn rightIn]
  exact Std.TransCmp.lt_trans first second

/-- An event that does not come after another is the same or comes before it. -/
theorem eq_or_lt
    (orderly : Orderly events)
    (leftIn : left ∈ events)
    (rightIn : right ∈ events)
    (notAfter : left.order right ≠ .gt) :
    left = right ∨ left.order right = .lt := by
  cases comparison : left.order right with
  | lt => exact Or.inr rfl
  | eq => exact Or.inl (orderly.eq_of_order leftIn rightIn comparison)
  | gt => exact absurd comparison notAfter

/-- Two events that each do not come after the other are the same. -/
theorem antisymm
    (orderly : Orderly events)
    (leftIn : left ∈ events)
    (rightIn : right ∈ events)
    (notAfter : left.order right ≠ .gt)
    (notBefore : right.order left ≠ .gt) :
    left = right := by
  rcases orderly.eq_or_lt leftIn rightIn notAfter with same | before
  · exact same
  · rw [orderly.order_swap leftIn rightIn, before] at notBefore
    exact absurd rfl notBefore

theorem not_gt_trans
    (orderly : Orderly events)
    (leftIn : left ∈ events)
    (middleIn : middle ∈ events)
    (rightIn : right ∈ events)
    (first : left.order middle ≠ .gt)
    (second : middle.order right ≠ .gt) :
    left.order right ≠ .gt := by
  rcases orderly.eq_or_lt leftIn middleIn first with rfl | first
  · exact second
  rcases orderly.eq_or_lt middleIn rightIn second with rfl | second
  · rw [first]
    decide
  · rw [orderly.lt_trans leftIn middleIn rightIn first second]
    decide

/-- Among orderly events equality is identity. -/
theorem beq_iff_eq
    (orderly : Orderly events)
    (leftIn : left ∈ events)
    (rightIn : right ∈ events) :
    (left == right) = true ↔ left = right := by
  rw [beq_iff]
  constructor
  · rintro ⟨equal, same⟩
    have alike : LeadAlike left right := by
      rw [← same]
      exact ⟨rfl, rfl, rfl, rfl⟩
    have text := (orderly.texts left leftIn right rightIn alike).mp equal
    have content := Json.eq_of_beq_of_compact equal text
    rw [← content] at same
    exact same
  · rintro rfl
    exact ⟨Json.beq_self left.content, rfl⟩

/-- Events compare equal exactly when they are equal in every part. -/
theorem order_eq_iff
    (orderly : Orderly events)
    (leftIn : left ∈ events)
    (rightIn : right ∈ events) :
    left.order right = .eq ↔ (left == right) = true := by
  rw [orderly.beq_iff_eq leftIn rightIn]
  constructor
  · exact orderly.eq_of_order leftIn rightIn
  · rintro rfl
    exact order_self left

end

end Orderly

/-- The order is total on events that have a time and contents told by their texts, whatever their
other parts: two events swapped compare the other way around, not to come after carries over, and
only events that are equal in every part compare equal. -/
theorem order_total
    {left middle right : Event}
    (orderly : Orderly [left, middle, right]) :
    middle.order left = (left.order middle).swap ∧
    (left.order middle ≠ .gt → middle.order right ≠ .gt → left.order right ≠ .gt) ∧
    (left.order middle = .eq ↔ (left == middle) = true) ∧
    ((left == middle) = true ↔ left = middle) := by
  have leftIn : left ∈ [left, middle, right] := by simp
  have middleIn : middle ∈ [left, middle, right] := by simp
  have rightIn : right ∈ [left, middle, right] := by simp
  exact ⟨orderly.order_swap leftIn middleIn, orderly.not_gt_trans leftIn middleIn rightIn,
    orderly.order_eq_iff leftIn middleIn, orderly.beq_iff_eq leftIn middleIn⟩

/-- A message of which only the id, the type, the time and the content are known. -/
def sparse (content : Json) : Event :=
  { bare "$m" "m.room.message" with sentAt := some 5, content := content }

/-- That message with an age. -/
def aged (content : Json) : Event :=
  { sparse content with unsigned := ⟨some 7, none⟩ }

/-- The same number, written as a fraction and as an integer, makes different contents. -/
def fraction : Json := .object [("n", .number (.float ⟨0x3ff0000000000000⟩))]

/-- The content with the integer. -/
def integer : Json := .object [("n", .number (.int 1))]

theorem order_total_nearCopies :
    Orderly [sparse fraction, sparse integer, aged integer] ∧
    (sparse fraction).order (sparse integer) = .lt ∧
    (sparse integer).order (aged integer) = .lt ∧
    (sparse integer).order (sparse fraction) = .gt ∧
    (sparse fraction).order (aged integer) ≠ .gt := by
  have timed : ∀ event ∈ [sparse fraction, sparse integer, aged integer],
      event.sentAt.isSome = true := by
    decide
  have orderly : Orderly [sparse fraction, sparse integer, aged integer] :=
    TextsTellContents.orderly (by decide +kernel) timed
  have first : (sparse fraction).order (sparse integer) = .lt := by decide +kernel
  have second : (sparse integer).order (aged integer) = .lt := by decide +kernel
  obtain ⟨swap, trans, -, -⟩ := order_total orderly
  refine ⟨orderly, first, second, ?_, trans ?_ ?_⟩
  · rw [swap, first]
    rfl
  · rw [first]
    decide
  · rw [second]
    decide

end Event

end RoomHistory
