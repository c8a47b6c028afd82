import RoomHistory.Json.Compact

/-!
# Texts tell equal values apart

Values that are equal (`==`) may still differ in the signs of their zeros.  Their compact texts
then differ as well, so values that are equal and have the same text are the same value.  The
proof follows both values together: being equal they have the same shape, and what is written
after them takes part in the induction.
-/

namespace RoomHistory

namespace Binary64

/-- Of two zeros that are not the same word one has its sign bit set and the other has not. -/
theorem negative_ne_of_isZero
    {left right : Binary64}
    (leftZero : left.isZero = true)
    (rightZero : right.isZero = true)
    (differ : left ≠ right) :
    left.negative ≠ right.negative := by
  intro sameSign
  apply differ
  have bits : left.bits = right.bits := by
    apply UInt64.toNat_inj.mp
    have leftBound := left.bits.toNat_lt
    have rightBound := right.bits.toNat_lt
    have half : signBit = 9223372036854775808 := by decide
    simp only [isZero, magnitude, half, beq_iff_eq] at leftZero rightZero
    simp only [negative, half, decide_eq_decide] at sameSign
    omega
  cases left
  cases right
  exact congrArg Binary64.mk bits

/-- Zeros are finite. -/
theorem isFinite_of_isZero
    {word : Binary64}
    (zero : word.isZero = true) :
    word.isFinite = true := by
  simp only [isZero, beq_iff_eq] at zero
  simp only [isFinite, zero]
  decide

end Binary64

namespace Json

/-- A zero is written with its sign. -/
theorem numberChars_of_isZero
    {word : Binary64}
    (zero : word.isZero = true) :
    numberChars (.float word) = (if word.negative then ['-'] else []) ++ ['0', '.', '0'] := by
  have digits : (Decimal.shortest word).chars = ['0', '.', '0'] := by
    rw [Decimal.shortest, if_pos zero]
    decide
  rw [numberChars, if_pos (Binary64.isFinite_of_isZero zero), digits]

/-- Equal numbers with the same text are the same. -/
theorem number_eq_of_numberChars
    {left right : JsonNumber}
    {leftRest rightRest : List Char}
    (equal : (left == right) = true)
    (text : numberChars left ++ leftRest = numberChars right ++ rightRest) :
    left = right := by
  cases left with
  | int left =>
      cases right with
      | int right => exact congrArg JsonNumber.int (by simpa using equal)
      | float right => exact absurd equal Bool.false_ne_true
  | float left =>
      cases right with
      | int right => exact absurd equal Bool.false_ne_true
      | float right =>
          rw [JsonNumber.float_beq_float, Binary64.beq_iff] at equal
          rcases equal with same | ⟨leftZero, rightZero⟩
          · exact congrArg JsonNumber.float same
          · by_cases same : left = right
            · exact congrArg JsonNumber.float same
            · have signs := Binary64.negative_ne_of_isZero leftZero rightZero same
              rw [numberChars_of_isZero leftZero, numberChars_of_isZero rightZero] at text
              cases leftSign : left.negative <;> cases rightSign : right.negative <;>
                simp_all

mutual

/-- Equal values that are written alike, whatever follows them, are the same. -/
theorem eq_of_agree_of_chars :
    (left right : Json) → {leftRest rightRest : List Char} →
    agree (· == ·) left right = true →
    left.chars ++ leftRest = right.chars ++ rightRest →
    left = right
  | .null, right, _, _, equal, _ => by cases right <;> simp_all [agree]
  | .bool _, right, _, _, equal, _ => by cases right <;> simp_all [agree]
  | .string _, right, _, _, equal, _ => by cases right <;> simp_all [agree]
  | .number left, right, _, _, equal, text => by
      cases right with
      | number right =>
          rw [agree] at equal
          rw [chars, chars] at text
          rw [number_eq_of_numberChars equal text]
      | _ => simp [agree] at equal
  | .array left, right, leftRest, rightRest, equal, text => by
      cases right with
      | array right =>
          have items : itemChars left ++ (']' :: leftRest) =
              itemChars right ++ (']' :: rightRest) := by
            simpa [chars] using text
          rw [eq_of_agreeItems_of_chars left right (by simpa [agree] using equal) items]
      | _ => simp [agree] at equal
  | .object left, right, leftRest, rightRest, equal, text => by
      cases right with
      | object right =>
          have members : memberChars left ++ ('\x7d' :: leftRest) =
              memberChars right ++ ('\x7d' :: rightRest) := by
            simpa [chars] using text
          rw [eq_of_agreeMembers_of_chars left right (by simpa [agree] using equal) members]
      | _ => simp [agree] at equal

/-- Lists of equal values that are written alike are the same. -/
theorem eq_of_agreeItems_of_chars :
    (left right : List Json) → {leftRest rightRest : List Char} →
    agreeItems (· == ·) left right = true →
    itemChars left ++ leftRest = itemChars right ++ rightRest →
    left = right
  | [], right, _, _, equal, _ => by cases right <;> simp_all [agreeItems]
  | [item], right, leftRest, rightRest, equal, text => by
      cases right with
      | nil => simp [agreeItems] at equal
      | cons other others =>
          simp only [agreeItems, Bool.and_eq_true] at equal
          cases others with
          | nil => rw [eq_of_agree_of_chars item other equal.1 (by simpa [itemChars] using text)]
          | cons _ _ => simp [agreeItems] at equal
  | item :: next :: rest, right, leftRest, rightRest, equal, text => by
      cases right with
      | nil => simp [agreeItems] at equal
      | cons other others =>
          rw [agreeItems, Bool.and_eq_true] at equal
          cases others with
          | nil => simp [agreeItems] at equal
          | cons second others =>
              simp only [itemChars, List.append_assoc, List.cons_append] at text
              have first := eq_of_agree_of_chars item other equal.1 text
              subst first
              have later := List.cons_inj_right _ |>.mp (List.append_cancel_left text)
              rw [eq_of_agreeItems_of_chars (next :: rest) (second :: others) equal.2 later]

/-- Lists of equal members that are written alike are the same. -/
theorem eq_of_agreeMembers_of_chars :
    (left right : List (String × Json)) → {leftRest rightRest : List Char} →
    agreeMembers (· == ·) left right = true →
    memberChars left ++ leftRest = memberChars right ++ rightRest →
    left = right
  | [], right, _, _, equal, _ => by cases right <;> simp_all [agreeMembers]
  | [(key, value)], right, leftRest, rightRest, equal, text => by
      cases right with
      | nil => simp [agreeMembers] at equal
      | cons other others =>
          obtain ⟨otherKey, otherValue⟩ := other
          simp only [agreeMembers, Bool.and_eq_true, beq_iff_eq] at equal
          obtain ⟨rfl, equal⟩ := equal
          cases others with
          | nil =>
              rw [eq_of_agree_of_chars value otherValue equal.1
                (by simpa [memberChars] using text)]
          | cons _ _ => simp [agreeMembers] at equal
  | (key, value) :: next :: rest, right, leftRest, rightRest, equal, text => by
      cases right with
      | nil => simp [agreeMembers] at equal
      | cons other others =>
          obtain ⟨otherKey, otherValue⟩ := other
          rw [agreeMembers, Bool.and_eq_true, Bool.and_eq_true, beq_iff_eq] at equal
          obtain ⟨rfl, equal⟩ := equal
          cases others with
          | nil => simp [agreeMembers] at equal
          | cons second others =>
              simp only [memberChars, List.append_assoc, List.cons_append] at text
              have tail := List.cons_inj_right _ |>.mp (List.append_cancel_left text)
              have first := eq_of_agree_of_chars value otherValue equal.1 tail
              subst first
              have later := List.cons_inj_right _ |>.mp (List.append_cancel_left tail)
              rw [eq_of_agreeMembers_of_chars (next :: rest) (second :: others) equal.2 later]

end

/-- Equal values with the same compact text are the same. -/
theorem eq_of_beq_of_compact
    {left right : Json}
    (equal : (left == right) = true)
    (text : left.compact = right.compact) :
    left = right := by
  have chars : left.chars ++ [] = right.chars ++ [] := by
    rw [List.append_nil, List.append_nil]
    exact String.ofList_injective text
  exact eq_of_agree_of_chars left right equal chars

end Json

end RoomHistory
