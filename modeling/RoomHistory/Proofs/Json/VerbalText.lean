import RoomHistory.Json.Token
import RoomHistory.Proofs.Json.ExactText

/-!
# Verbal values are told by their text

A value is verbal when it is made of texts only.  A verbal value is written like no other value,
even where more follows, and equals no other.  This rests on two facts about the front of a text:
an escaped character can be read back from there, and a number does not begin like a text, a list
or an object.
-/

namespace RoomHistory

namespace Json

/-- Reads one character inside a string, from the front of a text.  Only control characters are
written by their code, and two digits of that are zeros. -/
def readChar? : List Char → Option (Char × List Char)
  | '"' :: _ => none
  | '\\' :: 'u' :: '0' :: '0' :: high :: low :: rest => do
      let high ← JsonToken.hexValue? high
      let low ← JsonToken.hexValue? low
      return (Char.ofNat (high * 16 + low), rest)
  | '\\' :: letter :: rest => (JsonToken.escaped? letter).map (·, rest)
  | character :: rest => some (character, rest)
  | [] => none

/-- A hexadecimal digit has its value. -/
theorem hexValue?_hexDigit (value : Nat) :
    JsonToken.hexValue? (hexDigit value) = some (value % 16) := by
  have digits : ∀ digit < 16, JsonToken.hexValue? (Nat.digitChar digit) = some digit := by decide
  exact digits (value % 16) (Nat.mod_lt value (by decide))

/-- The text that stands for a character inside a string is read as that character. -/
theorem readChar?_escapeChar (character : Char) (rest : List Char) :
    readChar? (escapeChar character ++ rest) = some (character, rest) := by
  unfold escapeChar
  split
  case h_8 noQuote noBackslash _ _ _ _ _ =>
    split
    next control =>
      have code : character.toNat / 16 % 16 * 16 + character.toNat % 16 = character.toNat := by
        omega
      simp [readChar?, hexValue?_hexDigit, code, Char.ofNat_toNat]
    next =>
      rw [List.singleton_append, readChar?]
      · exact noQuote
      · exact fun _ _ _ same _ => noBackslash same
      · exact fun _ _ same _ => noBackslash same
  all_goals rfl

/-- Two strings that stand at the front of one text are the same. -/
theorem stringChars_append_inj
    {left right : String}
    {leftRest rightRest : List Char}
    (text : stringChars left ++ leftRest = stringChars right ++ rightRest) :
    left = right ∧ leftRest = rightRest := by
  rw [← String.toList_inj]
  simp only [stringChars, List.cons_append, List.append_assoc, List.cons.injEq, true_and,
    List.nil_append] at text
  generalize left.toList = left at text ⊢
  generalize right.toList = right at text ⊢
  induction left generalizing right with
  | nil =>
      cases right with
      | nil => exact ⟨rfl, (List.cons.inj text).2⟩
      | cons first right =>
          have reads := readChar?_escapeChar first (right.flatMap escapeChar ++ '"' :: rightRest)
          rw [← List.append_assoc, ← List.flatMap_cons, ← text] at reads
          cases reads
  | cons first left hypothesis =>
      have reads := readChar?_escapeChar first (left.flatMap escapeChar ++ '"' :: leftRest)
      rw [← List.append_assoc, ← List.flatMap_cons, text] at reads
      cases right with
      | nil => cases reads
      | cons other right =>
          rw [List.flatMap_cons, List.append_assoc, readChar?_escapeChar] at reads
          obtain ⟨rfl, sameRest⟩ := Prod.mk.inj (Option.some.inj reads)
          obtain ⟨rfl, rest⟩ := hypothesis right sameRest.symm
          exact ⟨rfl, rest⟩

end Json

namespace Decimal

open JsonToken (isNumberChar)

/-- Digits of a number, its point, its signs and its exponent mark. -/
def Numeric (characters : List Char) : Prop :=
  ∀ character ∈ characters, isNumberChar character = true

@[simp] theorem numeric_append (front behind : List Char) :
    Numeric (front ++ behind) ↔ Numeric front ∧ Numeric behind :=
  List.forall_mem_append

@[simp] theorem numeric_cons (first : Char) (rest : List Char) :
    Numeric (first :: rest) ↔ isNumberChar first = true ∧ Numeric rest :=
  List.forall_mem_cons

@[simp] theorem numeric_nil : Numeric [] :=
  List.forall_mem_nil _

theorem Numeric.of_subset
    {characters fewer : List Char}
    (numeric : Numeric characters)
    (subset : fewer ⊆ characters) :
    Numeric fewer :=
  fun character present => numeric character (subset present)

theorem Numeric.exists_head
    {characters : List Char}
    (numeric : Numeric characters)
    (nonempty : characters ≠ []) :
    ∃ first rest, characters = first :: rest ∧ isNumberChar first = true := by
  obtain ⟨first, rest, rfl⟩ := List.exists_cons_of_ne_nil nonempty
  exact ⟨first, rest, rfl, numeric first List.mem_cons_self⟩

theorem numeric_zeros (count : Nat) : Numeric (List.replicate count '0') := by
  intro character present
  rw [List.eq_of_mem_replicate present]
  decide

theorem numeric_digitChars (value : Nat) : Numeric (digitChars value) := by
  intro character present
  have isDigit := Nat.isDigit_of_mem_toDigits (by decide) (by decide) present
  simp [isNumberChar, isDigit]

theorem numeric_positionalChars
    {digits : List Char}
    (numeric : Numeric digits)
    (whole : Int) :
    Numeric (positionalChars digits whole) := by
  have front := numeric.of_subset (List.take_subset whole.toNat digits)
  have behind := numeric.of_subset (List.drop_subset whole.toNat digits)
  unfold positionalChars
  split
  · simp [numeric, numeric_zeros, isNumberChar]
  · split
    · simp [numeric, numeric_zeros, isNumberChar]
    · simp [front, behind, isNumberChar]

theorem numeric_exponentChars
    {digits : List Char}
    (numeric : Numeric digits)
    (power : Int) :
    Numeric (exponentChars digits power) := by
  have front := numeric.of_subset (List.take_subset 1 digits)
  have behind := numeric.of_subset (List.tail_sublist digits).subset
  unfold exponentChars powerChars
  split <;> split <;> simp [front, behind, numeric_digitChars, isNumberChar]

theorem numeric_chars (decimal : Decimal) : Numeric decimal.chars := by
  unfold chars
  simp only
  split
  · exact numeric_positionalChars (numeric_digitChars _) _
  · exact numeric_exponentChars (numeric_digitChars _) _

theorem chars_ne_nil (decimal : Decimal) : decimal.chars ≠ [] := by
  unfold chars
  simp only
  split
  · unfold positionalChars
    split
    · simp
    · split <;> simp
  · simp [exponentChars]

theorem numeric_intChars (value : Int) : Numeric (intChars value) := by
  unfold intChars
  split <;> simp [numeric_digitChars, isNumberChar]

theorem intChars_ne_nil (value : Int) : intChars value ≠ [] := by
  unfold intChars
  split
  · exact List.cons_ne_nil _ _
  · exact Nat.toDigits_ne_nil

end Decimal

namespace Json

/-- A number begins with a character of its own, or like null. -/
theorem exists_head_numberChars (value : JsonNumber) :
    ∃ first rest, numberChars value = first :: rest ∧
      (JsonToken.isNumberChar first = true ∨ first = 'n') := by
  cases value with
  | int value =>
      obtain ⟨first, rest, begins, own⟩ :=
        (Decimal.numeric_intChars value).exists_head (Decimal.intChars_ne_nil value)
      exact ⟨first, rest, begins, Or.inl own⟩
  | float word =>
      rw [numberChars]
      split
      next =>
        split
        · exact ⟨'-', _, rfl, Or.inl rfl⟩
        · obtain ⟨first, rest, begins, own⟩ := (Decimal.numeric_chars _).exists_head
            (Decimal.chars_ne_nil (Decimal.shortest word))
          exact ⟨first, rest, begins, Or.inl own⟩
      next => exact ⟨'n', "ull".toList, rfl, Or.inr rfl⟩

/-- Whether a character is a quote or a bracket. -/
def isBoundary (character : Char) : Bool :=
  ['"', '[', ']', '\x7b', '\x7d'].contains character

theorem not_isNumberChar_of_isBoundary
    {character : Char}
    (boundary : isBoundary character = true) :
    ¬(JsonToken.isNumberChar character = true ∨ character = 'n') := by
  have apart : (['"', '[', ']', '\x7b', '\x7d'].all fun mark =>
      !JsonToken.isNumberChar mark && mark != 'n') = true := by
    decide
  have chosen := List.all_eq_true.mp apart character (List.contains_iff_mem.mp boundary)
  simpa using chosen

/-- The quote or the bracket that a value begins with. -/
def boundary? : Json → Option Char
  | .string _ => some '"'
  | .array _ => some '['
  | .object _ => some '\x7b'
  | .null | .bool _ | .number _ => none

/-- What begins with a quote or a bracket is a value of that sort. -/
theorem boundary?_of_chars
    {value : Json}
    {rest behind : List Char}
    {first : Char}
    (text : value.chars ++ rest = first :: behind)
    (boundary : isBoundary first = true) :
    value.boundary? = some first := by
  cases value with
  | null =>
      obtain ⟨rfl, -⟩ := List.cons.inj text
      cases boundary
  | bool value =>
      cases value with
      | false =>
          obtain ⟨rfl, -⟩ := List.cons.inj text
          cases boundary
      | true =>
          obtain ⟨rfl, -⟩ := List.cons.inj text
          cases boundary
  | number value =>
      obtain ⟨head, later, begins, own⟩ := exists_head_numberChars value
      rw [chars, begins] at text
      obtain ⟨rfl, -⟩ := List.cons.inj text
      exact absurd own (not_isNumberChar_of_isBoundary boundary)
  | string value => exact congrArg some (List.cons.inj text).1
  | array items => exact congrArg some (List.cons.inj text).1
  | object members => exact congrArg some (List.cons.inj text).1

mutual

/-- Whether a value is made of texts only. -/
def isVerbal : Json → Bool
  | .string _ => true
  | .array items => areVerbal items
  | .object members => areVerbalMembers members
  | .null | .bool _ | .number _ => false

/-- Whether the values of a list are made of texts only. -/
def areVerbal : List Json → Bool
  | [] => true
  | item :: rest => isVerbal item && areVerbal rest

/-- Whether the values of the members of a list are made of texts only. -/
def areVerbalMembers : List (String × Json) → Bool
  | [] => true
  | (_, value) :: rest => isVerbal value && areVerbalMembers rest

end

mutual

/-- A verbal value equals only itself. -/
theorem eq_of_agree_of_verbal :
    (left right : Json) → right.isVerbal = true → agree (· == ·) left right = true → left = right
  | .string _, right, _, equal => by cases right <;> simp_all [agree]
  | .array left, right, verbal, equal => by
      cases right with
      | array right =>
          rw [isVerbal] at verbal
          rw [eq_of_agreeItems_of_verbal left right verbal (by simpa [agree] using equal)]
      | _ => simp [agree] at equal
  | .object left, right, verbal, equal => by
      cases right with
      | object right =>
          rw [isVerbal] at verbal
          rw [eq_of_agreeMembers_of_verbal left right verbal (by simpa [agree] using equal)]
      | _ => simp [agree] at equal
  | .null, right, verbal, equal => by cases right <;> simp_all [agree, isVerbal]
  | .bool _, right, verbal, equal => by cases right <;> simp_all [agree, isVerbal]
  | .number _, right, verbal, equal => by cases right <;> simp_all [agree, isVerbal]

/-- A list of verbal values equals only itself. -/
theorem eq_of_agreeItems_of_verbal :
    (left right : List Json) → areVerbal right = true →
    agreeItems (· == ·) left right = true → left = right
  | [], right, _, equal => by cases right <;> simp_all [agreeItems]
  | item :: rest, right, verbal, equal => by
      cases right with
      | nil => simp [agreeItems] at equal
      | cons other others =>
          rw [areVerbal, Bool.and_eq_true] at verbal
          rw [agreeItems, Bool.and_eq_true] at equal
          rw [eq_of_agree_of_verbal item other verbal.1 equal.1,
            eq_of_agreeItems_of_verbal rest others verbal.2 equal.2]

/-- A list of members with verbal values equals only itself. -/
theorem eq_of_agreeMembers_of_verbal :
    (left right : List (String × Json)) → areVerbalMembers right = true →
    agreeMembers (· == ·) left right = true → left = right
  | [], right, _, equal => by cases right <;> simp_all [agreeMembers]
  | (key, value) :: rest, right, verbal, equal => by
      cases right with
      | nil => simp [agreeMembers] at equal
      | cons other others =>
          obtain ⟨otherKey, otherValue⟩ := other
          rw [areVerbalMembers, Bool.and_eq_true] at verbal
          simp only [agreeMembers, Bool.and_eq_true, beq_iff_eq] at equal
          rw [equal.1, eq_of_agree_of_verbal value otherValue verbal.1 equal.2.1,
            eq_of_agreeMembers_of_verbal rest others verbal.2 equal.2.2]

end

/-- What is written behind the first part of a list, given how lists of parts are written. -/
def laterChars {α : Type} (charsOf : List α → List Char) : List α → List Char
  | [] => []
  | next :: rest => ',' :: charsOf (next :: rest)

theorem itemChars_cons (item : Json) (rest : List Json) :
    itemChars (item :: rest) = item.chars ++ laterChars itemChars rest := by
  cases rest with
  | nil => exact (List.append_nil _).symm
  | cons next rest => rfl

theorem memberChars_cons (key : String) (value : Json) (rest : List (String × Json)) :
    memberChars ((key, value) :: rest) =
      stringChars key ++ ':' :: (value.chars ++ laterChars memberChars rest) := by
  cases rest with
  | nil => rw [memberChars, laterChars, List.append_nil]
  | cons next rest => rfl

/-- What stands behind the first parts of two lists is written alike only if the rests are. -/
theorem charsOf_of_laterChars
    {α : Type}
    {charsOf : List α → List Char}
    {closing : Char}
    {left right : List α}
    {leftRest rightRest : List Char}
    (noComma : closing ≠ ',')
    (text : laterChars charsOf left ++ closing :: leftRest =
      laterChars charsOf right ++ closing :: rightRest) :
    charsOf left ++ closing :: leftRest = charsOf right ++ closing :: rightRest := by
  cases left with
  | nil =>
      cases right with
      | nil => rw [(List.cons.inj text).2]
      | cons next right => exact absurd (List.cons.inj text).1 noComma
  | cons second left =>
      cases right with
      | nil => exact absurd (List.cons.inj text).1.symm noComma
      | cons next right => exact (List.cons.inj text).2

mutual

/-- What is written like a verbal value at the front of a text is that value. -/
theorem eq_of_chars_of_verbal :
    (left right : Json) → {leftRest rightRest : List Char} → right.isVerbal = true →
    left.chars ++ leftRest = right.chars ++ rightRest → left = right ∧ leftRest = rightRest
  | left, .string right, _, _, _, text => by
      have sort := boundary?_of_chars (text.trans List.cons_append) rfl
      cases left with
      | string left =>
          obtain ⟨rfl, sameRest⟩ := stringChars_append_inj text
          exact ⟨rfl, sameRest⟩
      | _ => cases sort
  | left, .array right, leftRest, rightRest, verbal, text => by
      have sort := boundary?_of_chars (text.trans List.cons_append) rfl
      rw [isVerbal] at verbal
      cases left with
      | array left =>
          have items : itemChars left ++ (']' :: leftRest) =
              itemChars right ++ (']' :: rightRest) := by
            simpa [chars] using text
          obtain ⟨rfl, sameRest⟩ := eq_of_itemChars_of_verbal left right verbal items
          exact ⟨rfl, sameRest⟩
      | _ => cases sort
  | left, .object right, leftRest, rightRest, verbal, text => by
      have sort := boundary?_of_chars (text.trans List.cons_append) rfl
      rw [isVerbal] at verbal
      cases left with
      | object left =>
          have members : memberChars left ++ ('\x7d' :: leftRest) =
              memberChars right ++ ('\x7d' :: rightRest) := by
            simpa [chars] using text
          obtain ⟨rfl, sameRest⟩ := eq_of_memberChars_of_verbal left right verbal members
          exact ⟨rfl, sameRest⟩
      | _ => cases sort
  | _, .null, _, _, verbal, _ => by simp [isVerbal] at verbal
  | _, .bool _, _, _, verbal, _ => by simp [isVerbal] at verbal
  | _, .number _, _, _, verbal, _ => by simp [isVerbal] at verbal

/-- Items written like verbal ones, up to the end of the list, are these. -/
theorem eq_of_itemChars_of_verbal :
    (left right : List Json) → {leftRest rightRest : List Char} → areVerbal right = true →
    itemChars left ++ (']' :: leftRest) = itemChars right ++ (']' :: rightRest) →
    left = right ∧ leftRest = rightRest
  | [], [], _, _, _, text => ⟨rfl, (List.cons.inj text).2⟩
  | item :: left, [], _, _, _, text => by
      rw [itemChars_cons, List.append_assoc] at text
      have sort := boundary?_of_chars text rfl
      cases item <;> cases sort
  | left, other :: right, leftRest, rightRest, verbal, text => by
      rw [areVerbal, Bool.and_eq_true] at verbal
      rw [itemChars_cons, List.append_assoc] at text
      cases left with
      | nil =>
          have sort := boundary?_of_chars text.symm rfl
          cases other <;> cases sort
      | cons item left =>
          rw [itemChars_cons, List.append_assoc] at text
          obtain ⟨rfl, later⟩ := eq_of_chars_of_verbal item other verbal.1 text
          obtain ⟨rfl, sameRest⟩ := eq_of_itemChars_of_verbal left right verbal.2
            (charsOf_of_laterChars (by decide) later)
          exact ⟨rfl, sameRest⟩

/-- Members written like those with verbal values, up to the end of the object, are these. -/
theorem eq_of_memberChars_of_verbal :
    (left right : List (String × Json)) → {leftRest rightRest : List Char} →
    areVerbalMembers right = true →
    memberChars left ++ ('\x7d' :: leftRest) = memberChars right ++ ('\x7d' :: rightRest) →
    left = right ∧ leftRest = rightRest
  | [], [], _, _, _, text => ⟨rfl, (List.cons.inj text).2⟩
  | (key, value) :: left, [], _, _, _, text => by
      rw [memberChars_cons] at text
      cases (List.cons.inj text).1
  | left, (otherKey, other) :: right, leftRest, rightRest, verbal, text => by
      rw [areVerbalMembers, Bool.and_eq_true] at verbal
      rw [memberChars_cons, List.append_assoc] at text
      cases left with
      | nil => cases (List.cons.inj text).1
      | cons member left =>
          obtain ⟨key, value⟩ := member
          rw [memberChars_cons, List.append_assoc] at text
          obtain ⟨rfl, behindKey⟩ := stringChars_append_inj text
          obtain ⟨rfl, later⟩ := eq_of_chars_of_verbal value other verbal.1
            (by simpa using (List.cons.inj behindKey).2)
          obtain ⟨rfl, sameRest⟩ := eq_of_memberChars_of_verbal left right verbal.2
            (charsOf_of_laterChars (by decide) later)
          exact ⟨rfl, sameRest⟩

end

/-- A verbal value and any other value are equal exactly when their compact texts are. -/
theorem beq_iff_compact_of_verbal
    {left right : Json}
    (verbal : right.isVerbal = true) :
    (left == right) = true ↔ left.compact = right.compact := by
  constructor
  · intro equal
    rw [eq_of_agree_of_verbal left right verbal equal]
  · intro text
    have chars : left.chars ++ [] = right.chars ++ [] := by
      rw [List.append_nil, List.append_nil]
      exact String.ofList_injective text
    rw [(eq_of_chars_of_verbal left right verbal chars).1]
    exact beq_self right

end Json

end RoomHistory
