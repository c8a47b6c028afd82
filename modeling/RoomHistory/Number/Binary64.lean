/-!
# Binary64 words

A number with a fraction or an exponent is held as a 64-bit word: a sign bit, eleven exponent
bits and fifty-two fraction bits.  All arithmetic here is on natural numbers.  A word is read as
`± significand · 2 ^ exponent`, and a ratio of naturals is written as the word nearest to it,
a tie going to the even neighbour.  A ratio too large for a finite word has none.
-/

namespace RoomHistory

/-- A 64-bit floating-point word. -/
structure Binary64 where
  /-- Sign, exponent and fraction, from the highest bit to the lowest. -/
  bits : UInt64
  deriving DecidableEq

namespace Binary64

/-- A power of two. -/
def twoPow (exponent : Nat) : Nat := Nat.pow 2 exponent

/-- How many fractions there are under one exponent. -/
def fractionCount : Nat := twoPow 52

/-- What the sign bit counts for in a word. -/
def signBit : Nat := twoPow 63

/-- The power of two of the least positive word. -/
def leastExponent : Int := -1074

/-- Magnitudes from this one on, sign bit aside, are not finite. -/
def infiniteMagnitude : Nat := 2047 * fractionCount

/-- Whether the sign bit is set. -/
def negative (word : Binary64) : Bool :=
  decide (signBit ≤ word.bits.toNat)

/-- The word without its sign bit. -/
def magnitude (word : Binary64) : Nat :=
  word.bits.toNat % signBit

/-- Both signed zeros have magnitude zero. -/
def isZero (word : Binary64) : Bool :=
  word.magnitude == 0

/-- Infinities and undefined words are not finite. -/
def isFinite (word : Binary64) : Bool :=
  decide (word.magnitude < infiniteMagnitude)

/-- The stored exponent, zero for words below the least normal one. -/
def exponentField (word : Binary64) : Nat :=
  word.magnitude / fractionCount

/-- The whole number that the word scales by a power of two. -/
def significand (word : Binary64) : Nat :=
  let fraction := word.magnitude % fractionCount
  if word.exponentField = 0 then fraction else fractionCount + fraction

/-- The power of two by which the word scales its significand. -/
def exponent (word : Binary64) : Int :=
  if word.exponentField = 0 then leastExponent
  else leastExponent + word.exponentField - 1

/-- The word with the given sign and magnitude. -/
def ofMagnitude (negative : Bool) (magnitude : Nat) : Binary64 :=
  ⟨UInt64.ofNat (magnitude + if negative then signBit else 0)⟩

/-- The zero of the given sign. -/
def zero (negative : Bool) : Binary64 :=
  ofMagnitude negative 0

/-- The numerator of the absolute value of a finite word, over `denominator`. -/
def numerator (word : Binary64) : Nat :=
  word.significand * twoPow word.exponent.toNat

/-- The denominator of the absolute value of a finite word, a power of two. -/
def denominator (word : Binary64) : Nat :=
  twoPow (-word.exponent).toNat

/-- The quotient of two naturals rounded to a whole number, a tie going to the even neighbour. -/
def roundDivide (dividend divisor : Nat) : Nat :=
  let quotient := dividend / divisor
  let excess := 2 * (dividend % divisor)
  if excess > divisor ∨ (excess = divisor ∧ quotient % 2 = 1) then quotient + 1 else quotient

/-- The exponent at which a positive ratio has a significand of full width, or the least one. -/
def scaleFor (dividend divisor : Nat) : Int :=
  let low : Int := (Nat.log2 dividend : Int) - Nat.log2 divisor - 53
  let wide :=
    dividend * twoPow (-low).toNat / (divisor * twoPow low.toNat) ≥ 2 * fractionCount
  max leastExponent (if wide then low + 1 else low)

/-- The word nearest to a ratio of naturals with the given sign, if that word is finite. -/
def ofRatio (negative : Bool) (dividend divisor : Nat) : Option Binary64 :=
  if dividend = 0 then some (zero negative)
  else
    let scale := scaleFor dividend divisor
    let rounded :=
      roundDivide (dividend * twoPow (-scale).toNat) (divisor * twoPow scale.toNat)
    let magnitude := (scale - leastExponent).toNat * fractionCount + rounded
    if magnitude < infiniteMagnitude then some (ofMagnitude negative magnitude) else none

/-- The nearest word to a whole number, if it is finite. -/
def ofNat (value : Nat) : Option Binary64 :=
  ofRatio false value 1

/-- The word with its sign bit set as given. -/
def withSign (negative : Bool) (word : Binary64) : Binary64 :=
  ofMagnitude negative word.magnitude

/-- The word nearest to the exact product, if it is finite. -/
def multiply (left right : Binary64) : Option Binary64 :=
  ofRatio (left.negative != right.negative)
    (left.numerator * right.numerator) (left.denominator * right.denominator)

/-- The word nearest to the exact quotient by a word that is not zero, if it is finite. -/
def divide (left right : Binary64) : Option Binary64 :=
  ofRatio (left.negative != right.negative)
    (left.numerator * right.denominator) (left.denominator * right.numerator)

/-- Words are equal as numbers when they are the same word, or both zero. -/
instance : BEq Binary64 :=
  ⟨fun left right => decide (left = right) || (left.isZero && right.isZero)⟩

/-- Equality as numbers differs from identity only between the two zeros. -/
theorem beq_iff (left right : Binary64) :
    (left == right) = true ↔ left = right ∨ (left.isZero = true ∧ right.isZero = true) := by
  show (decide (left = right) || (left.isZero && right.isZero)) = true ↔ _
  simp

@[simp] theorem beq_self (word : Binary64) : (word == word) = true := by
  simp [beq_iff]

theorem beq_comm (left right : Binary64) : (left == right) = (right == left) := by
  rw [Bool.eq_iff_iff, beq_iff, beq_iff, eq_comm, and_comm]

end Binary64

end RoomHistory
