import RoomHistory.Number.Binary64

/-!
# Shortest decimal digits

The shortest decimal of a finite positive word is the one on the coarsest decimal grid that has a
point rounding to the word.  Of two such points the nearer one is taken, and of two equally near
the even one.  The search walks the grids from coarse to fine and stops at the first hit.
-/

namespace RoomHistory

/-- The number `digits · 10 ^ exponent`. -/
structure Decimal where
  digits : Nat
  exponent : Int
  deriving DecidableEq

namespace Decimal

/-- A power of ten. -/
def tenPow (exponent : Nat) : Nat := Nat.pow 10 exponent

/-- The numerator of the number as a ratio of naturals. -/
def numerator (decimal : Decimal) : Nat :=
  decimal.digits * tenPow decimal.exponent.toNat

/-- The denominator of the number as a ratio of naturals. -/
def denominator (decimal : Decimal) : Nat :=
  tenPow (-decimal.exponent).toNat

/-- Whether the number rounds to the absolute value of `word`. -/
def roundsTo (decimal : Decimal) (word : Binary64) : Bool :=
  decide (Binary64.ofRatio false decimal.numerator decimal.denominator
    = some (word.withSign false))

/-- The greatest point of the grid `10 ^ exponent` that is not above `word`. -/
def below (word : Binary64) (exponent : Int) : Decimal :=
  let scaled := word.numerator * tenPow (-exponent).toNat
  ⟨scaled / (word.denominator * tenPow exponent.toNat), exponent⟩

/-- The next point of the same grid. -/
def next (decimal : Decimal) : Decimal :=
  ⟨decimal.digits + 1, decimal.exponent⟩

/-- Whether `word` lies strictly nearer to the next point, or halfway with this point odd. -/
def prefersNext (decimal : Decimal) (word : Binary64) : Bool :=
  let twice := 2 * word.numerator * tenPow (-decimal.exponent).toNat
  let middle := (2 * decimal.digits + 1) * tenPow decimal.exponent.toNat * word.denominator
  decide (middle < twice) || (decide (middle = twice) && decimal.digits % 2 == 1)

/-- The point of the grid `10 ^ exponent` nearest to `word` among those that round to it. -/
def onGrid? (word : Binary64) (exponent : Int) : Option Decimal :=
  let low := below word exponent
  match low.roundsTo word, low.next.roundsTo word with
  | true, true => some (if low.prefersNext word then low.next else low)
  | true, false => some low
  | false, true => some low.next
  | false, false => none

/-- The first hit on the grids from `10 ^ exponent` down, at most `steps` of them. -/
def coarsest (word : Binary64) : Nat → Int → Decimal
  | 0, exponent => below word exponent
  | steps + 1, exponent =>
      match onGrid? word exponent with
      | some decimal => decimal
      | none => coarsest word steps (exponent - 1)

/-- The exponent of a grid on which no point but zero lies below twice a positive word.  The word
lies below the power of two counted by the places of its significand and its exponent, and a power
of two has about 0.30103 times as many decimal places. -/
def coarseExponent (word : Binary64) : Int :=
  (word.significand.log2 + word.exponent + 2) * 30103 / 100000 + 1

/-- Every positive word is hit within this many grids from that one on, since seventeen digits tell
all words apart. -/
def gridCount : Nat := 20

/-- The shortest decimal that rounds to the absolute value of a finite word. -/
def shortest (word : Binary64) : Decimal :=
  if word.isZero then ⟨0, 0⟩ else coarsest word gridCount (coarseExponent word)

end Decimal

end RoomHistory
