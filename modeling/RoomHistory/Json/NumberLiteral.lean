import RoomHistory.Json.Basic
import RoomHistory.Number.Decimal

/-!
# Number literals

A literal is split into sign, whole digits, fraction digits and exponent.  A literal of whole
digits alone is an integer while it fits in 64 bits, signed below zero and unsigned above.  Any
other literal is a binary word: as many leading digits as fit in 64 unsigned bits are rounded to
a word, which is then multiplied or divided, with one rounding each, by powers of ten up to the
308th.  A literal whose word would not be finite has no value.
-/

namespace RoomHistory

/-- The parts of a number literal, digits given by their values. -/
structure NumberLiteral where
  negative : Bool
  whole : List Nat
  /-- The digits after the point; no digits when there is no point. -/
  fraction : List Nat
  /-- The power of ten after the exponent mark, if there is a mark. -/
  power : Option Int
  deriving DecidableEq

namespace NumberLiteral

/-- The greatest unsigned number of 64 bits. -/
def greatestWord : Nat := UInt64.size - 1

/-- The magnitude of the least signed number of 64 bits. -/
def leastMagnitude : Nat := UInt64.size / 2

/-- The greatest power of ten that is one factor. -/
def greatestFactor : Nat := 308

/-- Appends digits to a number until it would leave 64 bits; gives the digits left over. -/
def accumulate (value : Nat) : List Nat → Nat × List Nat
  | [] => (value, [])
  | digit :: rest =>
      if greatestWord < value * 10 + digit then (value, digit :: rest)
      else accumulate (value * 10 + digit) rest

/-- The word times a power of ten, if it is finite. -/
def scaleUp (word : Binary64) (power : Nat) : Option Binary64 :=
  if power ≤ greatestFactor then do
    let factor ← Binary64.ofNat (Decimal.tenPow power)
    word.multiply factor
  else if word.isZero then some word else none

/-- The word divided by a power of ten, the greatest factor at a time. -/
def scaleDown (word : Binary64) (power : Nat) : Option Binary64 :=
  if power ≤ greatestFactor then do
    let factor ← Binary64.ofNat (Decimal.tenPow power)
    word.divide factor
  else if word.isZero then some word
  else do
    let factor ← Binary64.ofNat (Decimal.tenPow greatestFactor)
    let quotient ← word.divide factor
    scaleDown quotient (power - greatestFactor)
termination_by power
decreasing_by simp [greatestFactor] at *; omega

/-- The signed word `value · 10 ^ power`, if it is finite. -/
def word? (negative : Bool) (value : Nat) (power : Int) : Option Binary64 := do
  let start ← Binary64.ofNat value
  let scaled ← if power < 0 then scaleDown start power.natAbs else scaleUp start power.natAbs
  return scaled.withSign negative

/-- The integer that a literal of whole digits stands for, if it fits in 64 bits. -/
def int? (negative : Bool) (value : Nat) : Option Int :=
  if negative then
    if value = 0 ∨ leastMagnitude < value then none else some (-value)
  else some value

/-- The value of a literal. -/
def value? (literal : NumberLiteral) : Option JsonNumber :=
  let (whole, wholeLeft) := accumulate 0 literal.whole
  let isWhole := literal.fraction.isEmpty && literal.power.isNone && wholeLeft.isEmpty
  match if isWhole then int? literal.negative whole else none with
  | some value => some (.int value)
  | none =>
      let (digits, fractionLeft) := accumulate whole literal.fraction
      let shift : Int := wholeLeft.length - (literal.fraction.length - fractionLeft.length : Nat)
      (word? literal.negative digits (shift + literal.power.getD 0)).map .float

/-- The digits at the front of a text, and the rest. -/
def takeDigits : List Char → List Nat × List Char
  | [] => ([], [])
  | character :: rest =>
      if character.isDigit then
        let (digits, left) := takeDigits rest
        ((character.toNat - '0'.toNat) :: digits, left)
      else ([], character :: rest)

/-- The number that decimal digits stand for. -/
def ofDigits (digits : List Nat) : Nat :=
  digits.foldl (fun value digit => value * 10 + digit) 0

/-- Reads an optional sign in front of the digits of an exponent. -/
def takeSign : List Char → Bool × List Char
  | '-' :: rest => (true, rest)
  | '+' :: rest => (false, rest)
  | rest => (false, rest)

/-- Reads a point and at least one digit, if there is a point. -/
def takeFraction? : List Char → Option (List Nat × List Char)
  | '.' :: rest =>
      match takeDigits rest with
      | ([], _) => none
      | found => some found
  | rest => some ([], rest)

/-- Reads an exponent up to the end of the literal, if there is one. -/
def takePower? : List Char → Option (Option Int)
  | [] => some none
  | mark :: rest =>
      if mark = 'e' ∨ mark = 'E' then
        let (negative, unsigned) := takeSign rest
        match takeDigits unsigned with
        | (digit :: digits, []) =>
            let power : Int := ofDigits (digit :: digits)
            some (some (if negative then -power else power))
        | _ => none
      else none

/-- Whole digits are a single zero or start with another digit. -/
def wholeIsProper : List Nat → Bool
  | [] => false
  | [_] => true
  | first :: _ => first != 0

/-- Splits the text of a literal, or refuses it. -/
def ofChars? (characters : List Char) : Option NumberLiteral := do
  let (negative, unsigned) := match characters with
    | '-' :: rest => (true, rest)
    | rest => (false, rest)
  let (whole, afterWhole) := takeDigits unsigned
  guard (wholeIsProper whole)
  let (fraction, afterFraction) ← takeFraction? afterWhole
  let power ← takePower? afterFraction
  return ⟨negative, whole, fraction, power⟩

end NumberLiteral

end RoomHistory
