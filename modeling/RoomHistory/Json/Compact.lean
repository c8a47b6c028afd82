import RoomHistory.Json.Basic
import RoomHistory.Number.Decimal

/-!
# Compact text of JSON values

The compact text has no blanks and lists members by ascending key.  In strings only the quote,
the backslash and the characters below the space are escaped.  A binary word is written by its
shortest digits: positionally, with a fraction always shown, when its leading digit stands for a
power of ten from `-5` to `15`, and otherwise with an exponent whose sign is always shown.
-/

namespace RoomHistory

namespace Decimal

/-- The least power of ten of a leading digit that is written positionally. -/
def leastPositional : Int := -5

/-- The greatest power of ten of a leading digit that is written positionally. -/
def greatestPositional : Int := 15

/-- The digits without trailing zeros, which move into the exponent. -/
def stripZeros : Nat → Decimal → Decimal
  | 0, decimal => decimal
  | steps + 1, decimal =>
      if decimal.digits ≠ 0 ∧ decimal.digits % 10 = 0 then
        stripZeros steps ⟨decimal.digits / 10, decimal.exponent + 1⟩
      else decimal

/-- The digits of a natural number, the leading one first. -/
def digitChars (value : Nat) : List Char :=
  Nat.toDigits 10 value

/-- The text of an integer. -/
def intChars (value : Int) : List Char :=
  if value < 0 then '-' :: digitChars value.natAbs else digitChars value.natAbs

/-- Digits with the point after the first `whole` of them, or zeros before it. -/
def positionalChars (digits : List Char) (whole : Int) : List Char :=
  if whole ≤ 0 then
    ['0', '.'] ++ List.replicate (-whole).toNat '0' ++ digits
  else if (digits.length : Int) ≤ whole then
    digits ++ List.replicate (whole.toNat - digits.length) '0' ++ ['.', '0']
  else digits.take whole.toNat ++ '.' :: digits.drop whole.toNat

/-- The text of a power of ten, its sign always shown. -/
def powerChars (power : Int) : List Char :=
  (if power < 0 then '-' else '+') :: digitChars power.natAbs

/-- Digits with the point after the first, then the power of ten of the first. -/
def exponentChars (digits : List Char) (power : Int) : List Char :=
  let fraction := if digits.length ≤ 1 then [] else '.' :: digits.drop 1
  digits.take 1 ++ fraction ++ 'e' :: powerChars power

/-- The text of a number without sign. -/
def chars (decimal : Decimal) : List Char :=
  let stripped := stripZeros (digitChars decimal.digits).length decimal
  let digits := digitChars stripped.digits
  let power := stripped.exponent + digits.length - 1
  if leastPositional ≤ power ∧ power ≤ greatestPositional then
    positionalChars digits (power + 1)
  else exponentChars digits power

end Decimal

namespace Json

/-- The text of a number; a word that is not finite has none and is written as null. -/
def numberChars : JsonNumber → List Char
  | .int value => Decimal.intChars value
  | .float word =>
      if word.isFinite then
        (if word.negative then ['-'] else []) ++ (Decimal.shortest word).chars
      else "null".toList

/-- A hexadecimal digit in lower case. -/
def hexDigit (value : Nat) : Char :=
  Nat.digitChar (value % 16)

/-- The text that stands for a character inside a string. -/
def escapeChar (character : Char) : List Char :=
  match character with
  | '"' => ['\\', '"']
  | '\\' => ['\\', '\\']
  | '\n' => ['\\', 'n']
  | '\r' => ['\\', 'r']
  | '\t' => ['\\', 't']
  | '\x08' => ['\\', 'b']
  | '\x0c' => ['\\', 'f']
  | other =>
      if other.toNat < 0x20 then
        ['\\', 'u', '0', '0', hexDigit (other.toNat / 16), hexDigit other.toNat]
      else [other]

/-- A string in quotes. -/
def stringChars (text : String) : List Char :=
  '"' :: text.toList.flatMap escapeChar ++ ['"']

mutual

/-- The characters of the compact text. -/
def chars : Json → List Char
  | .null => "null".toList
  | .bool true => "true".toList
  | .bool false => "false".toList
  | .number value => numberChars value
  | .string value => stringChars value
  | .array items => '[' :: itemChars items ++ [']']
  | .object members => '\x7b' :: memberChars members ++ ['\x7d']

/-- The texts of items, separated by commas. -/
def itemChars : List Json → List Char
  | [] => []
  | [item] => chars item
  | item :: next :: rest => chars item ++ ',' :: itemChars (next :: rest)

/-- The texts of members, separated by commas. -/
def memberChars : List (String × Json) → List Char
  | [] => []
  | [(key, value)] => stringChars key ++ ':' :: chars value
  | (key, value) :: next :: rest =>
      stringChars key ++ ':' :: (chars value ++ ',' :: memberChars (next :: rest))

end

/-- The compact text of a value. -/
def compact (value : Json) : String :=
  String.ofList value.chars

end Json

end RoomHistory
