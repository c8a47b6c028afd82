import RoomHistory.Json.NumberLiteral

/-!
# Tokens of a JSON text

The text is read one character at a time by a machine whose state holds the tokens found so far
and the unfinished token.  Escapes of surrogate halves stay as they are: whether a string has a
meaning is asked only when the string is used.
-/

namespace RoomHistory

/-- One unit of a quoted string. -/
inductive TextUnit where
  | char (value : Char)
  /-- Half of a surrogate pair, written as an escape. -/
  | surrogate (code : Nat)
  deriving DecidableEq

namespace TextUnit

/-- The unit that an escaped 16-bit code stands for. -/
def ofCode (code : Nat) : TextUnit :=
  if 0xD800 ≤ code ∧ code ≤ 0xDFFF then .surrogate code else .char (Char.ofNat code)

/-- The character that a leading and a trailing surrogate stand for. -/
def combine? (leading trailing : Nat) : Option Char :=
  if leading ≤ 0xDBFF ∧ 0xDC00 ≤ trailing then
    some (Char.ofNat (0x10000 + (leading - 0xD800) * 0x400 + (trailing - 0xDC00)))
  else none

/-- The characters of a string, unless a surrogate stands alone. -/
def decode? : List TextUnit → Option (List Char)
  | [] => some []
  | .char value :: rest => (decode? rest).map (value :: ·)
  | .surrogate leading :: .surrogate trailing :: rest => do
      let character ← combine? leading trailing
      let decoded ← decode? rest
      return character :: decoded
  | .surrogate _ :: _ => none

end TextUnit

/-- A token of a JSON text. -/
inductive JsonToken where
  | openArray
  | closeArray
  | openObject
  | closeObject
  | comma
  | colon
  | null
  | bool (value : Bool)
  | number (literal : NumberLiteral)
  | string (units : List TextUnit)
  deriving DecidableEq

namespace JsonToken

/-- The unfinished token, its characters or units in reverse. -/
inductive Pending where
  | nothing
  | word (characters : List Char)
  | number (characters : List Char)
  | string (units : List TextUnit)
  | escape (units : List TextUnit)
  /-- `count` hexadecimal digits of an escape are still to come. -/
  | hex (units : List TextUnit) (code count : Nat)
  deriving DecidableEq

/-- The tokens found so far, in reverse, and the unfinished one. -/
structure Scan where
  found : List JsonToken
  pending : Pending
  deriving DecidableEq

/-- The token that a word of letters stands for. -/
def ofWord? (characters : List Char) : Option JsonToken :=
  if characters = "null".toList then some .null
  else if characters = "true".toList then some (.bool true)
  else if characters = "false".toList then some (.bool false)
  else none

/-- Whether a character can belong to a number literal. -/
def isNumberChar (character : Char) : Bool :=
  character.isDigit || character == '-' || character == '+' || character == '.' ||
    character == 'e' || character == 'E'

/-- Blanks between tokens. -/
def isBlank (character : Char) : Bool :=
  character == ' ' || character == '\n' || character == '\t' || character == '\r'

/-- The value of a hexadecimal digit. -/
def hexValue? (character : Char) : Option Nat :=
  if '0' ≤ character ∧ character ≤ '9' then some (character.toNat - '0'.toNat)
  else if 'a' ≤ character ∧ character ≤ 'f' then some (character.toNat - 'a'.toNat + 10)
  else if 'A' ≤ character ∧ character ≤ 'F' then some (character.toNat - 'A'.toNat + 10)
  else none

/-- The character that a one-letter escape stands for. -/
def escaped? : Char → Option Char
  | '"' => some '"'
  | '\\' => some '\\'
  | '/' => some '/'
  | 'b' => some '\x08'
  | 'f' => some '\x0c'
  | 'n' => some '\n'
  | 'r' => some '\r'
  | 't' => some '\t'
  | _ => none

/-- The token that a mark of punctuation stands for. -/
def ofMark? : Char → Option JsonToken
  | '[' => some .openArray
  | ']' => some .closeArray
  | '\x7b' => some .openObject
  | '\x7d' => some .closeObject
  | ',' => some .comma
  | ':' => some .colon
  | _ => none

namespace Scan

/-- The state before the first character. -/
def start : Scan := ⟨[], .nothing⟩

/-- Starts a new token with a character that stands between tokens. -/
def begin? (found : List JsonToken) (character : Char) : Option Scan :=
  if isBlank character then some ⟨found, .nothing⟩
  else if character = '"' then some ⟨found, .string []⟩
  else if character = '-' ∨ character.isDigit then some ⟨found, .number [character]⟩
  else if character.isAlpha then some ⟨found, .word [character]⟩
  else (ofMark? character).map fun token => ⟨token :: found, .nothing⟩

/-- The tokens, in reverse, once the unfinished word or number has ended. -/
def close? (scan : Scan) : Option (List JsonToken) :=
  match scan.pending with
  | .nothing => some scan.found
  | .word characters => (ofWord? characters.reverse).map (· :: scan.found)
  | .number characters =>
      (NumberLiteral.ofChars? characters.reverse).map fun literal => .number literal :: scan.found
  | .string _ | .escape _ | .hex _ _ _ => none

/-- Takes one character. -/
def step? (scan : Scan) (character : Char) : Option Scan :=
  match scan.pending with
  | .nothing => begin? scan.found character
  | .word characters =>
      if character.isAlpha then some ⟨scan.found, .word (character :: characters)⟩
      else scan.close?.bind (begin? · character)
  | .number characters =>
      if isNumberChar character then some ⟨scan.found, .number (character :: characters)⟩
      else scan.close?.bind (begin? · character)
  | .string units =>
      if character = '"' then some ⟨.string units.reverse :: scan.found, .nothing⟩
      else if character = '\\' then some ⟨scan.found, .escape units⟩
      else if character.toNat < 0x20 then none
      else some ⟨scan.found, .string (.char character :: units)⟩
  | .escape units =>
      if character = 'u' then some ⟨scan.found, .hex units 0 4⟩
      else (escaped? character).map fun value => ⟨scan.found, .string (.char value :: units)⟩
  | .hex units code count =>
      (hexValue? character).map fun digit =>
        let next := code * 16 + digit
        if count ≤ 1 then ⟨scan.found, .string (TextUnit.ofCode next :: units)⟩
        else ⟨scan.found, .hex units next (count - 1)⟩

end Scan

/-- The tokens of a text, or nothing if the text has a part that is none. -/
def scan? (characters : List Char) : Option (List JsonToken) := do
  let last ← characters.foldlM Scan.step? Scan.start
  let found ← last.close?
  return found.reverse

end JsonToken

end RoomHistory
