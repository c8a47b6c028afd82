import RoomHistory.Text.Unprintable

/-!
# Quoted text

A text is shown between double quotes.  Quotes, backslashes and the usual control characters have
short escapes, other characters that cannot be shown are written by their code in hexadecimal, and
all others stand for themselves.
-/

namespace RoomHistory

namespace Quoted

/-- The code of a character between braces, in lower case without leading zeros. -/
def codeEscape (character : Char) : List Char :=
  ['\\', 'u', '\x7b'] ++ Nat.toDigits 16 character.toNat ++ ['\x7d']

/-- The text that shows a character. -/
def escapeChar (character : Char) : List Char :=
  match character with
  | '"' => ['\\', '"']
  | '\\' => ['\\', '\\']
  | '\n' => ['\\', 'n']
  | '\r' => ['\\', 'r']
  | '\t' => ['\\', 't']
  | '\x00' => ['\\', '0']
  | other => if Unprintable.isUnprintable other then codeEscape other else [other]

/-- The quoted form of a text. -/
def quote (text : String) : String :=
  String.ofList ('"' :: text.toList.flatMap escapeChar ++ ['"'])

end Quoted

end RoomHistory
