import SqlDraft.Text.Hidden
import SqlDraft.Text.Quoted

/-!
# Escaped text for messages

How a message shows a text that may hold anything: between double quotes, with a backslash before
quotes and backslashes, short names for the common control characters, and the number of every other
character that does not show on its own.
-/

namespace SqlDraft.Text

/-- Hexadecimal digits with small letters, the most significant one first and no leading zero. -/
def hexadecimal (n : Nat) : List Char :=
  if n < 16 then [(hexDigit n).toLower] else hexadecimal (n / 16) ++ [(hexDigit (n % 16)).toLower]

/-- One character as a message shows it. -/
def escapedChar (c : Char) : List Char :=
  match c with
  | '\x00' => ['\\', '0']
  | '\t' => ['\\', 't']
  | '\n' => ['\\', 'n']
  | '\r' => ['\\', 'r']
  | '\x22' => ['\\', '\x22']
  | '\\' => ['\\', '\\']
  | c => if isHidden c then ['\\', 'u', '\x7b'] ++ hexadecimal c.toNat ++ ['\x7d'] else [c]

/-- A text as a message shows it. -/
def escaped (s : String) : String :=
  String.ofList ('\x22' :: (s.toList.flatMap escapedChar ++ ['\x22']))

end SqlDraft.Text
