import SqlDraft.Text.Blank

/-!
# Decimal numerals

Whole numbers as decimal digits, and the reading back of numerals with an optional sign. A numeral
may have any number of leading zeros; writing produces none.
-/

namespace SqlDraft.Text

/-- The digit for a value below ten. -/
def digitChar (d : Nat) : Char := Char.ofNat (48 + d)

/-- The value of an ASCII digit. -/
def digitValue (c : Char) : Nat := c.toNat - 48

/-- The decimal digits of a natural number, the most significant one first. -/
def decimal (n : Nat) : List Char :=
  if n < 10 then [digitChar n] else decimal (n / 10) ++ [digitChar (n % 10)]

/-- The decimal digits of an integer, behind a minus sign if it is negative. -/
def decimalInt : Int → List Char
  | .ofNat n => decimal n
  | .negSucc n => '-' :: decimal (n + 1)

/-- Decimal digits with zeros in front, up to at least the given width. -/
def padded (width n : Nat) : List Char :=
  List.replicate (width - (decimal n).length) '0' ++ decimal n

/-- The number that a row of digits stands for. -/
def digitsValue (s : List Char) : Nat := s.foldl (fun n c => 10 * n + digitValue c) 0

/-- Reads one or more ASCII digits and nothing else. -/
def natural? (s : List Char) : Option Nat :=
  if s.isEmpty then none else if s.all Char.isDigit then some (digitsValue s) else none

/-- Reads an optional sign and then one or more ASCII digits. -/
def integer? : List Char → Option Int
  | '-' :: digits => (natural? digits).map fun n => -(n : Int)
  | '+' :: digits => (natural? digits).map fun n => (n : Int)
  | digits => (natural? digits).map fun n => (n : Int)

/-- The 64-bit word with the given value, if there is one. -/
def word64? (n : Int) : Option Int64 :=
  if -0x8000000000000000 ≤ n ∧ n < 0x8000000000000000 then some (Int64.ofInt n) else none

/-- The value of a hexadecimal digit. -/
def hexValue? (c : Char) : Option Nat :=
  if c.isDigit then some (c.toNat - 48)
  else if 'a' ≤ c ∧ c ≤ 'f' then some (c.toNat - 87)
  else if 'A' ≤ c ∧ c ≤ 'F' then some (c.toNat - 55)
  else none

/-- The value of hexadecimal digits. -/
def hexNumber? (digits : List Char) : Option Nat :=
  digits.foldl (fun n c => n.bind fun n => (hexValue? c).map fun d => 16 * n + d) (some 0)

/-- A natural number as text. -/
def natText (n : Nat) : String := String.ofList (decimal n)

/-- An integer as text. -/
def intText (n : Int) : String := String.ofList (decimalInt n)

theorem digitsValue_append (s : List Char) (c : Char) :
    digitsValue (s ++ [c]) = 10 * digitsValue s + digitValue c := by
  simp [digitsValue, List.foldl_append]

end SqlDraft.Text
