import SqlDraft.Calendar.Timestamp
import SqlDraft.Decimal.Power
import SqlDraft.Text.Digits
import SqlDraft.Text.Start

/-!
# Reading timestamps

The written form, read with some tolerance: blanks may precede every number, the blank between date
and time may be missing or repeated, and numbers may have fewer digits than they are written with. A
year without a sign has at most four digits; with a sign it has as many as there are. Nothing may
follow the last digit.
-/

namespace SqlDraft.Calendar

/-- Takes at most `most` digits off the front, at least one, and gives their value and the rest. -/
def digits? (most : Nat) (s : List Char) : Option (Nat × List Char) :=
  let taken := (s.take most).takeWhile Char.isDigit
  if taken.isEmpty then none else some (Text.digitsValue taken, s.drop taken.length)

/-- A number of at most two digits behind any blanks. -/
def twoDigits? (s : List Char) : Option (Nat × List Char) := digits? 2 (Text.trimStart s)

/-- A year behind any blanks. -/
def year? (s : List Char) : Option (Int × List Char) :=
  match Text.trimStart s with
  | '-' :: rest => (digits? rest.length rest).map fun (n, rest) => (-(n : Int), rest)
  | '+' :: rest => (digits? rest.length rest).map fun (n, rest) => ((n : Int), rest)
  | rest => (digits? 4 rest).map fun (n, rest) => ((n : Int), rest)

/-- The nanoseconds of a fraction's digits, of which the first nine count. -/
def nanos (digits : List Char) : Nat :=
  let counted := digits.take 9
  Text.digitsValue counted * tenTo (9 - counted.length)

/-- The fraction that ends a time: nothing, or a point and one or more digits up to the end. -/
def fraction? : List Char → Option Nat
  | [] => some 0
  | c :: digits => if c = '.' ∧ digits ≠ [] ∧ digits.all Char.isDigit then some (nanos digits) else none

/-- The clock that shows a second, which may be number 60, and a fraction. -/
def Clock.showing (hour minute second nano : Nat) : Clock :=
  if second = 60 then ⟨hour, minute, 59, 1000000000 + nano⟩ else ⟨hour, minute, second, nano⟩

/-- Reads a moment that exists. -/
def Timestamp.read? (s : List Char) : Option Timestamp := do
  let (year, s) ← year? s
  let s ← Text.after? '-' s
  let (month, s) ← twoDigits? s
  let s ← Text.after? '-' s
  let (day, s) ← twoDigits? s
  let (hour, s) ← twoDigits? (Text.trimStart s)
  let s ← Text.after? ':' s
  let (minute, s) ← twoDigits? s
  let s ← Text.after? ':' s
  let (second, s) ← twoDigits? s
  let nano ← fraction? s
  Timestamp.of? ⟨year, month, day⟩ (.showing hour minute second nano)

end SqlDraft.Calendar
