import SqlDraft.Decimal.Binary64
import SqlDraft.Text.Digits

/-!
# Reading decimals

Decimal numerals with an optional sign, point and power of ten, read as the nearest binary64 number.
There must be a digit before or behind the point, and one in the power if there is a power. The names
of the infinities and of what is not a number are read whatever the case of their letters.
-/

namespace SqlDraft.Decimal

/-- A decimal numeral without its sign: digits before and behind the point, and the power of ten. -/
structure Numeral where
  whole : List Char
  fraction : List Char
  power : Int

/-- Reads the power behind a mantissa: nothing, or a letter `e` and an integer. -/
def power? : List Char → Option Int
  | [] => some 0
  | c :: rest => if c = 'e' ∨ c = 'E' then Text.integer? rest else none

/-- Reads a numeral without a sign. -/
def Numeral.read? (s : List Char) : Option Numeral :=
  let whole := s.takeWhile Char.isDigit
  let behind := s.dropWhile Char.isDigit
  let (fraction, rest) :=
    match behind with
    | '.' :: more => (more.takeWhile Char.isDigit, more.dropWhile Char.isDigit)
    | _ => ([], behind)
  if whole.isEmpty && fraction.isEmpty then none
  else (power? rest).map fun power => ⟨whole, fraction, power⟩

/-- The number nearest to a numeral. Powers far outside the range of the format are decided by the
place of the first digit alone. -/
def Numeral.nearest (n : Numeral) (negative : Bool) : Binary64 :=
  let digits := (n.whole ++ n.fraction).dropWhile (· == '0')
  let mantissa := Text.digitsValue digits
  let e := n.power - n.fraction.length
  let point := e + digits.length
  if mantissa = 0 || point < -400 then Binary64.ofMagnitude negative 0
  else if 400 < point then Binary64.ofMagnitude negative Binary64.infinity
  else if 0 ≤ e then Binary64.nearest negative (mantissa * tenTo e.toNat) 1
  else Binary64.nearest negative mantissa (tenTo (-e).toNat)

/-- Reads a number without its sign. -/
def readUnsigned? (negative : Bool) (s : List Char) : Option Binary64 :=
  let name := s.map Char.toLower
  if name = "inf".toList ∨ name = "infinity".toList then some (Binary64.ofMagnitude negative Binary64.infinity)
  else if name = "nan".toList then some Binary64.nan
  else (Numeral.read? s).map fun n => n.nearest negative

/-- Reads a number. -/
def read? : List Char → Option Binary64
  | '-' :: rest => readUnsigned? true rest
  | '+' :: rest => readUnsigned? false rest
  | s => readUnsigned? false s

end SqlDraft.Decimal
