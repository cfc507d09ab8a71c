import SqlDraft.Decimal.Reading

/-!
# Scaling decimals step by step

Decimal numerals read with bounded work: a significand of 64 bits takes as many digits as it has room
for, and is scaled by powers of ten in few steps, each of which rounds to 64 bits. The result is the
nearest number in most cases, but two roundings may leave it one place away, and digits behind the first
nineteen or so do not count at all.
-/

namespace SqlDraft.Decimal

/-- A number of 64 bits of precision and of any size: `units · 2 ^ exponent`. -/
structure Extended where
  units : Nat
  exponent : Int
  deriving DecidableEq

namespace Extended

/-- The number nearest to `num / den`, a tie going to the even one. -/
def nearest (num den : Nat) : Extended :=
  let e := Binary64.lastPlace 64 num den
  ⟨Binary64.unitsAt e num den, e⟩

/-- The rounded product of two numbers. -/
def mul (x y : Extended) : Extended :=
  let product := nearest (x.units * y.units) 1
  ⟨product.units, product.exponent + x.exponent + y.exponent⟩

/-- A number multiplied by a factor so many times, rounded each time. -/
def timesPower (x factor : Extended) : Nat → Extended
  | 0 => x
  | k + 1 => (x.mul factor).timesPower factor k

/-- A number scaled by a power of ten: by hundreds of places, then by tens, then by single ones. -/
def scaledBy (x : Extended) (e : Int) : Extended :=
  let places := e.natAbs
  let unit (k : Nat) : Extended := if 0 ≤ e then nearest (tenTo k) 1 else nearest 1 (tenTo k)
  ((x.timesPower (unit 100) (places / 100)).timesPower (unit 10) (places % 100 / 10)).timesPower (unit 1) (places % 10)

/-- The nearest number of the format binary64. -/
def toBinary64 (x : Extended) (negative : Bool) : Binary64 :=
  let (num, den) := Binary64.ratio x.units x.exponent
  Binary64.nearest negative num den

end Extended

/-- Appends digits to a significand while it leaves room for any digit in 64 bits, and gives the digits
that are left. -/
def appendDigits (significand : Nat) : List Char → Nat × List Char
  | [] => (significand, [])
  | c :: rest =>
    if significand < 0x1999999999999998 then appendDigits (10 * significand + Text.digitValue c) rest
    else (significand, c :: rest)

/-- Moves places of a positive power of ten into a significand while 64 bits have room for them. -/
def movePlaces (significand : Nat) : Nat → Nat × Nat
  | 0 => (significand, 0)
  | places + 1 =>
    if significand < 0x1999999999999999 then movePlaces (10 * significand) places else (significand, places + 1)

/-- Drops zeros from the end of a significand, at most so many, and gives the number of those that it
lacks. -/
def dropZeros (significand : Nat) : Nat → Nat × Nat
  | 0 => (significand, 0)
  | places + 1 => if significand % 10 = 0 then dropZeros (significand / 10) places else (significand, places + 1)

/-- The power of ten of a numeral. One of more than five digits counts as ten thousand. -/
def Numeral.boundedPower (n : Numeral) : Int :=
  if n.power.natAbs < 100000 then n.power else n.power.sign * 10000

/-- The number that scaling makes of a numeral. -/
def Numeral.scaled (n : Numeral) (negative : Bool) : Binary64 :=
  let (whole, left) := appendDigits 0 n.whole
  let (significand, unread) := appendDigits whole n.fraction
  let e := n.boundedPower + left.length - (n.fraction.length - unread.length : Nat)
  if significand = 0 then Binary64.ofMagnitude negative 0
  else
    let (units, power) :=
      if 0 ≤ e then
        let (units, places) := movePlaces significand e.toNat
        (units, (places : Int))
      else
        let (units, places) := dropZeros significand (-e).toNat
        (units, -(places : Int))
    ((Extended.nearest units 1).scaledBy power).toBinary64 negative

end SqlDraft.Decimal
