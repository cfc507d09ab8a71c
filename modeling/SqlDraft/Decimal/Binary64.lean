import SqlDraft.Decimal.Power

/-!
# Binary64 numbers

Floating-point numbers of the format binary64, kept as their 64 bits: a sign bit, and below it the
magnitude, whose order as a whole number is the order of the numbers it stands for. `nearest` rounds
any fraction to the format, and everything else that produces a number goes through it.
-/

namespace SqlDraft

/-- A floating-point number, as its 64 bits. -/
structure Binary64 where
  /-- The sign bit, eleven bits of exponent and fifty-two bits of fraction. -/
  bits : UInt64
  deriving DecidableEq, Inhabited

namespace Binary64

/-- The sign bit alone. -/
def signBit : Nat := 0x8000000000000000

/-- The bit above the fraction. Numbers of full precision have it, and it is not kept. -/
def implicitBit : Nat := 0x10000000000000

/-- The magnitude of the two infinities: every larger magnitude is not a number. -/
def infinity : Nat := 0x7ff0000000000000

/-- The bits below the sign. -/
def magnitude (x : Binary64) : Nat := x.bits.toNat % signBit

/-- Whether the sign bit is set. -/
def isNegative (x : Binary64) : Bool := signBit ≤ x.bits.toNat

/-- Whether this is not a number. -/
def isNaN (x : Binary64) : Bool := infinity < x.magnitude

/-- Whether this is an infinity. -/
def isInfinite (x : Binary64) : Bool := x.magnitude == infinity

/-- Whether this is neither an infinity nor not a number. -/
def isFinite (x : Binary64) : Bool := x.magnitude < infinity

/-- Whether this is one of the two zeros. -/
def isZero (x : Binary64) : Bool := x.magnitude == 0

/-- The number of a sign and a magnitude. -/
def ofMagnitude (negative : Bool) (magnitude : Nat) : Binary64 :=
  ⟨UInt64.ofNat (if negative then signBit + magnitude else magnitude)⟩

/-- A bit pattern that is not a number. -/
def nan : Binary64 := ofMagnitude false 0x7ff8000000000000

/-- Comparison as numbers: what is not a number differs from everything, and the two zeros agree. -/
def sameNumber (x y : Binary64) : Bool :=
  !x.isNaN && !y.isNaN && (x == y || (x.isZero && y.isZero))

/-- The whole number `m` and the power `q` for which the absolute value is `m · 2 ^ q`. -/
def scaled (x : Binary64) : Nat × Int :=
  let exponent : Nat := x.magnitude / implicitBit
  let fraction : Nat := x.magnitude % implicitBit
  if exponent = 0 then (fraction, -1074) else (implicitBit + fraction, (exponent : Int) - 1075)

/-- The fraction `m · 2 ^ q` as a numerator over a denominator. -/
def ratio (m : Nat) (q : Int) : Nat × Nat :=
  if 0 ≤ q then (m * twoTo q.toNat, 1) else (m, twoTo (-q).toNat)

/-- The quotient of two naturals, rounded to the nearest; a half goes to the even neighbour. -/
def roundedQuotient (num den : Nat) : Nat :=
  let q := num / den
  let r := num % den
  if den < 2 * r then q + 1 else if den = 2 * r then q + q % 2 else q

/-- The power of two of the last place of `num / den` at a precision: quotients by it have that many
bits. -/
def lastPlace (precision num den : Nat) : Int :=
  let guess : Int := (Nat.log2 num : Int) - (Nat.log2 den : Int) - (precision - 1 : Nat)
  let (scaledNum, scaledDen) := if 0 ≤ guess then (num, den * twoTo guess.toNat) else (num * twoTo (-guess).toNat, den)
  if scaledNum < scaledDen * twoTo (precision - 1) then guess - 1 else guess

/-- `num / den` in units of `2 ^ e`, rounded. -/
def unitsAt (e : Int) (num den : Nat) : Nat :=
  if 0 ≤ e then roundedQuotient num (den * twoTo e.toNat) else roundedQuotient (num * twoTo (-e).toNat) den

/-- The power of two that one unit in the last place of `num / den` has: that of fifty-three bits, unless
it would be below the least power there is. -/
def unitExponent (num den : Nat) : Int := max (lastPlace 53 num den) (-1074)

/-- The number nearest to `num / den`, a tie going to the even one, and an infinity beyond the
largest number. -/
def nearest (negative : Bool) (num den : Nat) : Binary64 :=
  if num = 0 then ofMagnitude negative 0
  else
    let e := unitExponent num den
    ofMagnitude negative (min infinity ((e + 1074).toNat * implicitBit + unitsAt e num den))

/-- The whole number that this is, if it is one. -/
def toInt? (x : Binary64) : Option Int :=
  let (m, q) := x.scaled
  let (num, den) := ratio m q
  if x.isFinite && num % den == 0 then
    some (if x.isNegative then -((num / den : Nat) : Int) else ((num / den : Nat) : Int))
  else none

/-- The number nearest to an integer. -/
def ofInt (n : Int) : Binary64 := nearest (n < 0) n.natAbs 1

/-- A number of the format binary32, given by its 32 bits, in the wider format: all of them fit. -/
def ofBinary32 (bits : UInt32) : Binary64 :=
  let negative : Bool := 0x80000000 ≤ bits.toNat
  let exponent : Nat := bits.toNat / 0x800000 % 0x100
  let fraction : Nat := bits.toNat % 0x800000
  if exponent = 255 then
    if fraction = 0 then ofMagnitude negative infinity else nan
  else
    let (num, den) :=
      if exponent = 0 then ratio fraction (-149) else ratio (0x800000 + fraction) ((exponent : Int) - 150)
    nearest negative num den

end Binary64
end SqlDraft
