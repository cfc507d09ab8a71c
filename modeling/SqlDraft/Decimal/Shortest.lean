import SqlDraft.Decimal.Binary64
import SqlDraft.Text.Digits

/-!
# The shortest decimal of a number

The fewest decimal digits that read back to the same binary64 number, found by testing the number's
two neighbours on ever finer decimal grids; and the two layouts in which such digits are written,
with and without a power of ten.
-/

namespace SqlDraft.Decimal

/-- Digits and the place of the point: `digits` is read as a whole number with the point moved so
that `0.digits · 10 ^ point` is meant. -/
structure Digits where
  digits : List Char
  point : Int

/-- `num / den < 10 ^ k`. -/
def belowPowerOfTen (num den : Nat) (k : Int) : Bool :=
  if 0 ≤ k then num < den * tenTo k.toNat else num * tenTo (-k).toNat < den

/-- The place of the point of a positive fraction: the `k` for which `10 ^ (k-1) ≤ num / den` and
`num / den < 10 ^ k`. The binary logarithm fixes it up to two, and comparing settles the rest. -/
def pointOf (num den : Nat) : Int :=
  let log : Int := (Nat.log2 num : Int) - (Nat.log2 den : Int) - 1
  let guess := log * 30103 / 100000
  if belowPowerOfTen num den guess then guess
  else if belowPowerOfTen num den (guess + 1) then guess + 1
  else if belowPowerOfTen num den (guess + 2) then guess + 2
  else guess + 3

/-- The fractions that read back to one number, over one denominator: from `low` to `high` around
`value`, the ends included if `closed`. -/
structure Interval where
  low : Nat
  value : Nat
  high : Nat
  den : Nat
  closed : Bool

/-- The interval of a finite number that is not zero. Its ends are the midpoints towards its
neighbours; the lower neighbour of a power of two is half as far away. The ends belong to the
interval if the number's last bit is zero, since ties go to such numbers. -/
def Interval.of (x : Binary64) : Interval :=
  let (m, q) := x.scaled
  let narrow := m == Binary64.implicitBit && -1074 < q
  let (unit, den) := Binary64.ratio 1 (q - 2)
  { low := (4 * m - if narrow then 1 else 2) * unit
    value := 4 * m * unit
    high := (4 * m + 2) * unit
    den := den
    closed := m % 2 == 0 }

/-- Whether `c · 10 ^ e` lies in the interval. -/
def Interval.holds (i : Interval) (c : Nat) (e : Int) : Bool :=
  let (scaledC, scale) := if 0 ≤ e then (c * tenTo e.toNat * i.den, 1) else (c * i.den, tenTo (-e).toNat)
  if i.closed then i.low * scale ≤ scaledC && scaledC ≤ i.high * scale
  else i.low * scale < scaledC && scaledC < i.high * scale

/-- The grid point of `10 ^ e` to take for the interval, if one of the two neighbours of the value
lies in it: of two, the nearer one, and the upper one if both are equally near. -/
def Interval.gridPoint? (i : Interval) (e : Int) : Option Nat :=
  let (num, den) := if 0 ≤ e then (i.value, i.den * tenTo e.toNat) else (i.value * tenTo (-e).toNat, i.den)
  let below := num / den
  let rest := num % den
  match i.holds below e, i.holds (below + 1) e with
  | true, true => some (if den ≤ 2 * rest then below + 1 else below)
  | true, false => some below
  | false, true => some (below + 1)
  | false, false => none

/-- Tries grids with one digit more each time, at most `steps` of them. -/
def Interval.search (i : Interval) (point : Int) : (steps : Nat) → (taken : Nat) → Nat × Int
  | 0, taken => ((i.gridPoint? (point - taken)).getD 0, point - taken)
  | steps + 1, taken =>
    match i.gridPoint? (point - taken) with
    | some c => (c, point - taken)
    | none => i.search point steps (taken + 1)

/-- The digits of a whole number without the zeros at its end, which only move the point. -/
def Digits.ofGrid (c : Nat) (e : Int) : Digits :=
  let all := Text.decimal c
  { digits := (all.reverse.dropWhile (· == '0')).reverse
    point := (all.length : Int) + e }

/-- The shortest digits of a finite number that is not zero, sign apart. Seventeen digits always
suffice. -/
def shortest (x : Binary64) : Digits :=
  let i := Interval.of x
  let (c, e) := i.search (pointOf i.value i.den) 16 1
  Digits.ofGrid c e

/-- How numbers are laid out. -/
structure Layout where
  /-- Whether a whole number keeps one zero behind the point. -/
  keepsPoint : Bool
  /-- The decimal exponents that are written positionally, or `none` if all are. -/
  positional : Option (Int × Int)

/-- Digits written without a power of ten. -/
def positionalText (keepsPoint : Bool) (d : Digits) : List Char :=
  if d.point ≤ 0 then '0' :: '.' :: (List.replicate (-d.point).toNat '0' ++ d.digits)
  else
    let whole := d.point.toNat
    if d.digits.length ≤ whole then
      d.digits ++ List.replicate (whole - d.digits.length) '0' ++ (if keepsPoint then ['.', '0'] else [])
    else d.digits.take whole ++ '.' :: d.digits.drop whole

/-- Digits written with one digit before the point and a power of ten. -/
def scientificText (d : Digits) : List Char :=
  d.digits.take 1 ++ (if d.digits.length ≤ 1 then [] else '.' :: d.digits.drop 1) ++
    'e' :: Text.decimalInt (d.point - 1)

/-- A number without its sign. -/
def unsignedText (layout : Layout) (x : Binary64) : List Char :=
  if x.isZero then (if layout.keepsPoint then ['0', '.', '0'] else ['0'])
  else
    let d := shortest x
    match layout.positional with
    | none => positionalText layout.keepsPoint d
    | some (least, most) =>
      if least ≤ d.point - 1 && d.point - 1 ≤ most then positionalText layout.keepsPoint d else scientificText d

/-- A number as text. -/
def text (layout : Layout) (x : Binary64) : String :=
  if x.isNaN then "NaN"
  else
    let body := if x.isInfinite then "inf".toList else unsignedText layout x
    String.ofList (if x.isNegative then '-' :: body else body)

end SqlDraft.Decimal
