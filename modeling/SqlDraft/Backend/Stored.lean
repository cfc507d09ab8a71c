import SqlDraft.Calendar.Writing
import SqlDraft.Decimal.Scaling
import SqlDraft.Value

/-!
# Stored values

The five kinds of value that the built-in store keeps. It has no truth values and no moments: those
are stored as numbers and text, and whoever reads them asks for what they were.
-/

namespace SqlDraft

/-- A value as it is stored. -/
inductive Stored
  | null
  | integer (n : Int64)
  | real (x : Binary64)
  | text (s : String)
  | blob (bs : Bytes)
  deriving DecidableEq

namespace Stored

/-- The stored form of a value. -/
def ofValue : Value → Stored
  | .null => null
  | .int n => integer n
  | .float x => real x
  | .bool b => integer (if b then 1 else 0)
  | .text s => text s
  | .bytes bs => blob bs
  | .timestamp t => text t.text
  | .raw sql => text sql

/-- What is read of a stored value. -/
def toValue : Stored → Value
  | null => .null
  | integer n => .int n
  | real x => .float x
  | text s => .text s
  | blob bs => .bytes bs

/-- What the store makes of a value that it is given: it keeps everything but what is not a number,
which becomes null. -/
def kept : Stored → Stored
  | real x => if x.isNaN then null else real x
  | v => v

/-- A space, tab or line end of ASCII. -/
def isAsciiSpace (c : Char) : Bool := c == ' ' || (9 ≤ c.toNat && c.toNat ≤ 13)

/-- The text without the blanks of ASCII at either end. -/
def trimAscii (s : List Char) : List Char := ((s.dropWhile isAsciiSpace).reverse.dropWhile isAsciiSpace).reverse

/-- The number that a text spells, as the store understands it: a whole number or a decimal numeral,
without names. -/
def spelled? : List Char → Option Binary64
  | '-' :: rest => (Decimal.Numeral.read? rest).map fun n => n.scaled true
  | '+' :: rest => (Decimal.Numeral.read? rest).map fun n => n.scaled false
  | rest => (Decimal.Numeral.read? rest).map fun n => n.scaled false

/-- A value as a number, which may be spelled as text with blanks around it. A whole number of 64 bits
counts exactly, and every other spelling as a floating-point number. What is no number stays. -/
def numeric : Stored → Stored
  | text s =>
    let inner := trimAscii s.toList
    match (Text.integer? inner).bind Text.word64?, spelled? inner with
    | some n, _ => integer n
    | none, some x => real x
    | none, none => text s
  | v => v

/-- The identifier that a value names, by which a row can be looked up. A floating-point number names
one if it is whole and lies strictly between the least and the greatest identifier. -/
def identifier? (v : Stored) : Option Int :=
  match v.numeric with
  | integer n => some n.toInt
  | real x => x.toInt?.filter fun n => -0x8000000000000000 < n && n < 0x7fffffffffffffff
  | _ => none

/-- Compares a whole number with a floating-point number, exactly. -/
def compareReal (id : Int) (x : Binary64) : Ordering :=
  if x.isInfinite then (if x.isNegative then .gt else .lt)
  else
    let (m, q) := x.scaled
    let (num, den) := Binary64.ratio m q
    compare (id * den) (if x.isNegative then -(num : Int) else num)

/-- Compares an identifier with a stored value, where numbers may be spelled as text. Numbers come
before text and text before bytes, and nothing compares with null. -/
def compareId (id : Int) (v : Stored) : Option Ordering :=
  match v.numeric with
  | null => none
  | integer n => some (compare id n.toInt)
  | real x => some (compareReal id x)
  | text _ | blob _ => some .lt

end Stored
end SqlDraft
