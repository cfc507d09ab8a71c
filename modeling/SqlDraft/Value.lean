import SqlDraft.Calendar.Writing
import SqlDraft.Decimal.Shortest
import SqlDraft.Text.Quoted

/-!
# Values

What a statement binds and a row holds. Every value has a literal, which shows it inside a statement
for a reader; a raw expression is its own literal and is never bound.
-/

namespace SqlDraft

/-- A byte string. -/
abbrev Bytes := List UInt8

/-- A value to bind or to read. -/
inductive Value
  | null
  | int (n : Int64)
  | float (x : Binary64)
  | bool (b : Bool)
  | text (s : String)
  | bytes (bs : Bytes)
  | timestamp (t : Calendar.Timestamp)
  /-- An expression that goes into a statement as it stands. -/
  | raw (sql : String)
  deriving DecidableEq

/-- What the store is told about a bound value. -/
inductive TypeHint
  | integer
  | text
  deriving DecidableEq

namespace Value

def isNull : Value → Bool
  | null => true
  | _ => false

def isRaw : Value → Bool
  | raw _ => true
  | _ => false

/-- Whole numbers and truth values are integers to the store, and all else is text. -/
def typeHint : Value → TypeHint
  | int _ | bool _ => .integer
  | _ => .text

/-- Numbers in statements and texts have no power of ten and no point that they do not need. -/
def plainLayout : Decimal.Layout := { keepsPoint := false, positional := none }

/-- A number as it stands in statements and texts. -/
def floatText (x : Binary64) : String := Decimal.text plainLayout x

/-- A whole number as it stands in statements and texts. -/
def int64Text (n : Int64) : String := Text.intText n.toInt

/-- The value as a literal of the statement language. -/
def literal : Value → String
  | null => "NULL"
  | int n => int64Text n
  | float x => floatText x
  | bool b => if b then "1" else "0"
  | text s => String.ofList (Text.quoted s.toList)
  | bytes bs => String.ofList (Text.hexLiteral bs)
  | timestamp t => String.ofList (Text.quoted t.text.toList)
  | raw sql => sql

/-- Equality of values in which floating-point numbers compare as numbers. -/
def agrees : Value → Value → Bool
  | float x, float y => x.sameNumber y
  | v, w => v == w

end Value
end SqlDraft
