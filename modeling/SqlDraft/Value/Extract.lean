import SqlDraft.Calendar.Reading
import SqlDraft.Decimal.Reading
import SqlDraft.Value.Shown

/-!
# Typed reading of values

What a caller asks of a value it has read: a number of some width, a truth value, text, bytes or a
moment. Stores return some things in another form than they were given, so text that spells a number
or a moment is accepted for it, whole numbers for truth values and for floating-point numbers, and
anything that has a plain text for text.
-/

namespace SqlDraft

/-- What a value was expected to be. -/
inductive Expected
  | integer
  | integer32
  | unsigned
  | float
  | boolean
  | text
  | bytes
  | timestamp
  deriving DecidableEq

/-- The name that a message gives to an expectation. -/
def Expected.name : Expected → String
  | integer => "integer"
  | integer32 => "32-bit integer"
  | unsigned => "unsigned integer"
  | float => "float"
  | boolean => "boolean"
  | text => "text"
  | bytes => "bytes"
  | timestamp => "timestamp"

/-- Why something could not be read. -/
inductive DecodeCause
  /-- A value of the wrong kind or out of range. -/
  | mismatch (expected : Expected) (found : Value)
  /-- A row without the column. -/
  | noColumn
  /-- A row whose tree does not have the expected members. -/
  | shape
  /-- A caller's own complaint. -/
  | note (text : String)
  deriving DecidableEq

/-- The wording of a cause. -/
def DecodeCause.message : DecodeCause → String
  | mismatch expected found => "expected " ++ expected.name ++ ", got " ++ found.shown
  | noColumn => "column not present in row"
  | shape => "row does not have the expected shape"
  | note text => text

/-- Data that can be read from a value. -/
class OfValue (α : Type) where
  ofValue : Value → Except DecodeCause α

export OfValue (ofValue)

namespace Value

/-- What was read, or a complaint that the value is not what was expected. -/
def readAs {α : Type} (expected : Expected) (v : Value) : Option α → Except DecodeCause α
  | some a => .ok a
  | none => .error (.mismatch expected v)

/-- A 64-bit integer: a whole number, a truth value, or text that spells one between blanks. -/
def toInt64? : Value → Option Int64
  | int n => some n
  | bool b => some (if b then 1 else 0)
  | text s => (Text.integer? (Text.trim s.toList)).bind Text.word64?
  | _ => none

/-- A floating-point number: itself, a whole number, or text that spells one between blanks. -/
def toBinary64? : Value → Option Binary64
  | float x => some x
  | int n => some (Binary64.ofInt n.toInt)
  | text s => Decimal.read? (Text.trim s.toList)
  | _ => none

/-- A truth value, or a whole number that stands for one. -/
def toBool? : Value → Option Bool
  | bool b => some b
  | int n => some (n != 0)
  | _ => none

/-- Text, or what has one plain text: numbers, moments and expressions. -/
def toText? : Value → Option String
  | text s => some s
  | raw sql => some sql
  | int n => some (int64Text n)
  | float x => some (floatText x)
  | timestamp t => some t.text
  | _ => none

/-- Bytes, or the bytes of a text. -/
def toBytes? : Value → Option Bytes
  | bytes bs => some bs
  | text s => some s.toUTF8.toList
  | _ => none

/-- A moment, or text that spells one. -/
def toTimestamp? : Value → Option Calendar.Timestamp
  | timestamp t => some t
  | text s => Calendar.Timestamp.read? s.toList
  | _ => none

end Value

instance : OfValue Value := ⟨.ok⟩

instance : OfValue Int64 := ⟨fun v => v.readAs .integer v.toInt64?⟩

/-- A value that is no integer at all is reported as such; a wider integer is out of range. -/
instance : OfValue Int32 :=
  ⟨fun v => do
    let n : Int64 ← ofValue v
    if -0x80000000 ≤ n.toInt ∧ n.toInt < 0x80000000 then return n.toInt32
    else throw (.mismatch .integer32 v)⟩

/-- A value that is no integer at all is reported as such; a negative one is out of range. -/
instance : OfValue UInt64 :=
  ⟨fun v => do
    let n : Int64 ← ofValue v
    if 0 ≤ n.toInt then return n.toUInt64
    else throw (.mismatch .unsigned v)⟩

instance : OfValue Binary64 := ⟨fun v => v.readAs .float v.toBinary64?⟩
instance : OfValue Bool := ⟨fun v => v.readAs .boolean v.toBool?⟩
instance : OfValue String := ⟨fun v => v.readAs .text v.toText?⟩
instance : OfValue Bytes := ⟨fun v => v.readAs .bytes v.toBytes?⟩
instance : OfValue Calendar.Timestamp := ⟨fun v => v.readAs .timestamp v.toTimestamp?⟩

/-- Null is missing data, whatever the data is. -/
instance {α : Type} [OfValue α] : OfValue (Option α) :=
  ⟨fun
    | .null => .ok none
    | v => (ofValue v).map some⟩

theorem Value.ofValue_option {α : Type} [OfValue α] {v : Value} (notNull : v ≠ .null) :
    (ofValue v : Except DecodeCause (Option α)) = (ofValue v).map some := by
  cases v with
  | null => exact absurd rfl notNull
  | _ => rfl

end SqlDraft
