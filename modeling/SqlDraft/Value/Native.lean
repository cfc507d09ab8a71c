import SqlDraft.Value

/-!
# Values from native data

The value of a number, text, byte string, moment or expression, and of data that may be missing.
-/

namespace SqlDraft

/-- Data that has a value. -/
class ToValue (α : Type) where
  toValue : α → Value

export ToValue (toValue)

/-- A fragment of the statement language that is used as it stands. -/
structure Expression where
  sql : String
  deriving DecidableEq

instance : ToValue Value := ⟨id⟩
instance : ToValue Int8 := ⟨fun n => .int n.toInt64⟩
instance : ToValue Int16 := ⟨fun n => .int n.toInt64⟩
instance : ToValue Int32 := ⟨fun n => .int n.toInt64⟩
instance : ToValue Int64 := ⟨.int⟩
instance : ToValue UInt8 := ⟨fun n => .int n.toUInt64.toInt64⟩
instance : ToValue UInt16 := ⟨fun n => .int n.toUInt64.toInt64⟩
instance : ToValue UInt32 := ⟨fun n => .int n.toUInt64.toInt64⟩
instance : ToValue Binary64 := ⟨.float⟩
instance : ToValue Bool := ⟨.bool⟩
instance : ToValue String := ⟨.text⟩
instance : ToValue Bytes := ⟨.bytes⟩
instance : ToValue Calendar.Timestamp := ⟨.timestamp⟩
instance : ToValue Expression := ⟨fun e => .raw e.sql⟩

/-- Missing data is null. -/
instance {α : Type} [ToValue α] : ToValue (Option α) :=
  ⟨fun
    | some a => toValue a
    | none => .null⟩

end SqlDraft
