import SqlDraft.Text.Escaped
import SqlDraft.Value

/-!
# Values as messages show them

A message names the kind of a value before its content, so that the number 5 and the text "5" do not
look alike.
-/

namespace SqlDraft.Value

/-- Numbers in messages keep a point, and those below a ten-thousandth or from ten to the sixteenth
up are written with a power of ten. -/
def messageLayout : Decimal.Layout := { keepsPoint := true, positional := some (-4, 15) }

/-- The value with its kind. -/
def shown : Value → String
  | null => "Null"
  | int n => "Int(" ++ int64Text n ++ ")"
  | float x => "Float(" ++ Decimal.text messageLayout x ++ ")"
  | bool b => if b then "Bool(true)" else "Bool(false)"
  | text s => "Text(" ++ Text.escaped s ++ ")"
  | bytes bs => "Bytes([" ++ String.intercalate ", " (bs.map fun b => Text.natText b.toNat) ++ "])"
  | timestamp t => "Timestamp(" ++ t.textWith 'T' ++ ")"
  | raw sql => "Raw(Expression(" ++ Text.escaped sql ++ "))"

end SqlDraft.Value
