import SqlDraft.Failure
import SqlDraft.Value.Json

/-!
# Rows

One row of a result: columns with their values, in the order of the result. A column may occur more
than once, as it does after joins; its last value counts.
-/

namespace SqlDraft

/-- Columns with values. -/
structure Row where
  cells : List (String × Value)
  deriving DecidableEq

namespace Row

/-- The row of columns and values in parallel; what is left over in the longer list is dropped. -/
def ofColumns (columns : List String) (values : List Value) : Row := ⟨columns.zip values⟩

def columns (r : Row) : List String := r.cells.map Prod.fst

def values (r : Row) : List Value := r.cells.map Prod.snd

def size (r : Row) : Nat := r.cells.length

def isEmpty (r : Row) : Bool := r.cells.isEmpty

/-- The last value of a column. -/
def get? (r : Row) (column : String) : Option Value := r.cells.reverse.lookup column

/-- The value at a place. -/
def getIndex? (r : Row) (index : Nat) : Option Value := (r.cells[index]?).map Prod.snd

/-- Reads the last value of a column as data of some type. -/
def read {α : Type} [OfValue α] (r : Row) (column : String) : Except Failure α :=
  match r.get? column with
  | none => .error (.decode column .noColumn)
  | some v => (ofValue v).mapError (.decode column)

/-- The row as an object of its columns. -/
def toJson (r : Row) : Json := .ofMembers (r.cells.map fun c => (c.1, c.2.toJson))

end Row

/-- Data that can be made from a row. -/
class OfRow (α : Type) where
  ofRow : Row → Except Failure α

export OfRow (ofRow)

instance : OfRow Row := ⟨.ok⟩

instance : OfRow Json := ⟨fun r => .ok r.toJson⟩

end SqlDraft
