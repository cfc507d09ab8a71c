import SqlDraft.Value

/-!
# Bindings

The values that a statement binds, in three lists by the part of the statement they belong to. A
statement names the values of an insert first, those it assigns next, and those of its conditions
last, so that order holds whatever order they were added in.
-/

namespace SqlDraft

/-- The parts of a statement that bind values. -/
inductive Part
  | insert
  | assign
  | filter
  deriving DecidableEq

/-- Bound values by part. -/
structure Bindings where
  insert : List Value := []
  assign : List Value := []
  filter : List Value := []
  deriving DecidableEq

namespace Bindings

def empty : Bindings := {}

/-- The values of one part. -/
def of (b : Bindings) : Part → List Value
  | .insert => b.insert
  | .assign => b.assign
  | .filter => b.filter

/-- Changes the values of one part. -/
def modify (b : Bindings) (part : Part) (f : List Value → List Value) : Bindings :=
  match part with
  | .insert => { b with insert := f b.insert }
  | .assign => { b with assign := f b.assign }
  | .filter => { b with filter := f b.filter }

/-- Adds a value at the end of its part; an expression is not bound. -/
def add (b : Bindings) (part : Part) (v : Value) : Bindings :=
  if v.isRaw then b else b.modify part (· ++ [v])

/-- Adds values in their order. -/
def addAll (b : Bindings) (part : Part) (vs : List Value) : Bindings := vs.foldl (fun b v => b.add part v) b

/-- Drops the values of one part. -/
def clear (b : Bindings) (part : Part) : Bindings := b.modify part fun _ => []

/-- All values in the order in which a statement names them. -/
def toList (b : Bindings) : List Value := b.insert ++ b.assign ++ b.filter

def size (b : Bindings) : Nat := b.insert.length + b.assign.length + b.filter.length

def isEmpty (b : Bindings) : Bool := b.size == 0

@[simp] theorem length_toList (b : Bindings) : b.toList.length = b.size := by
  simp [toList, size, Nat.add_assoc]

/-- Adding values to a part appends those that are bound. -/
theorem of_addAll (b : Bindings) (part : Part) (vs : List Value) :
    (b.addAll part vs).of part = b.of part ++ vs.filter (!·.isRaw) := by
  induction vs generalizing b with
  | nil => simp [addAll]
  | cons v rest ih =>
    have step : b.addAll part (v :: rest) = (b.add part v).addAll part rest := rfl
    rw [step, ih]
    cases raw : v.isRaw <;> cases part <;> simp [add, raw, modify, of]

end Bindings
end SqlDraft
