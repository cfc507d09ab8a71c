import SqlDraft.Dictionary
import SqlDraft.Value

/-!
# Rows and values as trees

The tree form of values, for readers of rows that expect nested data: null, truth values, numbers,
texts, lists, and objects whose members are in ascending order of their names.
-/

namespace SqlDraft

/-- A tree of nested data. -/
inductive Json
  | null
  | bool (b : Bool)
  | int (n : Int64)
  | float (x : Binary64)
  | text (s : String)
  | list (items : List Json)
  | object (members : List (String × Json))

namespace Json

/-- The object of some members; of two with one name the later counts. -/
def ofMembers (members : List (String × Json)) : Json :=
  .object (members.foldl (fun all m => putAscending m.1 m.2 all) [])

/-- The member of an object with a name. -/
def member? (name : String) : Json → Option Json
  | .object members => members.lookup name
  | _ => none

end Json

/-! ## Reading trees -/

/-- Data that a tree stands for as it is, without any other form being accepted. -/
class OfJson (α : Type) where
  ofJson? : Json → Option α

export OfJson (ofJson?)

/-- The whole number of a tree, if it lies between two bounds. -/
def Json.integer? (low high : Int) : Json → Option Int
  | .int n => if low ≤ n.toInt ∧ n.toInt ≤ high then some n.toInt else none
  | _ => none

instance : OfJson Int64 :=
  ⟨fun
    | .int n => some n
    | _ => none⟩

instance : OfJson Int32 := ⟨fun tree => (tree.integer? (-0x80000000) 0x7fffffff).map Int32.ofInt⟩

instance : OfJson UInt64 := ⟨fun tree => (tree.integer? 0 0x7fffffffffffffff).map fun n => UInt64.ofNat n.toNat⟩

instance : OfJson UInt8 := ⟨fun tree => (tree.integer? 0 255).map fun n => UInt8.ofNat n.toNat⟩

instance : OfJson Bool :=
  ⟨fun
    | .bool b => some b
    | _ => none⟩

instance : OfJson String :=
  ⟨fun
    | .text s => some s
    | _ => none⟩

/-- Every number of a tree is a floating-point number, the nearest one if it is whole. -/
instance : OfJson Binary64 :=
  ⟨fun
    | .float x => some x
    | .int n => some (Binary64.ofInt n.toInt)
    | _ => none⟩

instance {α : Type} [OfJson α] : OfJson (List α) :=
  ⟨fun
    | .list items => items.mapM ofJson?
    | _ => none⟩

/-- Null is missing data. -/
instance {α : Type} [OfJson α] : OfJson (Option α) :=
  ⟨fun
    | .null => some none
    | tree => (ofJson? tree).map some⟩

/-! ## Writing trees -/

/-- The value as a tree. Numbers that trees cannot hold become null, bytes a list of numbers, and
timestamps and expressions text. -/
def Value.toJson : Value → Json
  | .null => .null
  | .int n => .int n
  | .float x => if x.isFinite then .float x else .null
  | .bool b => .bool b
  | .text s => .text s
  | .bytes bs => .list (bs.map fun b => .int (Int64.ofNat b.toNat))
  | .timestamp t => .text t.text
  | .raw sql => .text sql

end SqlDraft
