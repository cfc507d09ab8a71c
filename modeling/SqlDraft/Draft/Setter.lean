import SqlDraft.Draft

/-!
# Setters

The changes that a caller can make to a draft, as data: a draft is what a sequence of setters makes of
the empty one. Every setter belongs to one group, and setters of different groups touch different
parts of a draft.
-/

namespace SqlDraft

/-- One change to a draft. -/
inductive Setter
  | select (columns : List String)
  | selectAll
  | selectDistinct (columns : List String)
  | distinct (distinct : Bool)
  | table (table : String)
  | source (source : String)
  | compare (connective : Connective) (column operator : String) (value : Value)
  | isIn (connective : Connective) (column : String) (values : List Value) (negated : Bool)
  | between (connective : Connective) (column : String) (low high : Value)
  | condition (connective : Connective) (sql : String)
  | join (side : JoinSide) (table left operator right : String)
  | joinRaw (side : JoinSide) (sql : String)
  | groupBy (columns : List String)
  | orderBy (column : String) (direction : Direction)
  | limit (limit : Nat)
  | offset (offset : Nat)
  | clearParams
  deriving DecidableEq

/-- The groups of setters. -/
inductive Setter.Group
  | projection
  | target
  | conditions
  | joins
  | groupBy
  | orderBy
  | limit
  | offset
  deriving DecidableEq

namespace Setter

def group : Setter → Group
  | select _ | selectAll | selectDistinct _ | distinct _ => .projection
  | table _ | source _ => .target
  | compare .. | isIn .. | between .. | condition .. | clearParams => .conditions
  | join .. | joinRaw .. => .joins
  | groupBy _ => .groupBy
  | orderBy .. => .orderBy
  | limit _ => .limit
  | offset _ => .offset

/-- Whether a setter names an operator that is not known. -/
def isRejected : Setter → Bool
  | compare _ _ operator _ | join _ _ _ operator _ => (Comparison.read? operator).isNone
  | _ => false

end Setter

namespace Draft

/-- Makes one change. -/
def apply (d : Draft) : Setter → Draft
  | .select columns => d.select columns
  | .selectAll => d.selectAll
  | .selectDistinct columns => d.selectDistinct columns
  | .distinct distinct => d.distinct distinct
  | .table table => d.table table
  | .source source => d.source source
  | .compare connective column operator value => d.compare connective column operator value
  | .isIn connective column values negated => d.isIn connective column values negated
  | .between connective column low high => d.between connective column low high
  | .condition connective sql => d.condition connective sql
  | .join side table left operator right => d.join side table left operator right
  | .joinRaw side sql => d.joinRaw side sql
  | .groupBy columns => d.groupBy columns
  | .orderBy column direction => d.orderBy column direction
  | .limit limit => d.limit limit
  | .offset offset => d.offset offset
  | .clearParams => d.clearParams

/-- Makes changes one after the other. -/
def applyAll (d : Draft) (setters : List Setter) : Draft := setters.foldl apply d

@[simp] theorem applyAll_nil (d : Draft) : d.applyAll [] = d := rfl

@[simp] theorem applyAll_cons (d : Draft) (s : Setter) (rest : List Setter) :
    d.applyAll (s :: rest) = (d.apply s).applyAll rest := rfl

/-- What every change keeps is kept by all of them together. -/
theorem applyAll_keeps {P : Draft → Prop} {d : Draft} {setters : List Setter} (start : P d)
    (step : ∀ d, P d → ∀ s ∈ setters, P (d.apply s)) : P (d.applyAll setters) :=
  List.foldlRecOn setters apply start step

end Draft
end SqlDraft
