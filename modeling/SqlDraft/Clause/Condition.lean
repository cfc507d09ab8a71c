import SqlDraft.Clause.Comparison
import SqlDraft.Value

/-!
# Clauses

The parts that a statement is put together from: conditions, joins, sort keys and aggregates.
Identifiers are texts that go into the statement as they are.
-/

namespace SqlDraft

/-- How a condition is tied to the one before it. -/
inductive Connective
  | and
  | or
  deriving DecidableEq

def Connective.sql : Connective → String
  | and => "AND"
  | or => "OR"

/-- What one condition asks of a row. -/
inductive Predicate
  /-- A fragment that goes into the statement as it stands. -/
  | raw (sql : String)
  | compare (column : String) (op : Comparison) (value : Value)
  | isIn (column : String) (values : List Value) (negated : Bool)
  | between (column : String) (low high : Value)
  deriving DecidableEq

/-- The values of a predicate, in the order in which the statement names them. -/
def Predicate.values : Predicate → List Value
  | raw _ => []
  | compare _ _ v => [v]
  | isIn _ vs _ => vs
  | between _ low high => [low, high]

/-- A predicate and how it is tied to the one before it; the first one's connective has no effect. -/
structure Condition where
  connective : Connective
  predicate : Predicate
  deriving DecidableEq

/-- Which rows without a partner a join keeps. -/
inductive JoinSide
  | inner
  | left
  | right
  deriving DecidableEq

def JoinSide.sql : JoinSide → String
  | inner => "JOIN"
  | left => "LEFT JOIN"
  | right => "RIGHT JOIN"

/-- A join of a further table. -/
inductive Join
  /-- A join whose table and condition are given as they stand. -/
  | raw (side : JoinSide) (sql : String)
  | on (side : JoinSide) (table left : String) (op : Comparison) (right : String)
  deriving DecidableEq

inductive Direction
  | ascending
  | descending
  deriving DecidableEq

def Direction.sql : Direction → String
  | ascending => "ASC"
  | descending => "DESC"

/-- A column to sort by. -/
structure SortKey where
  column : String
  direction : Direction
  deriving DecidableEq

inductive AggregateFunction
  | count
  | sum
  | avg
  | min
  | max
  deriving DecidableEq

def AggregateFunction.sql : AggregateFunction → String
  | count => "COUNT"
  | sum => "SUM"
  | avg => "AVG"
  | min => "MIN"
  | max => "MAX"

/-- A projection to one number; it stands in the place of the column list. -/
structure Aggregate where
  function : AggregateFunction
  column : String
  deriving DecidableEq

end SqlDraft
