import SqlDraft.Bindings
import SqlDraft.Clause.Condition
import SqlDraft.Failure
import SqlDraft.Record

/-!
# Drafts

A draft is one statement under construction: its clauses, what it does to its table, the values it
binds so far, and the first operator that was refused, if any. It starts as a SELECT.
-/

namespace SqlDraft

/-- The clauses that a statement can have, whatever it does. -/
structure Clauses where
  /-- The columns to read; none stands for all. -/
  columns : List String := []
  distinct : Bool := false
  /-- The table that is written to. -/
  table : Option String := none
  /-- The table that is read from, if it is another one. -/
  source : Option String := none
  joins : List Join := []
  conditions : List Condition := []
  groupBy : List String := []
  orderBy : List SortKey := []
  limit : Option Nat := none
  offset : Option Nat := none
  deriving DecidableEq

/-- A query: clauses to read by, and an aggregate in the place of columns. -/
structure Selection where
  clauses : Clauses
  aggregate : Option Aggregate
  deriving DecidableEq

/-- Where the rows of an insert come from. -/
inductive InsertSource
  /-- Rows of values, each in the order of the columns. -/
  | rows (columns : List String) (rows : List (List Value))
  | query (columns : List String) (selection : Selection)
  deriving DecidableEq

/-- What a statement does to its table. -/
inductive Purpose
  | select (aggregate : Option Aggregate)
  | insert (source : InsertSource)
  | update (assignments : Record)
  | delete
  deriving DecidableEq

def Purpose.verb : Purpose → Verb
  | select _ => .select
  | insert _ => .insert
  | update _ => .update
  | delete => .delete

/-- A statement under construction. -/
structure Draft where
  clauses : Clauses := {}
  purpose : Purpose := .select none
  bindings : Bindings := {}
  rejection : Option Rejection := none
  deriving DecidableEq

/-- A statement to send: its text, and the values for its question marks in their order. -/
structure Statement where
  sql : String
  params : List Value
  deriving DecidableEq

namespace Draft

/-- The draft with nothing in it. -/
def empty : Draft := {}

instance : Inhabited Draft := ⟨empty⟩

def verb (d : Draft) : Verb := d.purpose.verb

/-- The bound values in the order in which the statement names them. -/
def params (d : Draft) : List Value := d.bindings.toList

/-- Changes the clauses. -/
def withClauses (d : Draft) (f : Clauses → Clauses) : Draft := { d with clauses := f d.clauses }

/-! ## What is read, and from where -/

/-- Reads some columns; an empty list reads all. -/
def select (d : Draft) (columns : List String) : Draft := d.withClauses ({ · with columns })

def selectAll (d : Draft) : Draft := d.select []

/-- Whether rows that are alike are read once. -/
def distinct (d : Draft) (distinct : Bool) : Draft := d.withClauses ({ · with distinct })

def selectDistinct (d : Draft) (columns : List String) : Draft := (d.select columns).distinct true

/-- The table to write to and to read from. -/
def table (d : Draft) (table : String) : Draft :=
  d.withClauses ({ · with table := some table, source := some table })

/-- Another table to read from. -/
def source (d : Draft) (source : String) : Draft := d.withClauses ({ · with source := some source })

/-! ## Conditions -/

/-- Adds a condition and binds its values. -/
def addCondition (d : Draft) (connective : Connective) (predicate : Predicate) : Draft :=
  { d.withClauses (fun c => { c with conditions := c.conditions ++ [⟨connective, predicate⟩] }) with
    bindings := d.bindings.addAll .filter predicate.values }

/-- Keeps a refused operator, unless one was refused before. -/
def reject (d : Draft) (cause : Rejection) : Draft :=
  { d with rejection := some (d.rejection.getD cause) }

/-- Compares a column with a value. An operator that is not known is refused, and the condition is
not added. -/
def compare (d : Draft) (connective : Connective) (column operator : String) (v : Value) : Draft :=
  match Comparison.read? operator with
  | some op => d.addCondition connective (.compare column op v)
  | none => d.reject (.comparison operator column)

def isIn (d : Draft) (connective : Connective) (column : String) (values : List Value) (negated : Bool) : Draft :=
  d.addCondition connective (.isIn column values negated)

/-- Both bounds belong to the range; they are taken as they come. -/
def between (d : Draft) (connective : Connective) (column : String) (low high : Value) : Draft :=
  d.addCondition connective (.between column low high)

/-- A condition that goes into the statement as it stands. -/
def condition (d : Draft) (connective : Connective) (sql : String) : Draft :=
  d.addCondition connective (.raw sql)

/-- A further condition that a column has a value. -/
def equals (d : Draft) (column : String) (v : Value) : Draft := d.compare .and column "=" v

/-! ## Joins -/

def addJoin (d : Draft) (join : Join) : Draft :=
  d.withClauses fun c => { c with joins := c.joins ++ [join] }

/-- Joins a table on a comparison of two columns. An operator that is not known is refused, and the
join is not added. -/
def join (d : Draft) (side : JoinSide) (table left operator right : String) : Draft :=
  match Comparison.read? operator with
  | some op => d.addJoin (.on side table left op right)
  | none => d.reject (.join operator table)

/-- A join that goes into the statement as it stands. -/
def joinRaw (d : Draft) (side : JoinSide) (sql : String) : Draft := d.addJoin (.raw side sql)

/-! ## Groups, order and size -/

/-- Groups by some columns and no others. -/
def groupBy (d : Draft) (columns : List String) : Draft := d.withClauses ({ · with groupBy := columns })

/-- Sorts by a further column. -/
def orderBy (d : Draft) (column : String) (direction : Direction) : Draft :=
  d.withClauses fun c => { c with orderBy := c.orderBy ++ [⟨column, direction⟩] }

def limit (d : Draft) (limit : Nat) : Draft := d.withClauses ({ · with limit := some limit })

def offset (d : Draft) (offset : Nat) : Draft := d.withClauses ({ · with offset := some offset })

/-- Drops all bound values and keeps the clauses. -/
def clearParams (d : Draft) : Draft := { d with bindings := .empty }

end Draft
end SqlDraft
