import SqlDraft.Template.Rendering

/-!
# Staging

Turning a draft to another purpose. A draft that turns from one kind of statement to another loses
the values of what it was to write; its clauses and the values of its conditions stay.
-/

namespace SqlDraft

/-- What an insert writes. -/
inductive InsertPayload
  | row (row : Record)
  /-- Several rows, whose columns are those of the first. -/
  | rows (rows : List Record)
  /-- The rows of a query, which is made from an empty draft. -/
  | query (columns : List String) (make : Draft → Draft)

/-- The values of a row in the order of the columns. -/
def orderedValues (row : Nat) (r : Record) : List String → Except UsageError (List Value)
  | [] => .ok []
  | column :: rest =>
    match r.get? column with
    | none => .error (.rowLacks row column)
    | some v => (orderedValues row r rest).map (v :: ·)

/-- The values of rows in the order of the columns; each row must have these columns and no others. The
first row of the list has the given number. -/
def orderedRows (columns : List String) : (row : Nat) → List Record → Except UsageError (List (List Value))
  | _, [] => .ok []
  | row, r :: rest =>
    if r.size ≠ columns.length then .error (.rowWidth row r.size columns.length)
    else do
      let values ← orderedValues row r columns
      let others ← orderedRows columns (row + 1) rest
      return values :: others

/-- Rows to insert, with the columns of the first. -/
def InsertSource.ofRecords : List Record → Except UsageError InsertSource
  | [] => .error .insertWithoutRow
  | first :: rest =>
    if first.isEmpty then .error .insertWithoutColumn
    else (orderedRows first.columns 0 (first :: rest)).map (.rows first.columns)

/-- The values that an insert from rows binds, row by row. A query's values are bound with it. -/
def InsertSource.values : InsertSource → List Value
  | .rows _ groups => groups.flatten
  | .query _ _ => []

namespace Draft

/-- Turns to a purpose. A change of the kind of statement drops the values to write. -/
def turnTo (d : Draft) (purpose : Purpose) : Draft :=
  if d.verb = purpose.verb then { d with purpose }
  else { d with purpose, bindings := (d.bindings.clear .insert).clear .assign }

/-- Asks for an aggregate instead of columns. -/
def stageAggregate (d : Draft) (function : AggregateFunction) (column : String) : Draft :=
  d.turnTo (.select (some ⟨function, column⟩))

/-- What an insert writes and the values that it binds. -/
def insertSource : InsertPayload → Except UsageError (InsertSource × List Value)
  | .row row => (InsertSource.ofRecords [row]).map fun source => (source, source.values)
  | .rows rows => (InsertSource.ofRecords rows).map fun source => (source, source.values)
  | .query columns make =>
    let sub := make .empty
    match sub.rejection, sub.purpose with
    | some cause, _ => .error (.subqueryRejected cause)
    | none, .select aggregate => .ok (.query columns ⟨sub.clauses, aggregate⟩, sub.params)
    | none, _ => .error .subqueryNotSelect

/-- Turns to an insert. -/
def stageInsert (d : Draft) (payload : InsertPayload) : Except UsageError Draft := do
  let (source, values) ← insertSource payload
  let turned := d.turnTo (.insert source)
  return { turned with bindings := (turned.bindings.clear .insert).addAll .insert values }

/-- Turns to an update. -/
def stageUpdate (d : Draft) (assignments : Record) : Draft :=
  let turned := d.turnTo (.update assignments)
  { turned with bindings := (turned.bindings.clear .assign).addAll .assign assignments.values }

/-- Turns to a deletion. -/
def stageDelete (d : Draft) : Draft := d.turnTo .delete

/-! ## Statements without running them -/

def aggregateStatement (d : Draft) (function : AggregateFunction) (column : String) : Except UsageError Statement :=
  (d.stageAggregate function column).build

def insertStatement (d : Draft) (payload : InsertPayload) : Except UsageError Statement := do
  (← d.stageInsert payload).build

def updateStatement (d : Draft) (assignments : Record) : Except UsageError Statement :=
  (d.stageUpdate assignments).build

def deleteStatement (d : Draft) : Except UsageError Statement := d.stageDelete.build

end Draft
end SqlDraft
