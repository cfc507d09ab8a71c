import SqlDraft.Backend.ResultSet
import SqlDraft.Backend.Stored

/-!
# Grids

A prepared statement of the built-in store whose result is a grid of its own parameters: row by row,
each cell is the parameter of that number. Parameters are null until they are bound, and an execution
reads them as they are then.
-/

namespace SqlDraft

/-- A statement with its parameters and the result of its last execution. -/
structure Grid where
  width : Nat
  height : Nat
  params : List Stored
  result : ResultSet

namespace Grid

/-- A statement of some size with nothing bound. Even without rows it has a parameter per column. -/
def ofSize (width height : Nat) : Grid :=
  { width, height, params := List.replicate (width * max 1 height) .null, result := .empty }

/-- What the store reports of a position without a parameter. -/
def outOfRange : BackendError := { message := "column index out of range", code := some "ParameterOutOfRange" }

/-- Binds a parameter, counted from one. -/
def bind (g : Grid) (position : Nat) (v : Value) : Except BackendError Grid :=
  if 1 ≤ position ∧ position ≤ g.params.length then
    .ok { g with params := g.params.set (position - 1) (Stored.ofValue v).kept }
  else .error outOfRange

/-- Binds parameters from a position up and stops at the first position without one. -/
def bindFrom (g : Grid) (position : Nat) : List Value → Option BackendError × Grid
  | [] => (none, g)
  | v :: rest =>
    match g.bind position v with
    | .ok bound => bound.bindFrom (position + 1) rest
    | .error e => (some e, g)

/-- The names of the columns. -/
def columns (g : Grid) : List String := (List.range g.width).map fun i => "c" ++ Text.natText i

/-- The rows for the parameters as they are bound now. -/
def rows (g : Grid) : List Row :=
  (List.range g.height).map fun r =>
    Row.ofColumns g.columns (((g.params.drop (r * g.width)).take g.width).map Stored.toValue)

/-- Runs the statement and goes before the first row. -/
def execute (g : Grid) : Grid := { g with result := .ofRows g.rows }

def fetch (g : Grid) (cursor : Cursor) : Option Row × Grid :=
  let (row, result) := g.result.fetch cursor
  (row, { g with result })

def fetchAll (g : Grid) : List Row × Grid :=
  let (rows, result) := g.result.fetchAll
  (rows, { g with result })

/-- A query changes no row. -/
def rowCount (_ : Grid) : Nat := 0

end Grid
end SqlDraft
