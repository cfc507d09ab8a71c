import SqlDraft.Failure
import SqlDraft.Row

/-!
# Backends

What stands between a connection and a database: calls that prepare a statement, bind its values one
by one, execute it and read its rows, and calls that do without a prepared statement. A backend's
state holds the database and the one statement that is in flight. Every call may fail, and a failing
call may still have changed the state.
-/

namespace SqlDraft

/-- Where a reader of single rows goes before it reads. -/
inductive Cursor
  | next
  | prior
  | first
  | last
  /-- The row with this number, counted from zero. -/
  | absolute (index : UInt64)
  /-- The row this far from the current one. -/
  | relative (distance : Int64)
  deriving DecidableEq

/-- A call to a backend with state `σ`. -/
abbrev Call (σ α : Type) := ExceptT BackendError (StateM σ) α

namespace Call

/-- A call that gives what a function makes of the state and changes nothing. -/
def reading {σ α : Type} (f : σ → α) : Call σ α := fun s => (.ok (f s), s)

/-- A call that changes the state and succeeds. -/
def changing {σ : Type} (f : σ → σ) : Call σ Unit := fun s => (.ok (), f s)

/-- A call that fails and changes nothing. -/
def failing {σ α : Type} (e : BackendError) : Call σ α := fun s => (.error e, s)

end Call

/-- A database as a connection sees it. -/
structure Backend (σ : Type) where
  /-- Makes the statement in flight. -/
  prepare : String → Call σ Unit
  /-- Binds a value at a position, counted from one. -/
  bind : Nat → Value → TypeHint → Call σ Unit
  execute : Call σ Unit
  fetchOne : Cursor → Call σ (Option Row)
  /-- Reads the rows behind the current one. -/
  fetchAll : Call σ (List Row)
  /-- The number of rows that the last execution changed. -/
  rowCount : σ → Nat
  /-- Runs a text that is not prepared and gives the number of rows that it changed. -/
  execRaw : String → Call σ Nat
  lastInsertId : Call σ Int64
  begin : Call σ Unit
  commit : Call σ Unit
  rollback : Call σ Unit
  inTransaction : σ → Bool
  /-- Whether whole tables can be locked. -/
  locksTables : σ → Bool

namespace Backend

/-- Binds values at consecutive positions and stops at the first that is refused. -/
def bindAll {σ : Type} (b : Backend σ) : (position : Nat) → List Value → Call σ Unit
  | _, [] => pure ()
  | position, v :: rest => do
    b.bind position v v.typeHint
    b.bindAll (position + 1) rest

end Backend
end SqlDraft
