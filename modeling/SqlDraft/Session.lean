import SqlDraft.Backend
import SqlDraft.Template.Interpolation

/-!
# Sessions

A named connection to a backend: running statements, locking tables, and transactions. While a
backend's state is lent to a call, the connection has none, and every other use of it is refused as
busy.
-/

namespace SqlDraft

/-- A connection to a backend with state `σ`. -/
structure Session (σ : Type) where
  name : String
  backend : Backend σ

/-- An action on a connection. The state is missing while it is lent to a call. -/
abbrev Action (σ α : Type) := ExceptT Failure (StateM (Option σ)) α

/-- The text that locks tables for writing. -/
def lockSql (tables : List String) : String := "LOCK TABLES " ++ commaSeparated (tables.map (· ++ " WRITE"))

/-- The text that releases all locks. -/
def unlockSql : String := "UNLOCK TABLES"

namespace Action

/-- The action that ends as a computation without state did. -/
def ofExcept {σ α : Type} : Except Failure α → Action σ α
  | .ok a => pure a
  | .error f => throw f

/-- The action that ends as the making of a statement did. -/
def ofUsage {σ α : Type} (r : Except UsageError α) : Action σ α := ofExcept (r.mapError .usage)

end Action

namespace Session

variable {σ α : Type}

/-- Lends the state to a call and gives what the call ended with. -/
def attempt (s : Session σ) (call : Call σ α) : Action σ (Except BackendError α) := fun
  | none => (.error (.connection (.busy s.name)), none)
  | some store =>
    let (outcome, store) := call store
    (.ok outcome, some store)

/-- Lends the state to a call; what the backend reports becomes a failure. -/
def lend (s : Session σ) (wrap : BackendError → Failure) (call : Call σ α) : Action σ α := do
  match ← s.attempt call with
  | .ok a => pure a
  | .error e => throw (wrap e)

/-- Prepares a statement, binds its values from position one up, executes it and reads from it, and
stops at the first call that fails. -/
def run (s : Session σ) (st : Statement) (read : Call σ α) : Action σ α :=
  s.lend (.query st.interpolated) do
    s.backend.prepare st.sql
    s.backend.bindAll 1 st.params
    s.backend.execute
    read

/-- Runs a statement and gives the number of rows that it changed. -/
def execute (s : Session σ) (st : Statement) : Action σ Nat := s.run st (.reading s.backend.rowCount)

/-- Runs a statement and reads one row. -/
def fetchOne (s : Session σ) [OfRow α] (st : Statement) (cursor : Cursor) : Action σ (Option α) := do
  match ← s.run st (s.backend.fetchOne cursor) with
  | none => pure none
  | some row => some <$> Action.ofExcept (ofRow row)

/-- Runs a statement and reads all its rows. -/
def fetchAll (s : Session σ) [OfRow α] (st : Statement) : Action σ (List α) := do
  let rows ← s.run st s.backend.fetchAll
  Action.ofExcept (rows.mapM ofRow)

/-- Runs a text that is not prepared. -/
def execRaw (s : Session σ) (sql : String) : Action σ Nat := s.lend (.query sql) (s.backend.execRaw sql)

/-- The identifier of the last row inserted. -/
def lastInsertId (s : Session σ) : Action σ Int64 :=
  s.lend (fun e => .connection (.noIdentifier e)) s.backend.lastInsertId

/-- Whether whole tables can be locked. -/
def locksTables (s : Session σ) : Action σ Bool := do
  match ← s.attempt (.reading s.backend.locksTables) with
  | .ok locks => pure locks
  | .error _ => pure false

/-- Locks tables for writing, where tables can be locked. -/
def lockTables (s : Session σ) (tables : List String) : Action σ Unit := do
  if tables.isEmpty then throw (.usage .noTableToLock)
  if ← s.locksTables then
    let _ ← s.execRaw (lockSql tables)

/-- Releases all locks, where tables can be locked. -/
def unlockTables (s : Session σ) : Action σ Unit := do
  if ← s.locksTables then
    let _ ← s.execRaw unlockSql

/-- Locks the tables, if any, and opens a transaction. -/
def begin (s : Session σ) (tables : List String) : Action σ Unit := do
  if !tables.isEmpty then s.lockTables tables
  s.lend (.query "BEGIN") s.backend.begin

/-- Ends a transaction by a call and releases all locks, however the call ended. Of two failures the
call's own is reported. -/
def finish (s : Session σ) (sql : String) (call : Call σ Unit) : Action σ Unit := do
  match ← s.attempt call with
  | .ok _ => s.unlockTables
  | .error e =>
    tryCatch s.unlockTables fun _ => pure ()
    throw (.query sql e)

/-- Keeps what a transaction did. -/
def commit (s : Session σ) : Action σ Unit := s.finish "COMMIT" s.backend.commit

/-- Undoes what a transaction did. -/
def rollback (s : Session σ) : Action σ Unit := s.finish "ROLLBACK" s.backend.rollback

/-- Whether a transaction is open; while the state is lent, none is seen. -/
def inTransaction (s : Session σ) (slot : Option σ) : Bool := slot.any s.backend.inTransaction

end Session
end SqlDraft
