import SqlDraft.Session

/-!
# Traces

A backend that does what another one does and keeps a list of the calls made to it: what was asked
for, and what was reported of it if it failed. Questions about the state are no calls.
-/

namespace SqlDraft

/-- What a call asks of a backend. -/
inductive Request
  | prepare (sql : String)
  | bind (position : Nat) (value : Value) (hint : TypeHint)
  | execute
  | fetchOne (cursor : Cursor)
  | fetchAll
  | execRaw (sql : String)
  | lastInsertId
  | begin
  | commit
  | rollback
  deriving DecidableEq

/-- A call that was made: what it asked for, and what was reported if it failed. -/
structure Traced.Entry where
  request : Request
  failure : Option BackendError
  deriving DecidableEq

/-- A state and the calls that led to it, the oldest first. -/
structure Traced (σ : Type) where
  store : σ
  calls : List Traced.Entry := []

/-- What was reported, if a call failed. -/
def failureOf? {ε α : Type} : Except ε α → Option ε
  | .error e => some e
  | .ok _ => none

/-- Makes a call and adds it to the list. -/
def Call.traced {σ α : Type} (request : Request) (call : Call σ α) : Call (Traced σ) α := fun t =>
  let (outcome, store) := call t.store
  (outcome, { store, calls := t.calls ++ [⟨request, failureOf? outcome⟩] })

/-- The backend that keeps a list of its calls. -/
def Backend.traced {σ : Type} (b : Backend σ) : Backend (Traced σ) where
  prepare sql := (b.prepare sql).traced (.prepare sql)
  bind position v hint := (b.bind position v hint).traced (.bind position v hint)
  execute := b.execute.traced .execute
  fetchOne cursor := (b.fetchOne cursor).traced (.fetchOne cursor)
  fetchAll := b.fetchAll.traced .fetchAll
  rowCount t := b.rowCount t.store
  execRaw sql := (b.execRaw sql).traced (.execRaw sql)
  lastInsertId := b.lastInsertId.traced .lastInsertId
  begin := b.begin.traced .begin
  commit := b.commit.traced .commit
  rollback := b.rollback.traced .rollback
  inTransaction t := b.inTransaction t.store
  locksTables t := b.locksTables t.store

/-- The connection that keeps a list of the calls it makes. -/
def Session.traced {σ : Type} (s : Session σ) : Session (Traced σ) := ⟨s.name, s.backend.traced⟩

end SqlDraft
