import SqlDraft.Draft.Staging
import SqlDraft.Session

/-!
# Queries

A draft together with the connection that runs it, if it has one: reading rows, aggregates, and the
statements that change a table. Complaints about what an insert writes come first, then that there is
no connection, then all other complaints about the draft; only then the backend is called.
-/

namespace SqlDraft

/-- A draft and the connection it was made on. -/
structure Query (σ : Type) where
  session : Option (Session σ)
  draft : Draft

/-- What became of an update that inserts where it finds nothing. -/
inductive Upsert
  /-- There was a row; so many were changed. -/
  | updated (rows : Nat)
  /-- There was no row; the new one has this identifier. -/
  | inserted (id : Int64)
  deriving DecidableEq

namespace Query

variable {σ α : Type}

/-- An empty draft on the same connection. -/
def fresh (q : Query σ) : Query σ := { q with draft := .empty }

def withDraft (q : Query σ) (f : Draft → Draft) : Query σ := { q with draft := f q.draft }

/-- The connection to run on. -/
def requireSession (q : Query σ) : Except UsageError (Session σ) :=
  match q.session with
  | some s => .ok s
  | none => .error .noConnection

/-! ## Reading -/

/-- Every row. -/
def get (q : Query σ) [OfRow α] : Action σ (List α) := do
  let s ← Action.ofUsage q.requireSession
  let st ← Action.ofUsage q.draft.build
  s.fetchAll st

/-- The first row, if there is one. -/
def first (q : Query σ) [OfRow α] : Action σ (Option α) := do
  let s ← Action.ofUsage q.requireSession
  let st ← Action.ofUsage q.draft.build
  s.fetchOne st .next

/-- The first row in which a column has a value, if there is one. -/
def find (q : Query σ) (column : String) (v : Value) : Action σ (Option Row) :=
  (q.withDraft (·.equals column v)).first

/-- An aggregate of a column; null is no answer. -/
def aggregate (q : Query σ) (function : AggregateFunction) (column : String) : Action σ (Option Value) := do
  let row : Option Row ← (q.withDraft (·.stageAggregate function column)).first
  return (row.bind (·.get? aggregateName)).filter (!·.isNull)

/-! ## Changing a table -/

/-- Runs the draft's statement and gives the number of rows that it changed. -/
def execute (q : Query σ) : Action σ Nat := do
  let s ← Action.ofUsage q.requireSession
  let st ← Action.ofUsage q.draft.build
  s.execute st

/-- Inserts and gives the identifier of the last row inserted. -/
def insert (q : Query σ) (payload : InsertPayload) : Action σ Int64 := do
  let staged ← Action.ofUsage (q.draft.stageInsert payload)
  let s ← Action.ofUsage q.requireSession
  let st ← Action.ofUsage staged.build
  let _ ← s.execute st
  s.lastInsertId

/-- Updates and gives the number of rows changed. -/
def update (q : Query σ) (assignments : Record) : Action σ Nat :=
  (q.withDraft (·.stageUpdate assignments)).execute

/-- Deletes and gives the number of rows deleted. -/
def delete (q : Query σ) : Action σ Nat := (q.withDraft Draft.stageDelete).execute

/-- The query narrowed to the rows that have every value of a record. -/
def matching (q : Query σ) (search : Record) : Query σ :=
  q.withDraft fun d => search.entries.foldl (fun d e => d.equals e.1 e.2) d

/-- The insert target of a query: an empty draft on the table that the query writes to. -/
def target (q : Query σ) : Query σ :=
  { q with draft := match q.draft.clauses.table with
      | some table => Draft.empty.table table
      | none => .empty }

/-- Updates the rows that have every value searched for, or inserts these values with the update
written over them if there is no such row. -/
def updateOrInsert (q : Query σ) (search update : Record) : Action σ Upsert := do
  let found : Option Row ← (q.matching search).first
  match found with
  | some _ => .updated <$> (q.matching search).update update
  | none => .inserted <$> (q.matching search).target.insert (.row (search.merge update))

end Query

namespace Session

/-- An empty draft on this connection. -/
def query {σ : Type} (s : Session σ) : Query σ := ⟨some s, .empty⟩

/-- A draft on a table of this connection. -/
def table {σ : Type} (s : Session σ) (table : String) : Query σ := ⟨some s, Draft.empty.table table⟩

end Session
end SqlDraft
