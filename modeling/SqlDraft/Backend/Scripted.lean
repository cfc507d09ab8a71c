import SqlDraft.Pool

/-!
# A scripted backend

A backend that answers from a script and keeps an account of the calls made to it: for trying out a
connection without a database. The script names the calls that fail.
-/

namespace SqlDraft

/-- One entry of the account. -/
inductive Event
  | prepare (sql : String)
  | bind (position : Nat) (value : Value) (hint : TypeHint)
  | execute
  /-- What the connection answered when it was used from within an execution. -/
  | reentry (inTransaction : Bool) (ran : Except Failure Nat) (identifier : Except Failure Int64)
  | fetch (cursor : Cursor)
  | fetchAll
  | execRaw (sql : String)
  | begin
  | commit
  | rollback

/-- The script, the state of the pretended database, and the account so far. -/
structure Scripted where
  rows : List Row := []
  affected : Nat := 0
  lastId : Int64 := 0
  locks : Bool := true
  /-- Whether an execution uses the connection that it runs on. -/
  reenters : Bool := false
  /-- The calls that fail, by name. -/
  failures : List (String × BackendError) := []
  inTransaction : Bool := false
  position : Int := -1
  /-- The account, the oldest entry first. -/
  events : List Event := []

namespace Scripted

/-- Adds an entry to the account. -/
def note (e : Event) : Call Scripted Unit := .changing fun s => { s with events := s.events ++ [e] }

/-- Fails if the script says so of the name. -/
def failIfNamed (name : String) : Call Scripted Unit := fun s =>
  match s.failures.lookup name with
  | some e => (.error e, s)
  | none => (.ok (), s)

/-- The place that a cursor goes to from a position among some rows. -/
def target (position : Int) (rows : Nat) : Cursor → Int
  | .next => position + 1
  | .prior => position - 1
  | .first => 0
  | .last => (rows : Int) - 1
  | .absolute n => n.toNat
  | .relative n => position + n.toInt

/-- The row at a place, if there is one. -/
def rowAt (rows : List Row) (place : Int) : Option Row := if place < 0 then none else rows[place.toNat]?

/-- The text up to its first space. -/
def firstWord (sql : String) : String := String.ofList (sql.toList.takeWhile (· != ' '))

/-- What a connection of this name answers while its state is lent. -/
def reentry (name : String) : Event :=
  let lent : Session Scripted :=
    { name
      backend :=
        { prepare := fun _ => pure (), bind := fun _ _ _ => pure (), execute := pure (),
          fetchOne := fun _ => pure none, fetchAll := pure [], rowCount := fun _ => 0,
          execRaw := fun _ => pure 0, lastInsertId := pure 0, begin := pure (), commit := pure (),
          rollback := pure (), inTransaction := fun _ => false, locksTables := fun _ => false } }
  .reentry (lent.inTransaction none) (lent.execRaw "NESTED" none).1 (lent.lastInsertId none).1

/-- The backend for a connection of some name. -/
def backend (name : String) : Backend Scripted where
  prepare sql := do
    note (.prepare sql)
    failIfNamed "prepare"
    .changing fun s => { s with position := -1 }
  bind position v hint := do
    note (.bind position v hint)
    failIfNamed ("bind" ++ Text.natText position)
  execute := do
    note .execute
    if ← .reading Scripted.reenters then note (reentry name)
    failIfNamed "execute"
  fetchOne cursor := do
    note (.fetch cursor)
    failIfNamed "fetch"
    .changing fun s => { s with position := target s.position s.rows.length cursor }
    .reading fun s => rowAt s.rows s.position
  fetchAll := do
    note .fetchAll
    failIfNamed "fetch_all"
    .reading Scripted.rows
  rowCount s := s.affected
  execRaw sql := do
    note (.execRaw sql)
    failIfNamed ("exec_raw " ++ firstWord sql)
    .reading Scripted.affected
  lastInsertId := do
    failIfNamed "last_insert_id"
    .reading Scripted.lastId
  begin := do
    note .begin
    failIfNamed "begin"
    .changing fun s => { s with inTransaction := true }
  commit := do
    note .commit
    .changing fun s => { s with inTransaction := false }
    failIfNamed "commit"
  rollback := do
    note .rollback
    .changing fun s => { s with inTransaction := false }
    failIfNamed "rollback"
  inTransaction s := s.inTransaction
  locksTables s := s.locks

/-- A connection to a scripted backend. -/
def session (name : String) : Session Scripted := ⟨name, backend name⟩

/-- Opens scripted backends with nothing in the script, for every driver but `broken`. -/
def opener : Opener Scripted := fun _ name profile =>
  if profile.driver = "broken" then .error (.connection (.note ("cannot open " ++ name))) else .ok {}

end Scripted
end SqlDraft
