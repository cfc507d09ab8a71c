import SqlDraft.Backend.Location
import SqlDraft.Backend.ResultSet
import SqlDraft.Backend.Stored
import SqlDraft.Pool
import SqlDraft.Session.Query
import SqlDraft.Text.Blank

/-!
# The built-in store

A store in memory with one table `log`, whose rows have an identifier `id` and a value `a`. It reads
the statements that drafts on this table give, keeps the rows in ascending order of their identifiers,
and has transactions, one at a time, but no table locks.
-/

namespace SqlDraft

/-- Which rows a statement is about. -/
inductive LogFilter
  | all
  | none
  /-- The identifier is the next parameter. -/
  | equals
  /-- The identifier is, or is not, one of the next parameters. -/
  | among (count : Nat) (negated : Bool)
  /-- The identifier lies between the next two parameters. -/
  | between
  deriving DecidableEq

/-- What a query reads. -/
inductive LogProjection
  | rows
  | count
  | least
  | greatest
  deriving DecidableEq

/-- A statement on the table. -/
inductive LogStatement
  /-- Rows whose values, and identifiers if they have any, are parameters. -/
  | insert (withId : Bool) (rows : Nat)
  | update (filter : LogFilter)
  | delete (filter : LogFilter)
  | select (projection : LogProjection) (filter : LogFilter) (descending : Bool) (limit offset : Option Nat)
  deriving DecidableEq

namespace LogStatement

/-- The parentheses, commas and words of a text. Words end at blanks and at the other two. -/
def tokens (s : List Char) : List String :=
  (Text.words (s.flatMap fun c => if c = '(' ∨ c = ')' ∨ c = ',' then [' ', c, ' '] else [c])).map String.ofList

/-- Reads question marks separated by commas up to a closing parenthesis, and counts them. -/
def marks? : List String → Option (Nat × List String)
  | "?" :: ")" :: rest => some (1, rest)
  | "?" :: "," :: rest => (marks? rest).map fun (n, rest) => (n + 1, rest)
  | _ => Option.none

/-- Reads a condition, if there is one. -/
def filter? : List String → Option (LogFilter × List String)
  | "WHERE" :: "1=1" :: rest => some (.all, rest)
  | "WHERE" :: "1=0" :: rest => some (.none, rest)
  | "WHERE" :: "id" :: "=" :: "?" :: rest => some (.equals, rest)
  | "WHERE" :: "id" :: "IN" :: "(" :: rest => (marks? rest).map fun (n, rest) => (.among n false, rest)
  | "WHERE" :: "id" :: "NOT" :: "IN" :: "(" :: rest => (marks? rest).map fun (n, rest) => (.among n true, rest)
  | "WHERE" :: "id" :: "BETWEEN" :: "?" :: "AND" :: "?" :: rest => some (.between, rest)
  | "WHERE" :: _ => Option.none
  | rest => some (.all, rest)

/-- Reads the groups of an insert with as many values each as there are columns, and counts them. -/
def groups? (width : Nat) : List String → Option Nat
  | "(" :: "?" :: ")" :: rest =>
    if width = 1 then
      match rest with
      | [] => some 1
      | "," :: rest => (groups? width rest).map (· + 1)
      | _ => Option.none
    else Option.none
  | "(" :: "?" :: "," :: "?" :: ")" :: rest =>
    if width = 2 then
      match rest with
      | [] => some 1
      | "," :: rest => (groups? width rest).map (· + 1)
      | _ => Option.none
    else Option.none
  | _ => Option.none

/-- Reads the order of a query, if it has one. -/
def order? : List String → Option (Bool × List String)
  | "ORDER" :: "BY" :: "id" :: "ASC" :: rest => some (false, rest)
  | "ORDER" :: "BY" :: "id" :: "DESC" :: rest => some (true, rest)
  | "ORDER" :: _ => Option.none
  | rest => some (false, rest)

/-- Reads the size of a query, if it has one. -/
def size? : List String → Option (Option Nat × Option Nat)
  | [] => some (Option.none, Option.none)
  | ["LIMIT", n] => (Text.natural? n.toList).map fun n => (some n, Option.none)
  | ["LIMIT", n, "OFFSET", m] => do
    let n ← Text.natural? n.toList
    let m ← Text.natural? m.toList
    return (some n, some m)
  | _ => Option.none

/-- Reads the rest of a query behind its table. -/
def query? (projection : LogProjection) (rest : List String) : Option LogStatement := do
  let (filter, rest) ← filter? rest
  let (descending, rest) ← order? rest
  let (limit, offset) ← size? rest
  return .select projection filter descending limit offset

/-- Reads the condition that ends a statement. -/
def lastFilter? (rest : List String) : Option LogFilter :=
  match filter? rest with
  | some (filter, []) => some filter
  | _ => Option.none

/-- Reads a statement on the table. -/
def ofTokens? : List String → Option LogStatement
  | "INSERT" :: "INTO" :: "log" :: "(" :: "a" :: ")" :: "VALUES" :: rest => (groups? 1 rest).map (.insert false)
  | "INSERT" :: "INTO" :: "log" :: "(" :: "id" :: "," :: "a" :: ")" :: "VALUES" :: rest =>
    (groups? 2 rest).map (.insert true)
  | "UPDATE" :: "log" :: "SET" :: "a" :: "=" :: "?" :: rest => (lastFilter? rest).map .update
  | "DELETE" :: "FROM" :: "log" :: rest => (lastFilter? rest).map .delete
  | "SELECT" :: "*" :: "FROM" :: "log" :: rest => query? .rows rest
  | "SELECT" :: "COUNT" :: "(" :: "*" :: ")" :: "AS" :: "valor" :: "FROM" :: "log" :: rest => query? .count rest
  | "SELECT" :: "MIN" :: "(" :: "id" :: ")" :: "AS" :: "valor" :: "FROM" :: "log" :: rest => query? .least rest
  | "SELECT" :: "MAX" :: "(" :: "id" :: ")" :: "AS" :: "valor" :: "FROM" :: "log" :: rest => query? .greatest rest
  | _ => Option.none

/-- Reads the text of a statement on the table. -/
def read? (sql : String) : Option LogStatement := ofTokens? (tokens sql.toList)

end LogStatement

namespace LogFilter

/-- Whether an identifier passes, for the parameters that the filter takes. One that is searched for must
be named, and one that is ruled out or bounded is compared. A comparison with null lets nothing pass,
negated or not. -/
def passes (id : Int) (params : List Stored) : LogFilter → Bool
  | all => true
  | none => false
  | equals => (params.head?.bind Stored.identifier?) == some id
  | among count false => (params.take count).any fun v => v.identifier? == some id
  | among count true =>
    (params.take count).all fun v => v.compareId id == some .lt || v.compareId id == some .gt
  | between =>
    match params.map (Stored.compareId id) with
    | some low :: some high :: _ => low != .lt && high != .gt
    | _ => false

end LogFilter

/-- The rows of the table, what a rollback would restore, and the statement in flight. -/
structure LogTable where
  /-- The rows in ascending order of their identifiers. -/
  rows : List (Int × Stored) := []
  lastId : Int64 := 0
  /-- The rows as they were when the open transaction began. -/
  saved : Option (List (Int × Stored)) := none
  statement : Option LogStatement := none
  params : List Stored := []
  result : ResultSet := .empty
  changes : Nat := 0

namespace LogTable

/-- Puts a row in its place among ascending rows, unless its identifier is taken. -/
def place? (id : Int) (a : Stored) : List (Int × Stored) → Option (List (Int × Stored))
  | [] => some [(id, a)]
  | (other, b) :: rest =>
    if id < other then some ((id, a) :: (other, b) :: rest)
    else if id = other then none
    else (place? id a rest).map ((other, b) :: ·)

/-- The identifier of a row that comes without one: one more than the greatest. -/
def nextId (rows : List (Int × Stored)) : Int :=
  match rows.getLast? with
  | some (id, _) => id + 1
  | none => 1

/-- What the store reports of an identifier that is taken. -/
def taken : BackendError := { message := "UNIQUE constraint failed: log.id", code := some "ConstraintViolation" }

/-- What the store reports of a value of the wrong kind. -/
def mismatch : BackendError := { message := "datatype mismatch", code := some "TypeMismatch" }

/-- Inserts rows given by their parameters. -/
def insertAll (withId : Bool) : List Stored → List (Int × Stored) → Int → Except BackendError (List (Int × Stored) × Int)
  | [], rows, last => .ok (rows, last)
  | first :: rest, rows, last =>
    if withId then
      match first, rest with
      | .integer id, a :: rest =>
        match place? id.toInt a rows with
        | some rows => insertAll withId rest rows id.toInt
        | none => .error taken
      | _, _ => .error mismatch
    else
      let id := nextId rows
      match place? id first rows with
      | some rows => insertAll withId rest rows id
      | none => insertAll withId rest rows last

/-- The largest number of rows that a query can ask for. -/
def largestSize : Nat := 0x7fffffffffffffff

/-- The rows of a query, cut to size. Sizes that are no 64-bit integers are refused, unless no row is
asked for. -/
def cut (limit offset : Option Nat) (rows : List Row) : Except BackendError (List Row) :=
  match limit, offset with
  | none, _ => .ok rows
  | some 0, _ => .ok []
  | some n, m =>
    if largestSize < n ∨ largestSize < m.getD 0 then .error mismatch
    else .ok ((rows.drop (m.getD 0)).take n)

/-- The rows that pass a filter. -/
def passing (t : LogTable) (filter : LogFilter) (params : List Stored) : List (Int × Stored) :=
  t.rows.filter fun r => filter.passes r.1 params

/-- One row with an aggregate. -/
def single (v : Value) : List Row := [Row.ofColumns [aggregateName] [v]]

/-- The result of a query. -/
def answer (projection : LogProjection) (descending : Bool) (found : List (Int × Stored)) : List Row :=
  match projection with
  | .rows =>
    (if descending then found.reverse else found).map fun r =>
      Row.ofColumns ["id", "a"] [.int (Int64.ofInt r.1), r.2.toValue]
  | .count => single (.int (Int64.ofNat found.length))
  | .least => single ((found.head?.map fun r => Value.int (Int64.ofInt r.1)).getD .null)
  | .greatest => single ((found.getLast?.map fun r => Value.int (Int64.ofInt r.1)).getD .null)

/-- Runs a statement with its parameters. A statement that fails changes nothing. -/
def run (t : LogTable) (st : LogStatement) (params : List Stored) : Except BackendError LogTable :=
  match st with
  | .insert withId count => do
    let (rows, last) ← insertAll withId params t.rows t.lastId.toInt
    return { t with rows, lastId := Int64.ofInt last, changes := count, result := .empty }
  | .update filter =>
    let a := params.headD .null
    let changed := fun r : Int × Stored => filter.passes r.1 params.tail
    .ok { t with
      rows := t.rows.map fun r => if changed r then (r.1, a) else r
      changes := (t.rows.filter changed).length
      result := .empty }
  | .delete filter =>
    .ok { t with
      rows := t.rows.filter fun r => !filter.passes r.1 params
      changes := (t.passing filter params).length
      result := .empty }
  | .select projection filter descending limit offset => do
    let rows ← cut limit offset (answer projection descending (t.passing filter params))
    return { t with result := .ofRows rows, changes := 0 }

/-- What the store reports of transactions that do not pair up. -/
def transactionError (message : String) : BackendError := { message, code := some "Unknown" }

/-- What the store reports of a text that it cannot read. -/
def unreadable (sql : String) : BackendError :=
  { message := "cannot read the statement: " ++ sql, code := some "Unknown" }

/-- Changes the table by a computation that may fail and then changes nothing. -/
def changing (f : LogTable → Except BackendError LogTable) : Call LogTable Unit := fun t =>
  match f t with
  | .ok changed => (.ok (), changed)
  | .error e => (.error e, t)

/-- Gives what a statement's result gives and moves its place. -/
def reading {α : Type} (f : ResultSet → α × ResultSet) : Call LogTable α := fun t =>
  let (a, result) := f t.result
  (.ok a, { t with result })

/-- The store as a backend. -/
def backend : Backend LogTable where
  prepare sql := changing fun t =>
    match LogStatement.read? sql with
    | some st => .ok { t with statement := some st, params := [], result := .empty, changes := 0 }
    | none => .error (unreadable sql)
  bind _ v _ := .changing fun t => { t with params := t.params ++ [(Stored.ofValue v).kept] }
  execute := changing fun t =>
    match t.statement with
    | some st => t.run st t.params
    | none => .ok t
  fetchOne cursor := reading (·.fetch cursor)
  fetchAll := reading (·.fetchAll)
  rowCount t := t.changes
  execRaw sql := do
    changing fun t =>
      match LogStatement.read? sql with
      | some st => t.run st []
      | none => .error (unreadable sql)
    .reading LogTable.changes
  lastInsertId := .reading LogTable.lastId
  begin := changing fun t =>
    match t.saved with
    | some _ => .error (transactionError "cannot start a transaction within a transaction")
    | none => .ok { t with saved := some t.rows }
  commit := changing fun t =>
    match t.saved with
    | some _ => .ok { t with saved := none }
    | none => .error (transactionError "cannot commit - no transaction is active")
  rollback := changing fun t =>
    match t.saved with
    | some rows => .ok { t with rows, saved := none }
    | none => .error (transactionError "cannot rollback - no transaction is active")
  inTransaction t := t.saved.isSome
  locksTables _ := false

/-- A connection to the store. -/
def session (name : String) : Session LogTable := ⟨name, backend⟩

/-- Opens empty stores. -/
def opener : Opener LogTable := fun _ name profile =>
  if profile.driver = "sqlite" then
    match Location.find profile.database with
    | .ok _ => .ok {}
    | .error e => .error (.connection (.notOpened name { message := e.message }))
  else .error (.config (.noBackend name profile.driver))

end LogTable
end SqlDraft
