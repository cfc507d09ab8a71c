import SqlDraft.Text.Escaped
import SqlDraft.Value.Extract

/-!
# Failures

What can go wrong, as causes: a statement that the backend refused, a builder used in a way that never
gives a statement, a connection that is not there, a configuration that does not hold, and a row that
does not have what was asked of it. The wording of each cause is in its `message`.
-/

namespace SqlDraft

/-- The four kinds of statement. -/
inductive Verb
  | select
  | insert
  | update
  | delete
  deriving DecidableEq

def Verb.sql : Verb → String
  | select => "SELECT"
  | insert => "INSERT"
  | update => "UPDATE"
  | delete => "DELETE"

/-- An operator that was refused, with the column or table it was meant for. -/
inductive Rejection
  | comparison (operator column : String)
  | join (operator table : String)
  deriving DecidableEq

def Rejection.message : Rejection → String
  | comparison operator column =>
    "unsupported comparison operator " ++ Text.escaped operator ++ " on " ++ column
  | join operator table => "unsupported join operator " ++ Text.escaped operator ++ " on " ++ table

/-- A use of a builder or connection that never gives a valid statement. -/
inductive UsageError
  /-- A text that names no operator. -/
  | unknownComparison (operator : String)
  /-- The first refused operator of a builder. -/
  | rejected (cause : Rejection)
  | noTable (verb : Verb)
  | insertWithConditions
  | insertWithoutColumn
  | insertWithoutRow
  /-- A row of another width than the first one. -/
  | rowWidth (row found expected : Nat)
  /-- A row that lacks a column of the first one. -/
  | rowLacks (row : Nat) (column : String)
  | updateWithoutColumn
  /-- The first refused operator of the query that an insert takes its rows from. -/
  | subqueryRejected (cause : Rejection)
  | subqueryNotSelect
  | noConnection
  | noTableToLock
  /-- A caller's own complaint. -/
  | note (text : String)
  deriving DecidableEq

def UsageError.message : UsageError → String
  | unknownComparison operator => "unsupported comparison operator: " ++ Text.escaped operator
  | rejected cause => cause.message
  | noTable verb => verb.sql ++ " requires a table; call table() first"
  | insertWithConditions => "INSERT cannot carry WHERE predicates"
  | insertWithoutColumn => "INSERT requires at least one column"
  | insertWithoutRow => "INSERT requires at least one row"
  | rowWidth row found expected =>
    "INSERT row " ++ Text.natText row ++ " has " ++ Text.natText found ++ " columns, expected " ++
      Text.natText expected
  | rowLacks row column => "INSERT row " ++ Text.natText row ++ " is missing column " ++ column
  | updateWithoutColumn => "UPDATE requires at least one column to set"
  | subqueryRejected cause => "INSERT ... SELECT sub-query: " ++ cause.message
  | subqueryNotSelect => "INSERT ... SELECT producer must describe a SELECT"
  | noConnection => "builder has no connection; create it with Connection::query()"
  | noTableToLock => "lock_tables requires at least one table"
  | note text => text

/-- What a backend reports: a message, its own code for it, and a cause further down. -/
structure BackendError where
  message : String
  code : Option String := none
  cause : Option String := none
  deriving DecidableEq

/-- Why a connection could not be used. -/
inductive ConnectionError
  /-- A statement of the connection is still running. -/
  | busy (connection : String)
  /-- The backend does not tell the identifier of the row it inserted. -/
  | noIdentifier (source : BackendError)
  /-- The backend could not be opened. -/
  | notOpened (connection : String) (source : BackendError)
  /-- A caller's own complaint. -/
  | note (text : String)
  deriving DecidableEq

def ConnectionError.message : ConnectionError → String
  | busy connection => "connection '" ++ connection ++ "' is busy"
  | noIdentifier source => source.message
  | notOpened connection source => "failed to open connection '" ++ connection ++ "': " ++ source.message
  | note text => text

/-- Why a file could not be read. -/
inductive FileError
  | missing
  /-- A file stands where the path goes on. -/
  | notDirectory
  | isDirectory
  | notText
  deriving DecidableEq

def FileError.message : FileError → String
  | missing => "No such file or directory (os error 2)"
  | notDirectory => "Not a directory (os error 20)"
  | isDirectory => "Is a directory (os error 21)"
  | notText => "stream did not contain valid UTF-8"

/-- Why a configuration does not hold. -/
inductive ConfigError
  /-- A reference to a variable that no brace closes, with the text behind its opening brace. -/
  | unclosedReference (body : String)
  | emptyReference
  | unsetVariable (name : String)
  /-- A document that is not well formed or lacks what a configuration needs. -/
  | malformed
  /-- A key of a document with more parts than its reader follows. -/
  | longKey
  | blankDefault
  | undefinedDefault (name : String)
  | blankDriver (connection : String)
  | blankDatabase (connection : String)
  | unknownConnection (name : String)
  | noBackend (connection driver : String)
  | unreadable (path : String) (cause : FileError)
  /-- A caller's own complaint. -/
  | note (text : String)
  deriving DecidableEq

def ConfigError.message : ConfigError → String
  | unclosedReference body => "unterminated env var reference: $\x7b" ++ body
  | emptyReference => "invalid env var reference: $\x7b\x7d"
  | unsetVariable name => "missing env var for config expansion: " ++ name
  | malformed => "TOML parse error"
  | longKey => "recursion limit\n"
  | blankDefault => "default connection name must not be empty"
  | undefinedDefault name => "default connection '" ++ name ++ "' is not defined under [connections]"
  | blankDriver connection => "connections." ++ connection ++ ".driver is empty"
  | blankDatabase connection => "connections." ++ connection ++ ".database is empty"
  | unknownConnection name => "unknown connection '" ++ name ++ "'"
  | noBackend connection driver =>
    "connection '" ++ connection ++ "' uses driver '" ++ driver ++ "', which has no built-in backend"
  | unreadable path cause => "failed to read config file " ++ path ++ ": " ++ cause.message
  | note text => text

/-- Everything that can go wrong. -/
inductive Failure
  /-- The backend refused a statement, shown with its values in place. -/
  | query (sql : String) (source : BackendError)
  | usage (cause : UsageError)
  | connection (cause : ConnectionError)
  | config (cause : ConfigError)
  | decode (column : String) (cause : DecodeCause)
  deriving DecidableEq

namespace Failure

/-- The whole message. -/
def message : Failure → String
  | query sql source => source.message ++ "\n Query: " ++ sql
  | usage cause => "Invalid builder usage: " ++ cause.message
  | connection cause => "Connection error: " ++ cause.message
  | config cause => "Configuration error: " ++ cause.message
  | decode column cause => "Decode error on column '" ++ column ++ "': " ++ cause.message

def isQuery : Failure → Bool
  | query .. => true
  | _ => false

def isUsage : Failure → Bool
  | usage _ => true
  | _ => false

/-- The statement that was refused, if one was. -/
def sql? : Failure → Option String
  | query sql _ => some sql
  | _ => none

/-- What the backend reported, if it did. -/
def source? : Failure → Option BackendError
  | query _ source => some source
  | _ => none

/-- The backend's own code for what it reported. -/
def code? (f : Failure) : Option String := f.source?.bind BackendError.code

/-- The messages of what lies below a failure, the nearest first. -/
def chain (f : Failure) : List String :=
  match f.source? with
  | some source => source.message :: source.cause.toList
  | none => []

end Failure

end SqlDraft
