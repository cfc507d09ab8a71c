import SqlDraft.Dictionary
import SqlDraft.Failure
import SqlDraft.Text.Blank

/-!
# Settings

Named connections, and which of them is used where none is named. Settings hold if that one is defined
and every connection names its driver and its database; whether the driver exists is left to whoever
opens the connection.
-/

namespace SqlDraft

/-- How to reach one database. -/
structure Profile where
  driver : String := "sqlite"
  /-- The name of the database, or the path of its file. -/
  database : String
  host : Option String := none
  port : Option UInt16 := none
  username : Option String := none
  password : Option String := none
  deriving DecidableEq

/-- Named connections and the default among them. -/
structure Settings where
  default : String
  connections : Dictionary Profile
  deriving DecidableEq

namespace Settings

/-- Settings with one connection, which is the default. -/
def single (name : String) (profile : Profile) : Settings :=
  { default := name, connections := Dictionary.empty.put name profile }

/-- What is wrong with a connection, if anything. -/
def profileError? (e : String × Profile) : Option ConfigError :=
  if Text.isBlankText e.2.driver.toList then some (.blankDriver e.1)
  else if Text.isBlankText e.2.database.toList then some (.blankDatabase e.1)
  else none

/-- What is wrong with settings first, if anything: the default, then the connections in the order of
their names. -/
def error? (s : Settings) : Option ConfigError :=
  if Text.isBlankText s.default.toList then some .blankDefault
  else if !s.connections.contains s.default then some (.undefinedDefault s.default)
  else s.connections.entries.findSome? profileError?

/-- Checks settings. -/
def validate (s : Settings) : Except ConfigError Unit :=
  match s.error? with
  | some e => .error e
  | none => .ok ()

/-- The connection with a name. -/
def connection (s : Settings) (name : String) : Except ConfigError Profile :=
  match s.connections.get? name with
  | some profile => .ok profile
  | none => .error (.unknownConnection name)

theorem connection_eq_ok {s : Settings} {name : String} {profile : Profile} :
    s.connection name = .ok profile ↔ s.connections.get? name = some profile := by
  rw [connection]
  cases s.connections.get? name <;> simp

theorem connection_eq_error {s : Settings} {name : String} {e : ConfigError} :
    s.connection name = .error e ↔ s.connections.get? name = none ∧ e = .unknownConnection name := by
  rw [connection]
  cases s.connections.get? name <;> simp [eq_comm]

end Settings
end SqlDraft
