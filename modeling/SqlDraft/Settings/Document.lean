import SqlDraft.Settings
import SqlDraft.Settings.Expansion
import SqlDraft.Toml.Reading

/-!
# Settings in a document

Settings written as a document: the name of the default connection, and a table of connections. What a
table holds besides is passed over, but its numbers must stand for values. References to variables are
replaced in the text before it is read as a document.
-/

namespace SqlDraft

namespace Toml

/-- The text that a value is. -/
def asText? : Toml → Option String
  | .text s => some s
  | _ => none

/-- The port number that a value is. -/
def asPort? : Toml → Option UInt16
  | .integer n => if 0 ≤ n ∧ n < 0x10000 then some (UInt16.ofNat n.toNat) else none
  | _ => none

/-- Reads an entry that need not be there. -/
def optional {α : Type} (read : Toml → Option α) : Option Toml → Option (Option α)
  | none => some none
  | some v => (read v).map some

end Toml

/-- The connection that a value describes: a table, or a list of all fields in order. Whatever follows
the fields in a list is not looked at. -/
def Profile.ofToml? : Toml → Option Profile
  | .table entries => do
    guard (Toml.entriesValued entries)
    let driver ← Toml.optional Toml.asText? (entries.lookup "driver")
    let database ← entries.lookup "database" >>= Toml.asText?
    let host ← Toml.optional Toml.asText? (entries.lookup "host")
    let port ← Toml.optional Toml.asPort? (entries.lookup "port")
    let username ← Toml.optional Toml.asText? (entries.lookup "username")
    let password ← Toml.optional Toml.asText? (entries.lookup "password")
    return { driver := driver.getD "sqlite", database, host, port, username, password }
  | .list (driver :: database :: host :: port :: username :: password :: _) => do
    return {
      driver := ← driver.asText?
      database := ← database.asText?
      host := some (← host.asText?)
      port := some (← port.asPort?)
      username := some (← username.asText?)
      password := some (← password.asText?) }
  | _ => none

namespace Settings

/-- The connections that an entry describes; there are none where the entry is missing. -/
def connectionsOf? : Option Toml → Option (Dictionary Profile)
  | none => some .empty
  | some (.table entries) => do
    let profiles ← entries.mapM fun e => (Profile.ofToml? e.2).map fun profile => (e.1, profile)
    return .ofList profiles
  | some _ => none

/-- The settings that a document holds. -/
def ofDocument? (entries : List (String × Toml)) : Option Settings := do
  let default ← entries.lookup "default" >>= Toml.asText?
  let connections ← connectionsOf? (entries.lookup "connections")
  guard (Toml.entriesValued (entries.filter fun e => e.1 != "connections"))
  return { default, connections }

/-- What a document that cannot be read means for the settings. -/
def documentError : Toml.ReadError → ConfigError
  | .malformed => .malformed
  | .longKey => .longKey

/-- Reads settings from a text: replaces references to variables, reads the document, and checks what
it holds. -/
def parse (env : Environment) (s : String) : Except ConfigError Settings := do
  let expanded ← Expansion.expand env s.toList
  let entries ← (Toml.read expanded).mapError documentError
  match ofDocument? entries with
  | none => throw .malformed
  | some settings => do
    settings.validate
    return settings

end Settings
end SqlDraft
