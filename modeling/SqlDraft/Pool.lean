import SqlDraft.Session
import SqlDraft.Settings

/-!
# Pools of connections

Connections that are opened when they are first asked for, one per name, and asked for by name, as the
default, or as the current one. A connection may be opened anew; whoever holds the old one keeps it.
Nothing but a connection that was opened changes which one is served.
-/

namespace SqlDraft

/-- What opens a connection's store, given how often it was called before. -/
abbrev Opener (σ : Type) := (call : Nat) → (name : String) → Profile → Except Failure σ

/-- An opened connection, as whoever asked for it holds it. -/
structure Handle where
  name : String
  /-- The number of its store among all that were opened. -/
  number : Nat
  deriving DecidableEq

/-- The connections of some settings. -/
structure Pool (σ : Type) where
  settings : Settings
  opener : Opener σ
  /-- The numbers of the stores served, by name. -/
  served : Dictionary Nat := .empty
  current : Option String := none
  /-- The number of calls to the opener. -/
  calls : Nat := 0
  /-- Every store that was opened, in order. -/
  stores : List σ := []

namespace Pool

variable {σ α : Type}

/-- Opens a connection anew, and serves it from now on. -/
def reconnect (p : Pool σ) (name : String) : Except Failure Handle × Pool σ :=
  match p.settings.connection name with
  | .error e => (.error (.config e), p)
  | .ok profile =>
    match p.opener p.calls name profile with
    | .error e => (.error e, { p with calls := p.calls + 1 })
    | .ok store =>
      (.ok ⟨name, p.stores.length⟩,
        { p with
          calls := p.calls + 1
          stores := p.stores ++ [store]
          served := p.served.put name p.stores.length })

/-- The connection served under a name; it is opened if there is none. -/
def connection (p : Pool σ) (name : String) : Except Failure Handle × Pool σ :=
  match p.served.get? name with
  | some number => (.ok ⟨name, number⟩, p)
  | none => p.reconnect name

def defaultConnection (p : Pool σ) : Except Failure Handle × Pool σ := p.connection p.settings.default

/-- The name of the current connection: the default until another is chosen. -/
def currentName (p : Pool σ) : String := p.current.getD p.settings.default

def currentConnection (p : Pool σ) : Except Failure Handle × Pool σ := p.connection p.currentName

/-- Chooses the current connection among those of the settings. -/
def choose (p : Pool σ) (name : String) : Except Failure Unit × Pool σ :=
  if p.settings.connections.contains name then (.ok (), { p with current := some name })
  else (.error (.config (.unknownConnection name)), p)

/-- Whether a connection is served under a name. -/
def isOpen (p : Pool σ) (name : String) : Bool := p.served.contains name

/-- Runs an action on an opened connection. -/
def use (p : Pool σ) (h : Handle) (action : Action σ α) : Except Failure α × Pool σ :=
  match action p.stores[h.number]? with
  | (r, some store) => (r, { p with stores := p.stores.set h.number store })
  | (r, none) => (r, p)

/-- Whether a transaction is open on an opened connection. -/
def inTransaction (p : Pool σ) (backend : Backend σ) (h : Handle) : Bool :=
  (p.stores[h.number]?).any backend.inTransaction

end Pool
end SqlDraft
