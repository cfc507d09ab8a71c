import Mathlib.Data.List.Induction
import SqlDraft.Pool

/-!
# The openings of a pool

What is asked of a pool, step after step, and the calls that it makes to its opener on the way. A pool does
not keep these calls; a logged pool does the same and writes each of them down (`perform_logged`). What a
pool serves can be read off such a log: under each name the store of the last call for it that succeeded
(`accounts_performAll`).
-/

namespace SqlDraft

variable {σ : Type}

namespace Pool

/-- What is asked of a pool. -/
inductive Step
  | connection (name : String)
  | reconnect (name : String)
  | defaultConnection
  | currentConnection
  | choose (name : String)
  | isOpen (name : String)
  deriving DecidableEq

inductive Answer
  | handed (result : Except Failure Handle)
  | chose (result : Except Failure Unit)
  | known (isOpen : Bool)

def perform (p : Pool σ) : Step → Answer × Pool σ
  | .connection name => (p.connection name).map .handed id
  | .reconnect name => (p.reconnect name).map .handed id
  | .defaultConnection => p.defaultConnection.map .handed id
  | .currentConnection => p.currentConnection.map .handed id
  | .choose name => (p.choose name).map .chose id
  | .isOpen name => (.known (p.isOpen name), p)

/-- The pool behind some steps, also behind those that failed. -/
def performAll (p : Pool σ) (steps : List Step) : Pool σ := steps.foldl (fun p step => (p.perform step).2) p

/-- The name that a step is about. -/
def Step.subject (p : Pool σ) : Step → String
  | .connection name | .reconnect name | .choose name | .isOpen name => name
  | .defaultConnection => p.settings.default
  | .currentConnection => p.currentName

/-- The step could not be done. -/
def Answer.Failed (answer : Answer) : Prop := ∃ e, answer = .handed (.error e) ∨ answer = .chose (.error e)

end Pool

/-- A call to an opener, and what came of it. -/
structure Opening (σ : Type) where
  name : String
  profile : Profile
  outcome : Except Failure σ

/-- A connection was opened under the name. -/
def Opening.Opened (o : Opening σ) (name : String) : Prop := o.name = name ∧ ∃ store, o.outcome = .ok store

/-- The stores that some calls opened, in order. -/
def storesOf (openings : List (Opening σ)) : List σ := openings.filterMap (·.outcome.toOption)

/-- Of the calls for a name that succeeded, the last one opened the store with this number. -/
def LastOpened (openings : List (Opening σ)) (name : String) (number : Nat) : Prop :=
  ∃ before o after, openings = before ++ o :: after ∧ o.Opened name ∧ number = (storesOf before).length ∧
    ∀ later ∈ after, ¬ later.Opened name

/-! ## The last opening -/

theorem storesOf_append (first second : List (Opening σ)) :
    storesOf (first ++ second) = storesOf first ++ storesOf second :=
  List.filterMap_append

theorem storesOf_ok {o : Opening σ} {store : σ} (ok : o.outcome = .ok store) : storesOf [o] = [store] := by
  simp [storesOf, ok, Except.toOption]

theorem storesOf_error {o : Opening σ} {e : Failure} (failed : o.outcome = .error e) : storesOf [o] = [] := by
  simp [storesOf, failed, Except.toOption]

theorem not_opened_of_error {o : Opening σ} {e : Failure} (failed : o.outcome = .error e) (name : String) :
    ¬ o.Opened name := by
  rintro ⟨_, store, ok⟩
  rw [failed] at ok
  cases ok

theorem not_lastOpened_nil (name : String) (number : Nat) : ¬ LastOpened ([] : List (Opening σ)) name number := by
  rintro ⟨before, o, after, split, _⟩
  simp at split

/-- A place in a list with one more entry is that entry, or a place in the list without it. -/
theorem split_concat {α : Type} {xs before after : List α} {x y : α} (split : xs ++ [x] = before ++ y :: after) :
    (xs = before ∧ x = y ∧ after = []) ∨ ∃ front, xs = before ++ y :: front ∧ after = front ++ [x] := by
  rcases List.eq_nil_or_concat after with rfl | ⟨front, z, rfl⟩
  · obtain ⟨same, last⟩ := List.append_inj' split rfl
    exact .inl ⟨same, List.head_eq_of_cons_eq last, rfl⟩
  · have inside : xs ++ [x] = (before ++ y :: front) ++ [z] := by simp [split]
    obtain ⟨same, last⟩ := List.append_inj' inside rfl
    cases last
    exact .inr ⟨front, same, by simp⟩

/-- A further call that opened a connection under the name is the last one. -/
theorem lastOpened_concat_of_opened {openings : List (Opening σ)} {o : Opening σ} {name : String}
    (opened : o.Opened name) (number : Nat) :
    LastOpened (openings ++ [o]) name number ↔ number = (storesOf openings).length := by
  constructor
  · rintro ⟨before, last, after, split, _, rfl, none_later⟩
    rcases split_concat split with ⟨rfl, _, _⟩ | ⟨front, _, rfl⟩
    · rfl
    · exact absurd opened (none_later o (by simp))
  · rintro rfl
    exact ⟨openings, o, [], rfl, opened, rfl, by simp⟩

/-- A further call that opened no connection under the name changes nothing. -/
theorem lastOpened_concat_of_not {openings : List (Opening σ)} {o : Opening σ} {name : String}
    (other : ¬ o.Opened name) (number : Nat) :
    LastOpened (openings ++ [o]) name number ↔ LastOpened openings name number := by
  constructor
  · rintro ⟨before, last, after, split, opened, rfl, none_later⟩
    rcases split_concat split with ⟨_, rfl, _⟩ | ⟨front, shorter, rfl⟩
    · exact absurd opened other
    · exact ⟨before, last, front, shorter, opened, rfl, fun later member => none_later later (by simp [member])⟩
  · rintro ⟨before, last, after, rfl, opened, rfl, none_later⟩
    refine ⟨before, last, after ++ [o], by simp, opened, rfl, ?_⟩
    intro later member
    rcases List.mem_append.mp member with known | new
    · exact none_later later known
    · rw [List.mem_singleton.mp new]
      exact other

theorem exists_lastOpened_iff (openings : List (Opening σ)) (name : String) :
    (∃ number, LastOpened openings name number) ↔ ∃ o ∈ openings, o.Opened name := by
  induction openings using List.reverseRecOn with
  | nil => simp [not_lastOpened_nil]
  | append_singleton openings o ih =>
    by_cases opened : o.Opened name
    · simp [lastOpened_concat_of_opened opened, opened]
    · simp [lastOpened_concat_of_not opened, ih, opened]

/-! ## Logged pools -/

/-- A pool and the calls that it made to its opener, the oldest first. -/
structure Pool.Logged (σ : Type) where
  pool : Pool σ
  openings : List (Opening σ) := []

namespace Pool.Logged

/-- Calls the opener, and counts the call and writes it down. -/
def ask (l : Logged σ) (name : String) (profile : Profile) : Except Failure σ × Logged σ :=
  let outcome := l.pool.opener l.pool.calls name profile
  (outcome,
    { pool := { l.pool with calls := l.pool.calls + 1 }, openings := l.openings ++ [⟨name, profile, outcome⟩] })

def reconnect (l : Logged σ) (name : String) : Except Failure Handle × Logged σ :=
  match l.pool.settings.connection name with
  | .error e => (.error (.config e), l)
  | .ok profile =>
    match l.ask name profile with
    | (.error e, l) => (.error e, l)
    | (.ok store, l) =>
      (.ok ⟨name, l.pool.stores.length⟩,
        { l with pool := { l.pool with
            stores := l.pool.stores ++ [store]
            served := l.pool.served.put name l.pool.stores.length } })

def connection (l : Logged σ) (name : String) : Except Failure Handle × Logged σ :=
  match l.pool.served.get? name with
  | some number => (.ok ⟨name, number⟩, l)
  | none => l.reconnect name

def choose (l : Logged σ) (name : String) : Except Failure Unit × Logged σ :=
  ((l.pool.choose name).1, { l with pool := (l.pool.choose name).2 })

def perform (l : Logged σ) : Step → Answer × Logged σ
  | .connection name => (l.connection name).map .handed id
  | .reconnect name => (l.reconnect name).map .handed id
  | .defaultConnection => (l.connection l.pool.settings.default).map .handed id
  | .currentConnection => (l.connection l.pool.currentName).map .handed id
  | .choose name => (l.choose name).map .chose id
  | .isOpen name => (.known (l.pool.isOpen name), l)

def performAll (l : Logged σ) (steps : List Step) : Logged σ := steps.foldl (fun l step => (l.perform step).2) l

theorem pool_reconnect (l : Logged σ) (name : String) :
    l.pool.reconnect name = ((l.reconnect name).1, (l.reconnect name).2.pool) := by
  rw [reconnect, Pool.reconnect]
  cases l.pool.settings.connection name with
  | error e => rfl
  | ok profile =>
    simp only [ask]
    cases l.pool.opener l.pool.calls name profile with
    | error e => rfl
    | ok store => rfl

theorem pool_connection (l : Logged σ) (name : String) :
    l.pool.connection name = ((l.connection name).1, (l.connection name).2.pool) := by
  rw [connection, Pool.connection]
  cases l.pool.served.get? name with
  | some number => rfl
  | none => exact l.pool_reconnect name

/-- A pool and its log go together. -/
theorem perform_logged (l : Logged σ) (step : Step) :
    l.pool.perform step = ((l.perform step).1, (l.perform step).2.pool) := by
  cases step with
  | connection name => exact congrArg (Prod.map Answer.handed id) (l.pool_connection name)
  | reconnect name => exact congrArg (Prod.map Answer.handed id) (l.pool_reconnect name)
  | defaultConnection => exact congrArg (Prod.map Answer.handed id) (l.pool_connection l.pool.settings.default)
  | currentConnection => exact congrArg (Prod.map Answer.handed id) (l.pool_connection l.pool.currentName)
  | choose name => rfl
  | isOpen name => rfl

theorem performAll_logged (l : Logged σ) (steps : List Step) :
    l.pool.performAll steps = (l.performAll steps).pool := by
  induction steps generalizing l with
  | nil => rfl
  | cons step rest ih =>
    rw [Pool.performAll, List.foldl_cons, perform_logged]
    exact ih (l.perform step).2

/-! ## What is opened -/

/-- How opening a connection anew goes: the name may be unknown, the opener may fail, or the connection is
served from then on. -/
theorem reconnect_cases (l : Logged σ) (name : String) :
    (∃ e, l.pool.settings.connection name = .error e ∧ l.reconnect name = (.error (.config e), l)) ∨
      ∃ profile, l.pool.settings.connection name = .ok profile ∧
        ((∃ e, l.pool.opener l.pool.calls name profile = .error e ∧
          l.reconnect name = (.error e,
            { pool := { l.pool with calls := l.pool.calls + 1 }
              openings := l.openings ++ [⟨name, profile, .error e⟩] })) ∨
        ∃ store, l.pool.opener l.pool.calls name profile = .ok store ∧
          l.reconnect name = (.ok ⟨name, l.pool.stores.length⟩,
            { pool := { l.pool with
                calls := l.pool.calls + 1
                stores := l.pool.stores ++ [store]
                served := l.pool.served.put name l.pool.stores.length }
              openings := l.openings ++ [⟨name, profile, .ok store⟩] })) := by
  rw [reconnect]
  cases found : l.pool.settings.connection name with
  | error e => exact .inl ⟨e, rfl, rfl⟩
  | ok profile =>
    refine .inr ⟨profile, rfl, ?_⟩
    simp only [ask]
    cases outcome : l.pool.opener l.pool.calls name profile with
    | error e => exact .inl ⟨e, rfl, rfl⟩
    | ok store => exact .inr ⟨store, rfl, rfl⟩

/-- Each call was about a connection of the settings, and ended as the opener has it. -/
def Asked (settings : Settings) (opener : Opener σ) (openings : List (Opening σ)) : Prop :=
  ∀ i o, openings[i]? = some o → settings.connection o.name = .ok o.profile ∧ o.outcome = opener i o.name o.profile

/-- The log accounts for the pool, which holds the stores of all calls and serves those of the last ones. -/
structure Accounts (settings : Settings) (opener : Opener σ) (l : Logged σ) : Prop where
  settings_eq : l.pool.settings = settings
  opener_eq : l.pool.opener = opener
  calls : l.pool.calls = l.openings.length
  stores : l.pool.stores = storesOf l.openings
  asked : Asked settings opener l.openings
  served : ∀ name number, l.pool.served.get? name = some number ↔ LastOpened l.openings name number

variable {settings : Settings} {opener : Opener σ} {l : Logged σ}

theorem accounts_start (settings : Settings) (opener : Opener σ) :
    Accounts settings opener { pool := { settings, opener } } := by
  refine ⟨rfl, rfl, rfl, rfl, ?_, ?_⟩
  · intro i o at_i
    simp at at_i
  · intro name number
    simp [not_lastOpened_nil]

theorem asked_concat {openings : List (Opening σ)} {o : Opening σ} (asked : Asked settings opener openings)
    (found : settings.connection o.name = .ok o.profile)
    (outcome : o.outcome = opener openings.length o.name o.profile) :
    Asked settings opener (openings ++ [o]) := by
  intro i x at_i
  rcases Nat.lt_trichotomy i openings.length with inside | rfl | outside
  · rw [List.getElem?_append_left inside] at at_i
    exact asked i x at_i
  · rw [List.getElem?_concat_length] at at_i
    cases at_i
    exact ⟨found, outcome⟩
  · rw [List.getElem?_eq_none (by simp; omega)] at at_i
    cases at_i

theorem accounts_reconnect (accounts : l.Accounts settings opener) (name : String) :
    (l.reconnect name).2.Accounts settings opener := by
  obtain ⟨known, opens, calls, stores, asked, served⟩ := accounts
  rcases l.reconnect_cases name with ⟨e, _, done⟩ | ⟨profile, found, ⟨e, failed, done⟩ | ⟨store, opened, done⟩⟩
  · rw [done]
    exact ⟨known, opens, calls, stores, asked, served⟩
  · rw [known] at found
    rw [opens, calls] at failed
    rw [done]
    refine ⟨known, opens, by simp [calls], ?_, asked_concat asked found failed.symm, ?_⟩
    · rw [storesOf_append, storesOf_error rfl, List.append_nil]
      exact stores
    · intro other number
      rw [lastOpened_concat_of_not (not_opened_of_error rfl other)]
      exact served other number
  · rw [known] at found
    rw [opens, calls] at opened
    rw [done]
    refine ⟨known, opens, by simp [calls], ?_, asked_concat asked found opened.symm, ?_⟩
    · rw [storesOf_append, storesOf_ok rfl, stores]
    · intro other number
      rw [Dictionary.get?_put, stores]
      by_cases same : other = name
      · rw [if_pos same, lastOpened_concat_of_opened ⟨same.symm, store, rfl⟩]
        simp [eq_comm]
      · have apart : ¬ (⟨name, profile, .ok store⟩ : Opening σ).Opened other := fun opened => same opened.1.symm
        rw [if_neg same, lastOpened_concat_of_not apart]
        exact served other number

theorem accounts_connection (accounts : l.Accounts settings opener) (name : String) :
    (l.connection name).2.Accounts settings opener := by
  rw [connection]
  split
  · exact accounts
  · exact accounts_reconnect accounts name

theorem accounts_choose (accounts : l.Accounts settings opener) (name : String) :
    (l.choose name).2.Accounts settings opener := by
  obtain ⟨known, opens, calls, stores, asked, served⟩ := accounts
  rw [choose, Pool.choose]
  split
  · exact ⟨known, opens, calls, stores, asked, served⟩
  · exact ⟨known, opens, calls, stores, asked, served⟩

theorem accounts_perform (accounts : l.Accounts settings opener) (step : Step) :
    (l.perform step).2.Accounts settings opener := by
  cases step with
  | connection name => exact accounts_connection accounts name
  | reconnect name => exact accounts_reconnect accounts name
  | defaultConnection => exact accounts_connection accounts l.pool.settings.default
  | currentConnection => exact accounts_connection accounts l.pool.currentName
  | choose name => exact accounts_choose accounts name
  | isOpen name => exact accounts

theorem accounts_performAll (accounts : l.Accounts settings opener) (steps : List Step) :
    (l.performAll steps).Accounts settings opener := by
  induction steps generalizing l with
  | nil => exact accounts
  | cons step rest ih => exact ih (accounts_perform accounts step)

end Pool.Logged
end SqlDraft
