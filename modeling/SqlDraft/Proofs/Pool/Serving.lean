import SqlDraft.Proofs.Pool.Openings

/-!
# What a pool serves

After any steps, whichever calls of the opener failed, a pool hands out the connection that was last opened
under a name, and opens one only if there is none or it is asked to (`serves_last_opened`). A step that
fails leaves what is served and what is chosen as they were, and no step touches a name that it is not about.
-/

namespace SqlDraft.Pool

variable {σ : Type}

/-! ## The rules -/

section
variable (settings : Settings) (opener : Opener σ) (l l' : Logged σ)

/-- A connection is opened anew. A name that is not known is refused, and otherwise the opener is called once; if
it succeeds, its store is handed out and served from then on. -/
def OpensAnew (name : String) (result : Except Failure Handle) : Prop :=
  match settings.connections.get? name with
  | none => result = .error (.config (.unknownConnection name)) ∧ l' = l
  | some profile =>
    let outcome := opener l.openings.length name profile
    l'.openings = l.openings ++ [⟨name, profile, outcome⟩] ∧
      match outcome with
      | .error e => result = .error e
      | .ok store => ∃ number, result = .ok ⟨name, number⟩ ∧ l.pool.stores[number]? = none ∧
        l'.pool.stores[number]? = some store ∧ l'.pool.connection name = (result, l'.pool)

/-- A connection is handed out: the last one that was opened under the name, or a new one if none was. -/
def HandsOut (name : String) (result : Except Failure Handle) : Prop :=
  (∀ number, LastOpened l.openings name number → result = .ok ⟨name, number⟩ ∧ l' = l) ∧
    ((∀ o ∈ l.openings, ¬ o.Opened name) → OpensAnew settings opener l l' name result)

/-- What a step answers, and where it leads. -/
def Step.Goes : Step → Answer → Prop
  | .connection name, answer => ∃ result, answer = .handed result ∧ HandsOut settings opener l l' name result
  | .reconnect name, answer => ∃ result, answer = .handed result ∧ OpensAnew settings opener l l' name result
  | .defaultConnection, answer =>
    ∃ result, answer = .handed result ∧ HandsOut settings opener l l' settings.default result
  | .currentConnection, answer =>
    ∃ result, answer = .handed result ∧ HandsOut settings opener l l' l.pool.currentName result
  | .choose name, answer =>
    if settings.connections.contains name then
      answer = .chose (.ok ()) ∧ l' = { l with pool := { l.pool with current := some name } }
    else answer = .chose (.error (.config (.unknownConnection name))) ∧ l' = l
  | .isOpen name, answer => l' = l ∧ ∃ b, answer = .known b ∧ (b = true ↔ ∃ o ∈ l.openings, o.Opened name)

/-- What a step does, and what it leaves alone. -/
structure Step.Done (step : Step) (answer : Answer) : Prop where
  goes : step.Goes settings opener l l' answer
  failed : answer.Failed → l'.pool.served = l.pool.served ∧ l'.pool.current = l.pool.current
  others : ∀ name, name ≠ step.subject l.pool → l'.pool.served.get? name = l.pool.served.get? name
  handed : ∀ h, answer = .handed (.ok h) → h.name = step.subject l.pool ∧ LastOpened l'.openings h.name h.number
  unknown : ∀ name, settings.connections.get? name = none →
    l'.pool.served.get? name = none ∧ ∀ o ∈ l'.openings, o.name ≠ name

end

/-! ## Steps -/

namespace Logged

variable {settings : Settings} {opener : Opener σ} {l : Logged σ}

theorem opens_reconnect (accounts : l.Accounts settings opener) (name : String) :
    OpensAnew settings opener l (l.reconnect name).2 name (l.reconnect name).1 := by
  have known := accounts.settings_eq
  have opens := accounts.opener_eq
  have calls := accounts.calls
  rw [OpensAnew]
  rcases l.reconnect_cases name with ⟨e, missing, done⟩ | ⟨profile, found, ⟨e, failed, done⟩ | ⟨store, opened, done⟩⟩
  · rw [known] at missing
    obtain ⟨none_there, rfl⟩ := Settings.connection_eq_error.mp missing
    rw [none_there, done]
    exact ⟨rfl, rfl⟩
  · rw [known] at found
    rw [opens, calls] at failed
    rw [Settings.connection_eq_ok.mp found, done]
    simp [failed]
  · rw [known] at found
    rw [opens, calls] at opened
    rw [Settings.connection_eq_ok.mp found, done]
    simp [opened, Pool.connection, Dictionary.get?_put]

theorem hands_connection (accounts : l.Accounts settings opener) (name : String) :
    HandsOut settings opener l (l.connection name).2 name (l.connection name).1 := by
  rw [connection]
  constructor
  · intro number last
    rw [(accounts.served name number).mpr last]
    exact ⟨rfl, rfl⟩
  · intro never
    cases found : l.pool.served.get? name with
    | none => exact opens_reconnect accounts name
    | some number =>
      have last := (accounts.served name number).mp found
      obtain ⟨o, member, opened⟩ := (exists_lastOpened_iff l.openings name).mp ⟨number, last⟩
      exact absurd opened (never o member)

theorem isOpen_iff (accounts : l.Accounts settings opener) (name : String) :
    l.pool.isOpen name = true ↔ ∃ o ∈ l.openings, o.Opened name := by
  rw [isOpen, Dictionary.contains, Option.isSome_iff_exists, ← exists_lastOpened_iff]
  exact exists_congr fun number => accounts.served name number

theorem goes_perform (accounts : l.Accounts settings opener) (step : Step) :
    step.Goes settings opener l (l.perform step).2 (l.perform step).1 := by
  cases step with
  | connection name => exact ⟨_, rfl, hands_connection accounts name⟩
  | reconnect name => exact ⟨_, rfl, opens_reconnect accounts name⟩
  | defaultConnection =>
    have hands := hands_connection accounts l.pool.settings.default
    rw [accounts.settings_eq] at hands
    exact ⟨_, by rw [perform, accounts.settings_eq]; rfl, by rw [perform, accounts.settings_eq]; exact hands⟩
  | currentConnection => exact ⟨_, rfl, hands_connection accounts l.pool.currentName⟩
  | choose name =>
    have same := accounts.settings_eq
    by_cases known : settings.connections.contains name
    · simp [Step.Goes, perform, choose, Pool.choose, same, known]
    · simp [Step.Goes, perform, choose, Pool.choose, same, known]
  | isOpen name => exact ⟨rfl, _, rfl, isOpen_iff accounts name⟩

/-- What a request for a connection leaves alone, and whose connection it hands out. -/
structure Frame (l l' : Logged σ) (name : String) (result : Except Failure Handle) : Prop where
  current : l'.pool.current = l.pool.current
  failed : ∀ e, result = .error e → l'.pool.served = l.pool.served
  others : ∀ other, other ≠ name → l'.pool.served.get? other = l.pool.served.get? other
  handed : ∀ h, result = .ok h → h.name = name ∧ l'.pool.served.get? name = some h.number

theorem frame_reconnect (l : Logged σ) (name : String) :
    Frame l (l.reconnect name).2 name (l.reconnect name).1 := by
  rcases l.reconnect_cases name with ⟨e, _, done⟩ | ⟨profile, _, ⟨e, _, done⟩ | ⟨store, _, done⟩⟩
  · rw [done]
    refine ⟨rfl, fun _ _ => rfl, fun _ _ => rfl, ?_⟩
    rintro h handed
    cases handed
  · rw [done]
    refine ⟨rfl, fun _ _ => rfl, fun _ _ => rfl, ?_⟩
    rintro h handed
    cases handed
  · rw [done]
    refine ⟨rfl, ?_, ?_, ?_⟩
    · rintro e failed
      cases failed
    · intro other apart
      rw [Dictionary.get?_put, if_neg apart]
    · rintro h handed
      cases handed
      exact ⟨rfl, by simp [Dictionary.get?_put]⟩

theorem frame_connection (l : Logged σ) (name : String) :
    Frame l (l.connection name).2 name (l.connection name).1 := by
  rw [connection]
  cases found : l.pool.served.get? name with
  | none => exact l.frame_reconnect name
  | some number =>
    refine ⟨rfl, fun _ _ => rfl, fun _ _ => rfl, ?_⟩
    rintro h handed
    cases handed
    exact ⟨rfl, found⟩

theorem unknown_of_accounts (accounts : l.Accounts settings opener) {name : String}
    (unknown : settings.connections.get? name = none) :
    l.pool.served.get? name = none ∧ ∀ o ∈ l.openings, o.name ≠ name := by
  have never : ∀ o ∈ l.openings, o.name ≠ name := by
    rintro o member rfl
    obtain ⟨i, at_i⟩ := List.mem_iff_getElem?.mp member
    have known := Settings.connection_eq_ok.mp (accounts.asked i o at_i).1
    rw [unknown] at known
    cases known
  refine ⟨?_, never⟩
  rw [Option.eq_none_iff_forall_ne_some]
  intro number found
  have last := (accounts.served name number).mp found
  obtain ⟨o, member, opened⟩ := (exists_lastOpened_iff l.openings name).mp ⟨number, last⟩
  exact never o member opened.1

/-- A request for a connection does what a step is to do, given where it goes. -/
theorem Frame.done {step : Step} {l' : Logged σ} {result : Except Failure Handle}
    (frame : Frame l l' (step.subject l.pool) result) (accounts' : l'.Accounts settings opener)
    (goes : step.Goes settings opener l l' (.handed result)) :
    step.Done settings opener l l' (.handed result) := by
  refine ⟨goes, ?_, frame.others, ?_, fun _ => unknown_of_accounts accounts'⟩
  · rintro ⟨e, same | same⟩
    · cases same
      exact ⟨frame.failed e rfl, frame.current⟩
    · cases same
  · rintro h same
    cases same
    obtain ⟨named, served⟩ := frame.handed h rfl
    exact ⟨named, named ▸ (accounts'.served _ h.number).mp served⟩

theorem done_perform (accounts : l.Accounts settings opener) (step : Step) :
    step.Done settings opener l (l.perform step).2 (l.perform step).1 := by
  have goes := goes_perform accounts step
  have accounts' := accounts_perform accounts step
  cases step with
  | connection name => exact (l.frame_connection name).done accounts' goes
  | reconnect name => exact (l.frame_reconnect name).done accounts' goes
  | defaultConnection =>
    have frame : Frame l _ (Step.defaultConnection.subject l.pool) _ := l.frame_connection l.pool.settings.default
    exact frame.done accounts' goes
  | currentConnection =>
    have frame : Frame l _ (Step.currentConnection.subject l.pool) _ := l.frame_connection l.pool.currentName
    exact frame.done accounts' goes
  | choose name =>
    refine ⟨goes, ?_, ?_, ?_, fun _ => unknown_of_accounts accounts'⟩
    · rw [perform, choose, Pool.choose]
      split
      · rintro ⟨e, same | same⟩
        · cases same
        · cases same
      · exact fun _ => ⟨rfl, rfl⟩
    · intro other _
      rw [perform, choose, Pool.choose]
      split <;> rfl
    · rintro h handed
      cases handed
  | isOpen name =>
    refine ⟨goes, fun _ => ⟨rfl, rfl⟩, fun _ _ => rfl, ?_, fun _ => unknown_of_accounts accounts'⟩
    rintro h handed
    cases handed

end Logged

/-- Whatever settings a pool has, whenever its opener fails, and whatever was asked of it before: each step does
what the rules have it do by the calls that succeeded so far, and leaves alone what it is not about. The log of
these calls is complete: without it the pool answers and ends up the same, having called as often. -/
theorem serves_last_opened (settings : Settings) (opener : Opener σ) (steps : List Step) (step : Step) :
    let start : Logged σ := { pool := { settings, opener } }
    let l := start.performAll steps
    let l' := (l.perform step).2
    l.pool = start.pool.performAll steps ∧ l.pool.perform step = ((l.perform step).1, l'.pool) ∧
      l.Accounts settings opener ∧ l'.Accounts settings opener ∧
      step.Done settings opener l l' (l.perform step).1 := by
  intro start l l'
  have accounts : l.Accounts settings opener :=
    Logged.accounts_performAll (Logged.accounts_start settings opener) steps
  exact ⟨(start.performAll_logged steps).symm, l.perform_logged step, accounts,
    Logged.accounts_perform accounts step, Logged.done_perform accounts step⟩

end SqlDraft.Pool
