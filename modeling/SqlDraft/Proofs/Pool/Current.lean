import SqlDraft.Proofs.Pool.Serving

/-!
# The current connection

The current connection of a pool is the last one that was chosen, or else the default, and with settings that
hold it is always one of them: asking for it, or for the default, fails only if the opener does
(`current_known`).
-/

namespace SqlDraft

/-- Settings that hold have their default, and name the driver and the database of every connection. -/
theorem Settings.of_validate {settings : Settings} (valid : settings.validate = .ok ()) :
    (∃ profile, settings.connections.get? settings.default = some profile) ∧
      ∀ name profile, settings.connections.get? name = some profile →
        Text.isBlankText profile.driver.toList = false ∧ Text.isBlankText profile.database.toList = false := by
  have none_wrong : settings.error? = none := by
    rw [validate] at valid
    cases wrong : settings.error? with
    | none => rfl
    | some e => simp [wrong] at valid
  rw [error?] at none_wrong
  split at none_wrong
  · cases none_wrong
  · split at none_wrong
    · cases none_wrong
    · next defined =>
      constructor
      · rw [← Option.isSome_iff_exists]
        simpa only [Dictionary.contains, Bool.not_eq_true, Bool.not_eq_false'] using defined
      · intro name profile found
        obtain ⟨before, after, split, _⟩ := List.lookup_eq_some_iff.mp found
        have right := List.findSome?_eq_none_iff.mp none_wrong (name, profile) (by simp [split])
        simp only [profileError?] at right
        grind

namespace Pool

variable {σ : Type}

/-- What was asked of a pool, and what it answered. -/
def transcript (p : Pool σ) : List Step → List (Step × Answer)
  | [] => []
  | step :: rest => (step, (p.perform step).1) :: (p.perform step).2.transcript rest

/-- The name that was chosen, if one was. -/
def chosen? : Step × Answer → Option String
  | (.choose name, .chose (.ok _)) => some name
  | _ => none

/-- The last name that was chosen, or else the default. -/
def lastChoice (settings : Settings) (done : List (Step × Answer)) : String :=
  (done.filterMap chosen?).getLast?.getD settings.default

/-- A request for a connection changes neither the choice nor the settings and the opener. -/
theorem kept_reconnect (p : Pool σ) (name : String) :
    (p.reconnect name).2.current = p.current ∧ (p.reconnect name).2.settings = p.settings ∧
      (p.reconnect name).2.opener = p.opener := by
  rw [reconnect]
  split
  · exact ⟨rfl, rfl, rfl⟩
  · split
    · exact ⟨rfl, rfl, rfl⟩
    · exact ⟨rfl, rfl, rfl⟩

theorem kept_connection (p : Pool σ) (name : String) :
    (p.connection name).2.current = p.current ∧ (p.connection name).2.settings = p.settings ∧
      (p.connection name).2.opener = p.opener := by
  rw [connection]
  split
  · exact ⟨rfl, rfl, rfl⟩
  · exact p.kept_reconnect name

theorem kept_choose (p : Pool σ) (name : String) :
    (p.choose name).2.settings = p.settings ∧ (p.choose name).2.opener = p.opener := by
  rw [choose]
  split
  · exact ⟨rfl, rfl⟩
  · exact ⟨rfl, rfl⟩

theorem current_perform (p : Pool σ) (step : Step) :
    (p.perform step).2.current = (chosen? (step, (p.perform step).1)).or p.current := by
  cases step with
  | connection name => exact (p.kept_connection name).1
  | reconnect name => exact (p.kept_reconnect name).1
  | defaultConnection => exact (p.kept_connection p.settings.default).1
  | currentConnection => exact (p.kept_connection p.currentName).1
  | choose name =>
    by_cases known : p.settings.connections.contains name
    · simp [perform, choose, known, chosen?]
    · simp [perform, choose, known, chosen?]
  | isOpen name => rfl

theorem kept_perform (p : Pool σ) (step : Step) :
    (p.perform step).2.settings = p.settings ∧ (p.perform step).2.opener = p.opener := by
  cases step with
  | connection name => exact (p.kept_connection name).2
  | reconnect name => exact (p.kept_reconnect name).2
  | defaultConnection => exact (p.kept_connection p.settings.default).2
  | currentConnection => exact (p.kept_connection p.currentName).2
  | choose name => exact p.kept_choose name
  | isOpen name => exact ⟨rfl, rfl⟩

theorem kept_performAll (p : Pool σ) (steps : List Step) :
    (p.performAll steps).settings = p.settings ∧ (p.performAll steps).opener = p.opener := by
  induction steps generalizing p with
  | nil => exact ⟨rfl, rfl⟩
  | cons step rest ih =>
    obtain ⟨settings, opener⟩ := p.kept_perform step
    obtain ⟨settings', opener'⟩ := ih (p.perform step).2
    exact ⟨settings'.trans settings, opener'.trans opener⟩

theorem current_performAll (p : Pool σ) (steps : List Step) :
    (p.performAll steps).current = ((p.transcript steps).filterMap chosen?).getLast?.or p.current := by
  induction steps generalizing p with
  | nil => rfl
  | cons step rest ih =>
    have later := ih (p.perform step).2
    rw [current_perform] at later
    refine later.trans ?_
    rw [transcript, List.filterMap_cons]
    cases chosen? (step, (p.perform step).1) with
    | none => rfl
    | some name => cases ((p.perform step).2.transcript rest).filterMap chosen? <;> simp [List.getLast?_cons]

/-- Only connections of the settings are chosen. -/
theorem known_of_chosen {p : Pool σ} {step : Step} {name : String}
    (chosen : chosen? (step, (p.perform step).1) = some name) : p.settings.connections.contains name = true := by
  cases step with
  | choose other =>
    by_cases known : p.settings.connections.contains other
    · simp only [perform, choose, known, if_true, Prod.map, chosen?, Option.some.injEq] at chosen
      exact chosen ▸ known
    · simp [perform, choose, known, chosen?] at chosen
  | _ => simp [chosen?] at chosen

theorem known_of_transcript {p : Pool σ} {steps : List Step} {name : String}
    (chosen : name ∈ (p.transcript steps).filterMap chosen?) : p.settings.connections.contains name = true := by
  induction steps generalizing p with
  | nil => simp [transcript] at chosen
  | cons step rest ih =>
    rw [transcript, List.mem_filterMap] at chosen
    obtain ⟨e, member, chooses⟩ := chosen
    rcases List.mem_cons.mp member with rfl | later
    · exact known_of_chosen chooses
    · rw [← (p.kept_perform step).1]
      exact ih (List.mem_filterMap.mpr ⟨e, later, chooses⟩)

theorem known_lastChoice {settings : Settings} {p : Pool σ} (same : p.settings = settings)
    (defined : settings.connections.contains settings.default = true) (steps : List Step) :
    settings.connections.contains (lastChoice settings (p.transcript steps)) = true := by
  rw [lastChoice]
  cases last : ((p.transcript steps).filterMap chosen?).getLast? with
  | none => exact defined
  | some name =>
    rw [← same]
    exact known_of_transcript (List.mem_of_getLast? last)

/-- A connection of the settings is handed out, unless the opener fails. -/
theorem connection_of_known {p : Pool σ} {name : String} {profile : Profile}
    (known : p.settings.connections.get? name = some profile) :
    (∃ h, (p.connection name).1 = .ok h ∧ h.name = name) ∨
      ∃ e, (p.connection name).1 = .error e ∧ p.opener p.calls name profile = .error e := by
  rw [connection]
  cases p.served.get? name with
  | some number => exact .inl ⟨⟨name, number⟩, rfl, rfl⟩
  | none =>
    simp only [reconnect, Settings.connection_eq_ok.mpr known]
    cases p.opener p.calls name profile with
    | error e => exact .inr ⟨e, rfl, rfl⟩
    | ok store => exact .inl ⟨_, rfl, rfl⟩

/-- With settings that hold, whatever was asked of a pool, and whatever of it failed: the current connection is the
last one that was chosen, or else the default. It is one of the settings, with a driver and a database, and so is
the default; asking for either hands out a connection of that name, or ends with what the opener complains
of, and never with a complaint about the name. -/
theorem current_known {settings : Settings} (valid : settings.validate = .ok ()) (opener : Opener σ)
    (steps : List Step) :
    let start : Pool σ := { settings, opener }
    let p := start.performAll steps
    let name := lastChoice settings (start.transcript steps)
    p.currentConnection = p.connection name ∧ p.defaultConnection = p.connection settings.default ∧
      ∀ n, n = name ∨ n = settings.default → ∃ profile, settings.connections.get? n = some profile ∧
        Text.isBlankText profile.driver.toList = false ∧ Text.isBlankText profile.database.toList = false ∧
        ((∃ h, (p.connection n).1 = .ok h ∧ h.name = n) ∨
          ∃ e, (p.connection n).1 = .error e ∧ opener p.calls n profile = .error e) := by
  intro start p name
  have settings_eq : p.settings = settings := (start.kept_performAll steps).1
  have opener_eq : p.opener = opener := (start.kept_performAll steps).2
  obtain ⟨⟨profile, defined⟩, named⟩ := Settings.of_validate valid
  have default_known : settings.connections.contains settings.default = true := by
    simp [Dictionary.contains, defined]
  have current : p.currentName = name := by
    rw [currentName, settings_eq, start.current_performAll steps, Option.or_none]
    rfl
  refine ⟨by rw [currentConnection, current], by rw [defaultConnection, settings_eq], ?_⟩
  intro n which
  have known : settings.connections.contains n = true := by
    rcases which with rfl | rfl
    · exact known_lastChoice rfl default_known steps
    · exact default_known
  obtain ⟨profile, found⟩ := Option.isSome_iff_exists.mp known
  obtain ⟨driver, database⟩ := named n profile found
  refine ⟨profile, found, driver, database, ?_⟩
  rw [← settings_eq] at found
  rw [← opener_eq]
  exact connection_of_known found

/-- A choice that is refused behind one that is not, and an opener that fails for the chosen connection. -/
theorem current_known_failing :
    let main : Profile := { database := "main.db" }
    let reports : Profile := { driver := "mysql", database := "reports" }
    let settings : Settings := { default := "main", connections := ⟨[("main", main), ("reports", reports)], by decide⟩ }
    let refused : Failure := .connection (.note "no server")
    let opener : Opener Nat := fun call name _ => if name = "main" then .ok call else .error refused
    let p := ({ settings, opener } : Pool Nat).performAll
      [.currentConnection, .choose "reports", .choose "nowhere", .reconnect "reports"]
    settings.validate = .ok () ∧ p.currentName = "reports" ∧ p.currentConnection.1 = .error refused ∧
      p.defaultConnection.1 = .ok ⟨"main", 0⟩ ∧ ∃ profile, settings.connections.get? "reports" = some profile ∧
        opener p.calls "reports" profile = .error refused := by
  intro main reports settings refused opener p
  have valid : settings.validate = .ok () := by
    unfold settings main reports
    decide
  obtain ⟨current, _, known⟩ := current_known valid opener
    [.currentConnection, .choose "reports", .choose "nowhere", .reconnect "reports"]
  obtain ⟨profile, found, _, _, ⟨h, handed, _⟩ | ⟨e, failed, complains⟩⟩ := known "reports" (.inl rfl)
  · cases handed
  · cases failed
    exact ⟨valid, rfl, rfl, rfl, profile, found, complains⟩

end Pool
end SqlDraft
