import SqlDraft.Backend.Scripted
import SqlDraft.Proofs.Session.Mirror

/-!
# Transactions and locks

The protocol of beginning and ending transactions on one connection, for runs of any length in which every
call may fail. What one step asks of the backend, down to the texts that are run, and what it ends with is fixed
by the calls that failed (`calls_perform`); a run is its steps one after the other (`protocol_kept`), and so the
end of a transaction leaves no lock behind unless the release itself failed.
-/

namespace SqlDraft

variable {σ α : Type}

/-- A step of the protocol. -/
inductive Session.Step
  | begin (tables : List String)
  | commit
  | rollback
  | lock (tables : List String)
  | unlock
  deriving DecidableEq

namespace Session

def perform (s : Session σ) : Step → Action σ Unit
  | .begin tables => s.begin tables
  | .commit => s.commit
  | .rollback => s.rollback
  | .lock tables => s.lockTables tables
  | .unlock => s.unlockTables

/-- Performs steps one after the other, also behind one that failed. -/
def performAll (s : Session σ) : List Step → Option σ → List (Except Failure Unit) × Option σ
  | [], slot => ([], slot)
  | step :: rest, slot =>
    let (outcome, slot) := s.perform step slot
    let (outcomes, slot) := s.performAll rest slot
    (outcome :: outcomes, slot)

theorem performAll_cons (s : Session σ) (rest : List Step) {step : Step} {slot slot' : Option σ}
    {outcome : Except Failure Unit} (result : s.perform step slot = (outcome, slot')) :
    s.performAll (step :: rest) slot = (outcome :: (s.performAll rest slot').1, (s.performAll rest slot').2) := by
  rw [performAll, result]

end Session

/-! ## What a step does -/

/-- What is reported of a text that was run, by the failure of its call. -/
def reported (sql : String) : Option BackendError → Except Failure Unit
  | some e => .error (.query sql e)
  | none => .ok ()

/-- What is reported of the end of a transaction: the failure of the call that ends it, or else that of the
release. -/
def endReport (sql : String) : (ending release : Option BackendError) → Except Failure Unit
  | some e, _ => .error (.query sql e)
  | none, some e => .error (.query "UNLOCK TABLES" e)
  | none, none => .ok ()

section
variable (locks : Bool)

/-- A text about locks is run where tables can be locked, and nothing is done elsewhere. -/
def RunsLocking (sql : String) (outcome : Except Failure Unit) (calls : List Traced.Entry) : Prop :=
  if locks then ∃ failure, calls = [⟨.execRaw sql, failure⟩] ∧ outcome = reported sql failure
  else calls = [] ∧ outcome = .ok ()

/-- Where tables can be locked, those of a transaction are locked by the call before the one that begins it: its
text names each of them in order, for writing. The transaction is not begun without its locks. -/
def Begins (tables : List String) (outcome : Except Failure Unit) (calls : List Traced.Entry) : Prop :=
  if locks = true ∧ tables ≠ [] then
    ∃ text, text = "LOCK TABLES " ++ String.intercalate ", " (tables.map fun table => table ++ " WRITE") ∧
      ((∃ e, calls = [⟨.execRaw text, some e⟩] ∧ outcome = .error (.query text e)) ∨
        ∃ failure, calls = [⟨.execRaw text, none⟩, ⟨.begin, failure⟩] ∧ outcome = reported "BEGIN" failure)
  else ∃ failure, calls = [⟨.begin, failure⟩] ∧ outcome = reported "BEGIN" failure

/-- Where tables can be locked, the call that ends a transaction is followed by one release, whether it
failed or not. -/
def Ends (request : Request) (sql : String) (outcome : Except Failure Unit) (calls : List Traced.Entry) : Prop :=
  if locks then
    ∃ ending release, calls = [⟨request, ending⟩, ⟨.execRaw "UNLOCK TABLES", release⟩] ∧
      outcome = endReport sql ending release
  else ∃ ending, calls = [⟨request, ending⟩] ∧ outcome = reported sql ending

/-- How a step of the protocol goes: its calls, and what it ends with. -/
def Session.Step.Goes : Session.Step → Except Failure Unit → List Traced.Entry → Prop
  | .begin tables => Begins locks tables
  | .commit => Ends locks .commit "COMMIT"
  | .rollback => Ends locks .rollback "ROLLBACK"
  | .lock tables => fun outcome calls =>
    if tables = [] then calls = [] ∧ outcome = .error (.usage .noTableToLock)
    else
      let text := "LOCK TABLES " ++ String.intercalate ", " (tables.map fun table => table ++ " WRITE")
      RunsLocking locks text outcome calls
  | .unlock => RunsLocking locks "UNLOCK TABLES"

end

namespace Action

/-- A call that is tried without minding how it ends. -/
theorem Calls.ignoring {action : Action (Traced σ) Unit} {R : Except Failure Unit → List Traced.Entry → Prop}
    (calls : action.Calls R) :
    (tryCatch action fun _ => pure ()).Calls fun outcome made => outcome = .ok () ∧ ∃ end', R end' made := by
  intro t
  obtain ⟨outcome, t', made, result, added, related⟩ := calls t
  refine ⟨.ok (), t', made, ?_, added, rfl, outcome, related⟩
  rw [Call.tryCatch_apply, result]
  cases outcome with
  | ok a => rfl
  | error e => rfl

end Action

namespace Session

theorem calls_attempt (s : Session σ) (request : Request) (call : Call σ α) :
    (s.traced.attempt (call.traced request)).Calls fun outcome made => ∃ result : Except BackendError α,
      outcome = .ok result ∧ made = [⟨request, failureOf? result⟩] := by
  intro t
  exact ⟨_, _, [_], rfl, rfl, _, rfl, rfl⟩

theorem calls_lend (s : Session σ) (wrap : BackendError → Failure) (request : Request) (call : Call σ α) :
    (s.traced.lend wrap (call.traced request)).Calls fun outcome made => ∃ result : Except BackendError α,
      outcome = result.mapError wrap ∧ made = [⟨request, failureOf? result⟩] := by
  intro t
  exact ⟨_, _, [_], s.traced.lend_some wrap _ t, rfl, _, rfl, rfl⟩

theorem calls_begins (s : Session σ) :
    (s.traced.lend (.query "BEGIN") s.traced.backend.begin).Calls fun outcome made =>
      ∃ failure, made = [⟨.begin, failure⟩] ∧ outcome = reported "BEGIN" failure := by
  refine (s.calls_lend (.query "BEGIN") .begin s.backend.begin).mono ?_
  rintro outcome made ⟨result, rfl, rfl⟩
  cases result with
  | ok a => exact ⟨none, rfl, rfl⟩
  | error e => exact ⟨some e, rfl, rfl⟩

section
variable (s : Session σ) {locks : Bool} (support : ∀ store, s.backend.locksTables store = locks)
include support

theorem calls_locksTables :
    s.traced.locksTables.Calls fun outcome made => outcome = .ok locks ∧ made = [] := by
  intro t
  refine ⟨_, t, [], rfl, (List.append_nil t.calls).symm, ?_, rfl⟩
  exact congrArg Except.ok (support t.store)

theorem calls_locking (sql : String) :
    (s.traced.locksTables >>= fun locks => if locks then s.traced.execRaw sql >>= fun _ => pure () else pure ()).Calls
      (RunsLocking locks sql) := by
  refine (s.calls_locksTables support).bind ?_ ?_
  · rintro e made ⟨same, _⟩
    cases same
  · rintro supported made ⟨same, rfl⟩
    cases same
    cases locks with
    | false => exact Action.calls_ofExcept (.ok ()) ⟨rfl, rfl⟩
    | true =>
      refine (s.calls_lend (.query sql) (.execRaw sql) (s.backend.execRaw sql)).bind ?_ ?_
      · rintro e made ⟨result, reports, rfl⟩
        cases result with
        | ok rows => cases reports
        | error e' =>
          cases reports
          exact ⟨some e', rfl, rfl⟩
      · rintro rows made ⟨result, reports, rfl⟩
        cases result with
        | ok rows' => exact Action.calls_ofExcept (.ok ()) ⟨none, rfl, rfl⟩
        | error e' => cases reports

theorem calls_unlockTables : s.traced.unlockTables.Calls (RunsLocking locks "UNLOCK TABLES") :=
  s.calls_locking support unlockSql

theorem calls_lockTables {tables : List String} (some_table : tables ≠ []) :
    (s.traced.lockTables tables).Calls
      (RunsLocking locks ("LOCK TABLES " ++ String.intercalate ", " (tables.map fun table => table ++ " WRITE"))) := by
  cases tables with
  | nil => exact absurd rfl some_table
  | cons table rest => exact s.calls_locking support (lockSql (table :: rest))

theorem calls_begin (tables : List String) : (s.traced.begin tables).Calls (Begins locks tables) := by
  cases tables with
  | nil =>
    refine s.calls_begins.mono ?_
    intro outcome made begun
    rw [Begins, if_neg fun both => both.2 rfl]
    exact begun
  | cons table rest =>
    have locked := s.calls_lockTables support (List.cons_ne_nil table rest)
    refine locked.bind ?_ ?_
    · rintro e made runs
      cases locks with
      | false => cases runs.2
      | true =>
        obtain ⟨failure, rfl, reports⟩ := runs
        cases failure with
        | none => cases reports
        | some e' =>
          cases reports
          exact ⟨_, rfl, .inl ⟨e', rfl, rfl⟩⟩
    · rintro _ made runs
      refine s.calls_begins.mono ?_
      rintro outcome others ⟨failure, rfl, rfl⟩
      cases locks with
      | false =>
        obtain ⟨rfl, _⟩ := runs
        exact ⟨failure, rfl, rfl⟩
      | true =>
        obtain ⟨locking, rfl, reports⟩ := runs
        cases locking with
        | none => exact ⟨_, rfl, .inr ⟨failure, rfl, rfl⟩⟩
        | some e' => cases reports

theorem calls_finish (request : Request) (sql : String) (call : Call σ Unit) :
    (s.traced.finish sql (call.traced request)).Calls (Ends locks request sql) := by
  refine (s.calls_attempt request call).bind ?_ ?_
  · rintro e made ⟨result, same, _⟩
    cases same
  · rintro result made ⟨result', same, rfl⟩
    cases same
    cases result with
    | ok a =>
      refine (s.calls_unlockTables support).mono ?_
      intro outcome others runs
      cases locks with
      | false =>
        obtain ⟨rfl, rfl⟩ := runs
        exact ⟨none, rfl, rfl⟩
      | true =>
        obtain ⟨release, rfl, rfl⟩ := runs
        refine ⟨none, release, rfl, ?_⟩
        cases release with
        | none => rfl
        | some e => rfl
    | error e =>
      -- The release is tried, and whatever it ends with, the failure of the call is reported.
      refine (s.calls_unlockTables support).ignoring.bind ?_ ?_
      · rintro e' made ⟨same, _⟩
        cases same
      · rintro _ made ⟨_, outcome, runs⟩
        refine Action.calls_ofExcept (.error (.query sql e)) ?_
        cases locks with
        | false =>
          obtain ⟨rfl, _⟩ := runs
          exact ⟨some e, rfl, rfl⟩
        | true =>
          obtain ⟨release, rfl, _⟩ := runs
          exact ⟨some e, release, rfl, rfl⟩

theorem calls_perform (step : Step) : (s.traced.perform step).Calls (step.Goes locks) := by
  cases step with
  | begin tables => exact s.calls_begin support tables
  | commit => exact s.calls_finish support .commit "COMMIT" s.backend.commit
  | rollback => exact s.calls_finish support .rollback "ROLLBACK" s.backend.rollback
  | unlock => exact s.calls_unlockTables support
  | lock tables =>
    cases tables with
    | nil => exact Action.calls_ofExcept (.error (.usage .noTableToLock)) ⟨rfl, rfl⟩
    | cons table rest => exact s.calls_lockTables support (List.cons_ne_nil table rest)

end

/-! ## Steps without an account -/

variable (s : Session σ)

theorem mirrored_locking (sql : String) :
    Mirrored Traced.slot
      (s.traced.locksTables >>= fun locks => if locks then s.traced.execRaw sql >>= fun _ => pure () else pure ())
      (s.locksTables >>= fun locks => if locks then s.execRaw sql >>= fun _ => pure () else pure ()) := by
  have asks : Mirrored Traced.slot s.traced.locksTables s.locksTables := by
    have reads : Mirrored Traced.store (Call.reading s.traced.backend.locksTables) (Call.reading s.backend.locksTables) := by
      intro t
      rfl
    refine (s.mirrored_attempt reads).bind fun answer => ?_
    cases answer with
    | ok locks => exact mirrored_pure Traced.slot locks
    | error e => exact mirrored_pure Traced.slot false
  refine asks.bind fun locks => ?_
  cases locks with
  | false => exact mirrored_pure Traced.slot ()
  | true =>
    have runs := s.mirrored_lend (.query sql) (mirrored_traced (.execRaw sql) (s.backend.execRaw sql))
    exact runs.bind fun _ => mirrored_pure Traced.slot ()

theorem mirrored_lockTables (tables : List String) :
    Mirrored Traced.slot (s.traced.lockTables tables) (s.lockTables tables) := by
  cases tables with
  | nil => exact mirrored_ofExcept (.error (.usage .noTableToLock))
  | cons table rest => exact s.mirrored_locking (lockSql (table :: rest))

theorem mirrored_begin (tables : List String) : Mirrored Traced.slot (s.traced.begin tables) (s.begin tables) := by
  have begins := s.mirrored_lend (.query "BEGIN") (mirrored_traced .begin s.backend.begin)
  cases tables with
  | nil => exact begins
  | cons table rest => exact (s.mirrored_lockTables (table :: rest)).bind fun _ => begins

theorem mirrored_finish (request : Request) (sql : String) (call : Call σ Unit) :
    Mirrored Traced.slot (s.traced.finish sql (call.traced request)) (s.finish sql call) := by
  have releases : Mirrored Traced.slot s.traced.unlockTables s.unlockTables := s.mirrored_locking unlockSql
  refine (s.mirrored_attempt (mirrored_traced request call)).bind fun result => ?_
  cases result with
  | ok a => exact releases
  | error e =>
    have tried := releases.tryCatch fun _ => mirrored_pure Traced.slot ()
    exact tried.bind fun _ => mirrored_ofExcept (.error (.query sql e))

theorem mirrored_perform (step : Step) : Mirrored Traced.slot (s.traced.perform step) (s.perform step) := by
  cases step with
  | begin tables => exact s.mirrored_begin tables
  | commit => exact s.mirrored_finish .commit "COMMIT" s.backend.commit
  | rollback => exact s.mirrored_finish .rollback "ROLLBACK" s.backend.rollback
  | lock tables => exact s.mirrored_lockTables tables
  | unlock => exact s.mirrored_locking unlockSql

theorem performAll_slot (steps : List Step) (slot : Option (Traced σ)) :
    s.performAll steps (Traced.slot slot) =
      ((s.traced.performAll steps slot).1, Traced.slot (s.traced.performAll steps slot).2) := by
  induction steps generalizing slot with
  | nil => rfl
  | cons step rest ih =>
    have plain := s.mirrored_perform step slot
    rcases watched : s.traced.perform step slot with ⟨outcome, slot'⟩
    rw [watched] at plain
    rw [s.performAll_cons rest plain, s.traced.performAll_cons rest watched, ih]

end Session

/-! ## Runs -/

/-- A step that was performed: what it ended with, and the calls it made. -/
structure Performed where
  step : Session.Step
  outcome : Except Failure Unit
  calls : List Traced.Entry

/-- Tables may be locked after some calls: a lock was asked for, and no release behind it succeeded. A lock
that was refused counts as well, since a call that fails may have changed the store. -/
def MayBeLocked (calls : List Traced.Entry) : Prop :=
  ∃ before entry after, ∃ tables : List String, calls = before ++ entry :: after ∧
    entry.request = .execRaw ("LOCK TABLES " ++ String.intercalate ", " (tables.map fun table => table ++ " WRITE")) ∧
      ⟨.execRaw "UNLOCK TABLES", none⟩ ∉ after

theorem lock_ne_unlock (named : String) : "LOCK TABLES " ++ named ≠ "UNLOCK TABLES" := by
  intro same
  have heads := congrArg (fun sql : String => sql.toList.head?) same
  simp at heads

theorem not_mayBeLocked_release (calls : List Traced.Entry) :
    ¬ MayBeLocked (calls ++ [⟨.execRaw "UNLOCK TABLES", none⟩]) := by
  rintro ⟨before, entry, after, tables, split, asks, kept⟩
  have last := congrArg List.getLast? split
  rw [List.getLast?_append, List.getLast?_append] at last
  have inside : ⟨.execRaw "UNLOCK TABLES", none⟩ ∈ entry :: after := by
    refine List.mem_of_getLast? ?_
    simpa using last.symm
  rcases List.mem_cons.mp inside with same | later
  · rw [← same] at asks
    exact lock_ne_unlock _ (Request.execRaw.inj asks).symm
  · exact kept later

/-- Where a release succeeded at the end of a transaction, it was the last call of that end. -/
theorem Ends.released {locks : Bool} {request : Request} {sql : String} {outcome : Except Failure Unit}
    {calls : List Traced.Entry} (ends : Ends locks request sql outcome calls)
    (apart : request ≠ .execRaw "UNLOCK TABLES") (released : ⟨.execRaw "UNLOCK TABLES", none⟩ ∈ calls) :
    ∃ front, calls = front ++ [⟨.execRaw "UNLOCK TABLES", none⟩] := by
  cases locks with
  | false =>
    obtain ⟨ending, rfl, _⟩ := ends
    cases List.mem_singleton.mp released
    exact absurd rfl apart
  | true =>
    obtain ⟨ending, release, rfl, _⟩ := ends
    rcases List.mem_cons.mp released with same | later
    · cases same
      exact absurd rfl apart
    · cases List.mem_singleton.mp later
      exact ⟨[⟨request, ending⟩], rfl⟩

/-- Where no table can be locked, no step runs a text. -/
theorem Session.Step.Goes.quiet {step : Session.Step} {outcome : Except Failure Unit} {calls : List Traced.Entry}
    (goes : step.Goes false outcome calls) : ∀ entry ∈ calls, ∀ sql, entry.request ≠ .execRaw sql := by
  have none_of_nil (empty : calls = []) : ∀ entry ∈ calls, ∀ sql, entry.request ≠ .execRaw sql := by
    subst empty
    intro entry member
    cases member
  have none_of_single {request : Request} (single : ∃ failure, calls = [⟨request, failure⟩])
      (apart : ∀ sql, request ≠ .execRaw sql) : ∀ entry ∈ calls, ∀ sql, entry.request ≠ .execRaw sql := by
    obtain ⟨failure, rfl⟩ := single
    intro entry member
    cases List.mem_singleton.mp member
    exact apart
  cases step with
  | begin tables =>
    obtain ⟨failure, made, _⟩ := goes
    exact none_of_single ⟨failure, made⟩ fun _ => Request.noConfusion
  | commit =>
    obtain ⟨failure, made, _⟩ := goes
    exact none_of_single ⟨failure, made⟩ fun _ => Request.noConfusion
  | rollback =>
    obtain ⟨failure, made, _⟩ := goes
    exact none_of_single ⟨failure, made⟩ fun _ => Request.noConfusion
  | unlock => exact none_of_nil goes.1
  | lock tables =>
    rw [Goes] at goes
    split at goes
    · exact none_of_nil goes.1
    · exact none_of_nil goes.1

namespace Session

variable (s : Session σ) {locks : Bool}

theorem performAll_some (support : ∀ store, s.backend.locksTables store = locks) (steps : List Step)
    (t : Traced σ) :
    ∃ (done : List Performed) (t' : Traced σ),
      s.traced.performAll steps (some t) = (done.map (·.outcome), some t') ∧ done.map (·.step) = steps ∧
        t'.calls = t.calls ++ done.flatMap (·.calls) ∧ ∀ p ∈ done, p.step.Goes locks p.outcome p.calls := by
  induction steps generalizing t with
  | nil => exact ⟨[], t, rfl, rfl, (List.append_nil t.calls).symm, List.forall_mem_nil _⟩
  | cons step rest ih =>
    obtain ⟨outcome, next, made, result, added, goes⟩ := s.calls_perform support step t
    obtain ⟨done, t', run, steps, calls, all⟩ := ih next
    refine ⟨⟨step, outcome, made⟩ :: done, t', ?_, ?_, ?_, List.forall_mem_cons.mpr ⟨goes, all⟩⟩
    · rw [performAll_cons _ rest result, run]
      rfl
    · rw [List.map_cons, steps]
    · rw [calls, added, List.append_assoc, List.flatMap_cons]

/-- However the steps of transactions and locks follow on each other, and whichever calls fail, each step goes as
the protocol has it, and the calls of the run are those of its steps in order. After an end of a
transaction whose release succeeded no table is locked, whatever failed before. Where tables cannot be
locked, no text about locks is run. A run without an account ends alike. -/
theorem protocol_kept (support : ∀ store, s.backend.locksTables store = locks) (steps : List Step)
    (t : Traced σ) :
    ∃ (done : List Performed) (t' : Traced σ),
      s.traced.performAll steps (some t) = (done.map (·.outcome), some t') ∧
        s.performAll steps (some t.store) = (done.map (·.outcome), some t'.store) ∧
        done.map (·.step) = steps ∧ t'.calls = t.calls ++ done.flatMap (·.calls) ∧
        (∀ p ∈ done, p.step.Goes locks p.outcome p.calls) ∧
        (∀ before p after, done = before ++ p :: after → p.step = .commit ∨ p.step = .rollback →
          ⟨.execRaw "UNLOCK TABLES", none⟩ ∈ p.calls →
          ¬ MayBeLocked (t.calls ++ before.flatMap (·.calls) ++ p.calls)) ∧
        (locks = false → ∀ entry ∈ done.flatMap (·.calls), ∀ sql, entry.request ≠ .execRaw sql) := by
  obtain ⟨done, t', run, same, calls, all⟩ := s.performAll_some support steps t
  refine ⟨done, t', run, ?_, same, calls, all, ?_, ?_⟩
  · have plain := s.performAll_slot steps (some t)
    rw [run] at plain
    exact plain
  · intro before p after split ending released
    have goes := all p (split ▸ List.mem_append_right before List.mem_cons_self)
    have last : ∃ front, p.calls = front ++ [⟨.execRaw "UNLOCK TABLES", none⟩] := by
      rcases ending with commits | rollsBack
      · rw [commits] at goes
        exact goes.released Request.noConfusion released
      · rw [rollsBack] at goes
        exact goes.released Request.noConfusion released
    obtain ⟨front, shape⟩ := last
    rw [shape, ← List.append_assoc]
    exact not_mayBeLocked_release _
  · rintro rfl entry member
    obtain ⟨p, inside, within⟩ := List.mem_flatMap.mp member
    exact (all p inside).quiet entry within

/-- A transaction that locks its tables and is then not begun, and a rollback that fails: its release succeeds, and
the tables, which may have been locked before it, are not locked any more. -/
theorem protocol_kept_refused :
    let e : BackendError := { message := "refused" }
    let s : Session Scripted := ⟨"mock", { Scripted.backend "mock" with locksTables := fun _ => true }⟩
    let t : Traced Scripted := { store := { failures := [("begin", e), ("rollback", e)] } }
    let begun : List Traced.Entry := [⟨.execRaw "LOCK TABLES a WRITE, b WRITE", none⟩, ⟨.begin, some e⟩]
    (∀ store, s.backend.locksTables store = true) ∧ MayBeLocked begun ∧
      ∃ (done : List Performed) (t' : Traced Scripted),
        s.traced.performAll [.begin ["a", "b"], .rollback] (some t) = (done.map (·.outcome), some t') ∧
          t'.calls = begun ++ [⟨.rollback, some e⟩, ⟨.execRaw "UNLOCK TABLES", none⟩] ∧
          done.map (·.outcome) = [.error (.query "BEGIN" e), .error (.query "ROLLBACK" e)] ∧
          (∀ p ∈ done, p.step.Goes true p.outcome p.calls) ∧ ¬ MayBeLocked t'.calls := by
  intro e s t begun
  obtain ⟨done, t', run, _, _, _, all, _⟩ :=
    s.protocol_kept (fun _ => rfl) [.begin ["a", "b"], .rollback] t
  have outcomes := congrArg Prod.fst run
  have slots := congrArg Prod.snd run
  have made : t'.calls = begun ++ [⟨.rollback, some e⟩, ⟨.execRaw "UNLOCK TABLES", none⟩] :=
    (Option.some.inj (congrArg (Option.map Traced.calls) slots)).symm
  refine ⟨fun _ => rfl, ?_, done, t', run, made, outcomes.symm, all, ?_⟩
  · exact ⟨[], _, [⟨.begin, some e⟩], ["a", "b"], rfl, by decide, by decide⟩
  · rw [made]
    exact not_mayBeLocked_release (begun ++ [⟨.rollback, some e⟩])

end Session
end SqlDraft
