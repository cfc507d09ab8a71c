import SqlDraft.Backend.Traced

/-!
# Scripts

The calls that running a statement asks of a backend form a script: prepare, one bind per value,
execute, and the read. Whatever the backend answers, the calls made are the script up to and including
the first that fails, and that failure is what the run ends with (`calls_run`).
-/

namespace SqlDraft

/-! ## Calls in order -/

/-- The calls made for a script and what was reported of the one that failed, if one did: the script is
followed in order and given up at the first failure. -/
inductive Ran : List Request → List Traced.Entry → Option BackendError → Prop
  | done : Ran [] [] none
  | stopped (request : Request) (rest : List Request) (e : BackendError) :
    Ran (request :: rest) [⟨request, some e⟩] (some e)
  | step (request : Request) {rest : List Request} {entries : List Traced.Entry} {failure : Option BackendError}
    (ran : Ran rest entries failure) : Ran (request :: rest) (⟨request, none⟩ :: entries) failure

namespace Ran

variable {script behind : List Request} {entries others : List Traced.Entry} {failure : Option BackendError}

/-- One call that is a script of its own. -/
theorem single (request : Request) (failure : Option BackendError) :
    Ran [request] [⟨request, failure⟩] failure := by
  cases failure with
  | none => exact step request done
  | some e => exact stopped request [] e

/-- Where nothing failed, the next script follows. -/
theorem append (ran : Ran script entries none) (next : Ran behind others failure) :
    Ran (script ++ behind) (entries ++ others) failure := by
  -- A variable in the place of `none`, so that the induction can rule the failed run out.
  generalize finished : (none : Option BackendError) = outcome at ran
  induction ran with
  | done => exact next
  | stopped request rest e => cases finished
  | step request _ ih => exact step request (ih finished)

/-- What comes behind a failure is not called. -/
theorem append_failed {e : BackendError} (ran : Ran script entries (some e)) (behind : List Request) :
    Ran (script ++ behind) entries (some e) := by
  generalize failed : some e = outcome at ran ⊢
  induction ran with
  | done => cases failed
  | stopped request rest e' => exact stopped request (rest ++ behind) e'
  | step request _ ih => exact step request (ih failed)

/-- No call is made that the script does not ask for, and none out of turn. -/
theorem requests_prefix (ran : Ran script entries failure) : entries.map (·.request) <+: script := by
  induction ran with
  | done => exact List.prefix_refl []
  | stopped request rest e => exact ⟨rest, rfl⟩
  | step request _ ih => exact (List.prefix_cons_inj request).mpr ih

/-- Without a failure the whole script was followed. -/
theorem requests_of_none (ran : Ran script entries none) : entries.map (·.request) = script := by
  generalize finished : (none : Option BackendError) = outcome at ran
  induction ran with
  | done => rfl
  | stopped request rest e => cases finished
  | step request _ ih => rw [List.map_cons, ih finished]

end Ran

/-! ## Calls that follow a script -/

/-- From whatever state, a call makes the calls of a script and ends with the failure that stopped it. -/
def Call.Follows {σ α : Type} (call : Call (Traced σ) α) (script : List Request) : Prop :=
  ∀ t, ∃ ran, (call t).2.calls = t.calls ++ ran ∧ Ran script ran (failureOf? (call t).1)

namespace Call

variable {σ α β : Type}

theorem follows_pure (a : α) : (pure a : Call (Traced σ) α).Follows [] := by
  intro t
  exact ⟨[], (List.append_nil t.calls).symm, .done⟩

theorem follows_reading (f : Traced σ → α) : (Call.reading f).Follows [] := by
  intro t
  exact ⟨[], (List.append_nil t.calls).symm, .done⟩

theorem follows_traced (request : Request) (call : Call σ α) : (call.traced request).Follows [request] := by
  intro t
  exact ⟨[⟨request, failureOf? (call t.store).1⟩], rfl, .single request _⟩

/-- One call after another, at a state. -/
theorem bind_apply {ε : Type} (call : ExceptT ε (StateM σ) α) (f : α → ExceptT ε (StateM σ) β) (s : σ) :
    (call >>= f) s =
      match call s with
      | (.ok a, s') => f a s'
      | (.error e, s') => (.error e, s') := by
  change (match call s with
    | (r, s') => (ExceptT.bindCont f r : StateM σ (Except ε β)) s') = _
  rcases call s with ⟨outcome, s'⟩
  cases outcome with
  | ok a => rfl
  | error e => rfl

theorem bind_of_ok {ε : Type} {call : ExceptT ε (StateM σ) α} {f : α → ExceptT ε (StateM σ) β} {s s' : σ} {a : α}
    (ok : call s = (.ok a, s')) : (call >>= f) s = f a s' := by
  rw [bind_apply, ok]

/-- Two calls that succeed one after the other each succeed. -/
theorem ok_of_bind {ε : Type} {call : ExceptT ε (StateM σ) α} {f : α → ExceptT ε (StateM σ) β} {s s' : σ} {b : β}
    (ok : (call >>= f) s = (.ok b, s')) : ∃ a between, call s = (.ok a, between) ∧ f a between = (.ok b, s') := by
  rw [bind_apply] at ok
  rcases first : call s with ⟨outcome, between⟩
  rw [first] at ok
  cases outcome with
  | error e => cases ok
  | ok a => exact ⟨a, between, rfl, ok⟩

/-- What was caught, at a state: the one in which the failing computation left it. -/
theorem tryCatch_apply {ε : Type} (call : ExceptT ε (StateM σ) α) (handle : ε → ExceptT ε (StateM σ) α) (s : σ) :
    (tryCatch call handle : ExceptT ε (StateM σ) α) s =
      match call s with
      | (.ok a, s') => (.ok a, s')
      | (.error e, s') => handle e s' := by
  simp only [tryCatch, tryCatchThe, MonadExceptOf.tryCatch, ExceptT.tryCatch, ExceptT.mk, bind, StateT.bind]
  rcases call s with ⟨outcome, s'⟩
  cases outcome with
  | ok a => rfl
  | error e => rfl

theorem Follows.bind {call : Call (Traced σ) α} {f : α → Call (Traced σ) β} {script behind : List Request}
    (head : call.Follows script) (next : ∀ a, (f a).Follows behind) :
    (call >>= f).Follows (script ++ behind) := by
  intro t
  obtain ⟨ran, calls, follows⟩ := head t
  rw [bind_apply]
  rcases result : call t with ⟨outcome, t'⟩
  rw [result] at calls follows
  cases outcome with
  | error e => exact ⟨ran, calls, follows.append_failed behind⟩
  | ok a =>
    obtain ⟨others, callsNext, followsNext⟩ := next a t'
    refine ⟨ran ++ others, ?_, follows.append followsNext⟩
    rw [callsNext, calls, List.append_assoc]

end Call

/-! ## The script of a statement -/

/-- One bind per value, at consecutive positions and with the value's own hint. -/
def bindRequests : (position : Nat) → List Value → List Request
  | _, [] => []
  | position, v :: rest => .bind position v v.typeHint :: bindRequests (position + 1) rest

/-- What running a statement asks of a backend, up to and including a read. -/
def Statement.requests (st : Statement) (read : List Request) : List Request :=
  .prepare st.sql :: (bindRequests 1 st.params ++ .execute :: read)

variable {σ α β : Type}

/-- The calls of a statement before a read. -/
def Backend.start (b : Backend σ) (st : Statement) : Call σ Unit := do
  b.prepare st.sql
  b.bindAll 1 st.params
  b.execute

theorem Backend.follows_bindAll (b : Backend σ) (position : Nat) (values : List Value) :
    (b.traced.bindAll position values).Follows (bindRequests position values) := by
  induction values generalizing position with
  | nil => exact Call.follows_pure ()
  | cons v rest ih =>
    have one : (b.traced.bind position v v.typeHint).Follows [.bind position v v.typeHint] :=
      Call.follows_traced _ _
    exact one.bind fun _ => ih (position + 1)

/-- The text that a request prepares. -/
def Request.prepared? : Request → Option String
  | .prepare sql => some sql
  | _ => none

/-- The value that a request binds. -/
def Request.bound? : Request → Option Value
  | .bind _ v _ => some v
  | _ => none

theorem bound_bindRequests (position : Nat) (values : List Value) :
    (bindRequests position values).filterMap Request.bound? = values := by
  induction values generalizing position with
  | nil => rfl
  | cons v rest ih => exact congrArg (v :: ·) (ih (position + 1))

theorem prepared_bindRequests (position : Nat) (values : List Value) :
    (bindRequests position values).filterMap Request.prepared? = [] := by
  induction values generalizing position with
  | nil => rfl
  | cons v rest ih => exact ih (position + 1)

/-- A request that neither makes a statement nor binds a value to it. -/
def Request.Reads (r : Request) : Prop := r.prepared? = none ∧ r.bound? = none

theorem Statement.prepared_requests (st : Statement) {read : List Request} (reads : ∀ r ∈ read, r.Reads) :
    (st.requests read).filterMap Request.prepared? = [st.sql] := by
  have quiet : (Request.execute :: read).filterMap Request.prepared? = [] :=
    List.filterMap_eq_nil_iff.mpr (List.forall_mem_cons.mpr ⟨rfl, fun r member => (reads r member).1⟩)
  have behind : (bindRequests 1 st.params ++ .execute :: read).filterMap Request.prepared? = [] := by
    rw [List.filterMap_append, prepared_bindRequests, quiet, List.append_nil]
  exact congrArg (st.sql :: ·) behind

theorem Statement.bound_requests (st : Statement) {read : List Request} (reads : ∀ r ∈ read, r.Reads) :
    (st.requests read).filterMap Request.bound? = st.params := by
  have quiet : (Request.execute :: read).filterMap Request.bound? = [] :=
    List.filterMap_eq_nil_iff.mpr (List.forall_mem_cons.mpr ⟨rfl, fun r member => (reads r member).2⟩)
  have behind : (bindRequests 1 st.params ++ .execute :: read).filterMap Request.bound? = st.params := by
    rw [List.filterMap_append, bound_bindRequests, quiet, List.append_nil]
  exact behind

/-- The texts that calls prepared. -/
def preparedBy (calls : List Traced.Entry) : List String := (calls.map (·.request)).filterMap Request.prepared?

/-- The values that calls bound. -/
def boundBy (calls : List Traced.Entry) : List Value := (calls.map (·.request)).filterMap Request.bound?

theorem preparedBy_append (calls others : List Traced.Entry) :
    preparedBy (calls ++ others) = preparedBy calls ++ preparedBy others := by
  rw [preparedBy, List.map_append, List.filterMap_append]
  rfl

/-- The calls of a statement: in order, up to the one that failed if one did; one text was prepared, and
no value was bound that is not the statement's. -/
structure Statement.Sent (st : Statement) (read : List Request) (ran : List Traced.Entry)
    (failure : Option BackendError) : Prop where
  inOrder : Ran (st.requests read) ran failure
  prepared : preparedBy ran = [st.sql]
  bound : boundBy ran <+: st.params
  boundAll : failure = none → boundBy ran = st.params

theorem Ran.sent {st : Statement} {read : List Request} {ran : List Traced.Entry}
    {failure : Option BackendError} (inOrder : Ran (st.requests read) ran failure)
    (reads : ∀ r ∈ read, r.Reads) : st.Sent read ran failure := by
  have made := inOrder.requests_prefix
  refine ⟨inOrder, ?_, ?_, ?_⟩
  · have prepared : preparedBy ran <+: [st.sql] := by
      rw [← st.prepared_requests reads]
      exact made.filterMap _
    have first : ∃ rest, preparedBy ran = st.sql :: rest := by
      cases inOrder with
      | stopped => exact ⟨_, rfl⟩
      | step => exact ⟨_, rfl⟩
    obtain ⟨rest, first⟩ := first
    rw [first] at prepared ⊢
    rw [List.prefix_nil.mp ((List.prefix_cons_inj st.sql).mp prepared)]
  · rw [← st.bound_requests reads]
    exact made.filterMap _
  · intro finished
    subst finished
    rw [← st.bound_requests reads, boundBy, inOrder.requests_of_none]

/-! ## Actions and their calls -/

namespace Action

/-- An action gives a state that is not lent back with some calls added, and what it ends with and these
calls are related. -/
def Calls (action : Action (Traced σ) α) (R : Except Failure α → List Traced.Entry → Prop) : Prop :=
  ∀ t, ∃ outcome t' made, action (some t) = (outcome, some t') ∧ t'.calls = t.calls ++ made ∧ R outcome made

theorem Calls.mono {action : Action (Traced σ) α} {R Q : Except Failure α → List Traced.Entry → Prop}
    (calls : action.Calls R) (weaker : ∀ outcome made, R outcome made → Q outcome made) : action.Calls Q := by
  intro t
  obtain ⟨outcome, t', made, result, added, related⟩ := calls t
  exact ⟨outcome, t', made, result, added, weaker outcome made related⟩

theorem calls_ofExcept {R : Except Failure α → List Traced.Entry → Prop} (r : Except Failure α)
    (related : R r []) : (ofExcept r : Action (Traced σ) α).Calls R := by
  intro t
  refine ⟨r, t, [], ?_, (List.append_nil t.calls).symm, related⟩
  cases r with
  | ok a => rfl
  | error e => rfl

/-- One action after another makes the calls of the first and, unless that failed, those of the second. -/
theorem Calls.bind {action : Action (Traced σ) α} {f : α → Action (Traced σ) β}
    {R : Except Failure α → List Traced.Entry → Prop} {Q : Except Failure β → List Traced.Entry → Prop}
    (head : action.Calls R) (failed : ∀ e made, R (.error e) made → Q (.error e) made)
    (next : ∀ a made, R (.ok a) made → (f a).Calls fun outcome others => Q outcome (made ++ others)) :
    (action >>= f).Calls Q := by
  intro t
  obtain ⟨outcome, t', made, result, added, related⟩ := head t
  rw [Call.bind_apply, result]
  cases outcome with
  | error e => exact ⟨.error e, t', made, rfl, added, failed e made related⟩
  | ok a =>
    obtain ⟨outcome, t'', others, resultNext, addedNext, relatedNext⟩ := next a made related t'
    refine ⟨outcome, t'', made ++ others, resultNext, ?_, relatedNext⟩
    rw [addedNext, added, List.append_assoc]

end Action

namespace Session

theorem lend_some (s : Session σ) (wrap : BackendError → Failure) (call : Call σ α) (store : σ) :
    s.lend wrap call (some store) = ((call store).1.mapError wrap, some (call store).2) := by
  rw [lend, Call.bind_apply, attempt]
  rcases call store with ⟨outcome, store'⟩
  cases outcome with
  | ok a => rfl
  | error e => rfl

theorem lend_none (s : Session σ) (wrap : BackendError → Failure) (call : Call σ α) :
    s.lend wrap call none = (.error (.connection (.busy s.name)), none) := rfl

/-- Running a statement makes the calls of its script; a call's failure is reported together with the
statement as its text would be with the values written into it, and otherwise the run ends with what was
read behind the other calls, in the state that the read left behind. -/
theorem run_some (s : Session σ) (st : Statement) {read : Call (Traced σ) α} {script : List Request}
    (reads : read.Follows script) (t : Traced σ) :
    ∃ (result : Except BackendError α) (t' : Traced σ) (ran : List Traced.Entry),
      s.traced.run st read (some t) = (result.mapError (.query st.interpolated), some t') ∧
        t'.calls = t.calls ++ ran ∧ Ran (st.requests script) ran (failureOf? result) ∧
        ∀ a, result = .ok a →
          ∃ before, s.traced.backend.start st t = (.ok (), before) ∧ read before = (.ok a, t') := by
  have prepares : (s.traced.backend.prepare st.sql).Follows [.prepare st.sql] := Call.follows_traced _ _
  have executes : s.traced.backend.execute.Follows [.execute] := Call.follows_traced _ _
  have follows := prepares.bind fun _ =>
    (s.backend.follows_bindAll 1 st.params).bind fun _ => executes.bind fun _ => reads
  obtain ⟨ran, calls, made⟩ := follows t
  refine ⟨_, _, ran, lend_some s.traced _ _ t, calls, made, ?_⟩
  intro a ok
  obtain ⟨_, _, prepared, behindPrepare⟩ := Call.ok_of_bind (Prod.ext ok rfl)
  obtain ⟨_, _, bound, behindBinds⟩ := Call.ok_of_bind behindPrepare
  obtain ⟨_, before, executed, readOk⟩ := Call.ok_of_bind behindBinds
  refine ⟨before, ?_, readOk⟩
  rw [Backend.start, Call.bind_of_ok prepared, Call.bind_of_ok bound, executed]

theorem calls_run (s : Session σ) (st : Statement) {read : Call (Traced σ) α} {script : List Request}
    (reads : read.Follows script) :
    (s.traced.run st read).Calls fun outcome ran => ∃ result : Except BackendError α,
      outcome = result.mapError (.query st.interpolated) ∧ Ran (st.requests script) ran (failureOf? result) := by
  intro t
  obtain ⟨result, t', ran, run, calls, made, _⟩ := s.run_some st reads t
  exact ⟨_, t', ran, run, calls, result, rfl, made⟩

end Session
end SqlDraft
