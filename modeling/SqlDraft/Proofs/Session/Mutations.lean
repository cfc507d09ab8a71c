import SqlDraft.Backend.Scripted
import SqlDraft.Proofs.Session.Terminals

/-!
# Changing a table

What an insert, an update and a deletion do at the backend, from a state to the next, when every call may
fail. A statement that is reported as refused was not executed, and one that is reported as done was
executed once, with one exception: an insert asks for the identifier of its row behind the execution, and
is reported as refused if that call fails (`mutations_whole_iff`).
-/

namespace SqlDraft

variable {σ α : Type}

/-! ## How a statement is executed -/

namespace Session

/-- A statement is executed, from a state to the next: the failure of a call is reported together with the
statement, and if there was none, the number of rows that the backend has changed. -/
def Executes (s : Session σ) (st : Statement) (t : Traced σ) (outcome : Except Failure Nat) (t' : Traced σ) :
    Prop :=
  ∃ ran failure, t'.calls = t.calls ++ ran ∧ st.Sent [] ran failure ∧
    outcome = match failure with
      | some e => .error (.query st.interpolated e)
      | none => .ok (s.backend.rowCount t'.store)

/-- A statement is executed, and if it was not refused, the backend is asked for the identifier of the row. -/
def Inserts (s : Session σ) (st : Statement) (t : Traced σ) (outcome : Except Failure Int64) (t' : Traced σ) :
    Prop :=
  ∃ executed between, s.Executes st t executed between ∧
    match executed with
    | .error e => outcome = .error e ∧ t' = between
    | .ok _ =>
      let answer := s.backend.lastInsertId between.store
      outcome = answer.1.mapError (fun e => .connection (.noIdentifier e)) ∧
        t' = { store := answer.2, calls := between.calls ++ [⟨.lastInsertId, failureOf? answer.1⟩] }

theorem execute_some (s : Session σ) (st : Statement) (t : Traced σ) :
    ∃ outcome t', s.traced.execute st (some t) = (outcome, some t') ∧ s.Executes st t outcome t' := by
  have follows := Call.follows_reading s.traced.backend.rowCount
  obtain ⟨result, t', ran, run, calls, inOrder, read⟩ := s.run_some st follows t
  refine ⟨_, t', run, ran, failureOf? result, calls, inOrder.sent (List.forall_mem_nil _), ?_⟩
  cases result with
  | error e => rfl
  | ok rows =>
    obtain ⟨before, _, counted⟩ := read rows rfl
    cases counted
    rfl

theorem insertion_some (s : Session σ) (st : Statement) (t : Traced σ) :
    ∃ outcome t', (s.traced.execute st >>= fun _ => s.traced.lastInsertId) (some t) = (outcome, some t') ∧
      s.Inserts st t outcome t' := by
  obtain ⟨executed, between, run, executes⟩ := s.execute_some st t
  rw [Call.bind_apply, run]
  cases executed with
  | error e => exact ⟨_, between, rfl, .error e, between, executes, rfl, rfl⟩
  | ok rows => exact ⟨_, _, s.traced.lend_some _ _ between, .ok rows, between, executes, rfl, rfl⟩

end Session

namespace Query

theorem execute_eq (s : Session σ) (d : Draft) :
    (traced s d).execute = Action.ofUsage d.build >>= fun st => s.traced.execute st := rfl

theorem insert_eq (s : Session σ) (d : Draft) (payload : InsertPayload) :
    (traced s d).insert payload = Action.ofUsage (d.insertStatement payload) >>= fun st =>
      s.traced.execute st >>= fun _ => s.traced.lastInsertId := by
  rw [insert, Draft.insertStatement, draft_traced]
  cases d.stageInsert payload with
  | error e => rfl
  | ok staged => rfl

end Query

/-! ## How often a statement is executed -/

/-- How many executions succeeded. -/
def executions (calls : List Traced.Entry) : Nat := calls.count ⟨.execute, none⟩

/-- All or nothing: what is reported as done was executed once, and what is reported as refused was not. -/
def Whole (outcome : Except Failure α) (calls : List Traced.Entry) : Prop :=
  match outcome with
  | .ok _ => executions calls = 1
  | .error _ => executions calls = 0

/-- A call that a script asks for at its end and nowhere else succeeds if nothing failed, and then once. -/
theorem Ran.count_last {script : List Request} {last : Request} {entries : List Traced.Entry}
    {failure : Option BackendError} (ran : Ran (script ++ [last]) entries failure) (apart : last ∉ script) :
    entries.count ⟨last, none⟩ = failure.elim 1 fun _ => 0 := by
  induction script generalizing entries with
  | nil =>
    cases ran with
    | stopped request rest e => exact List.count_eq_zero.mpr (by simp)
    | step request behind =>
      cases behind
      exact List.count_singleton_self
  | cons first rest ih =>
    have other : first ≠ last := fun same => apart (same ▸ List.mem_cons_self)
    cases ran with
    | stopped request rest e => exact List.count_eq_zero.mpr (by simp)
    | step request behind =>
      rw [List.count_cons_of_ne]
      · exact ih behind fun member => apart (List.mem_cons_of_mem first member)
      · intro same
        exact other (congrArg Traced.Entry.request same)

theorem bind_of_mem_bindRequests {request : Request} {position : Nat} {values : List Value}
    (member : request ∈ bindRequests position values) : ∃ at' v hint, request = .bind at' v hint := by
  induction values generalizing position with
  | nil => cases member
  | cons v rest ih =>
    rcases List.mem_cons.mp member with rfl | later
    · exact ⟨position, v, v.typeHint, rfl⟩
    · exact ih later

theorem Statement.Sent.executions {st : Statement} {ran : List Traced.Entry} {failure : Option BackendError}
    (sent : st.Sent [] ran failure) : executions ran = failure.elim 1 fun _ => 0 := by
  have inOrder : Ran ((.prepare st.sql :: bindRequests 1 st.params) ++ [.execute]) ran failure := sent.inOrder
  refine inOrder.count_last ?_
  intro member
  rcases List.mem_cons.mp member with same | later
  · cases same
  · obtain ⟨_, _, _, same⟩ := bind_of_mem_bindRequests later
    cases same

/-- The calls of a statement do not ask for an identifier. -/
theorem Statement.Sent.quiet {st : Statement} {ran : List Traced.Entry} {failure : Option BackendError}
    (sent : st.Sent [] ran failure) (answer : Option BackendError) : ⟨.lastInsertId, answer⟩ ∉ ran := by
  intro made
  have asked : Request.lastInsertId ∈ st.requests [] :=
    sent.inOrder.requests_prefix.subset (List.mem_map_of_mem made)
  rcases List.mem_cons.mp asked with same | later
  · cases same
  · rcases List.mem_append.mp later with binding | executing
    · obtain ⟨_, _, _, same⟩ := bind_of_mem_bindRequests binding
      cases same
    · cases List.mem_singleton.mp executing

/-! ## All or nothing -/

/-- An insert is all or nothing just if the identifier of the row was not refused. Where it was, that refusal
is reported, though the row was inserted. -/
def WholeButIdentifier (outcome : Except Failure Int64) (calls : List Traced.Entry) : Prop :=
  (Whole outcome calls ↔ ∀ e, ⟨.lastInsertId, some e⟩ ∉ calls) ∧
    ∀ e, ⟨.lastInsertId, some e⟩ ∈ calls →
      outcome = .error (.connection (.noIdentifier e)) ∧ executions calls = 1

/-- What an insert comes to by the answer to the question for the identifier, behind one execution. -/
theorem wholeButIdentifier_answer {ran : List Traced.Entry} (once : executions ran = 1)
    (quiet : ∀ failure, ⟨.lastInsertId, failure⟩ ∉ ran) (answer : Except BackendError Int64) :
    WholeButIdentifier (answer.mapError fun e => .connection (.noIdentifier e))
      (ran ++ [⟨.lastInsertId, failureOf? answer⟩]) := by
  have still : executions (ran ++ [⟨.lastInsertId, failureOf? answer⟩]) = 1 := by
    rw [executions, List.count_append, List.count_singleton]
    exact once
  cases answer with
  | ok id =>
    have accepted : ∀ e, ⟨.lastInsertId, some e⟩ ∉ ran ++ [⟨.lastInsertId, none⟩] := by
      intro e refused
      rcases List.mem_append.mp refused with inside | last
      · exact quiet (some e) inside
      · cases List.mem_singleton.mp last
    exact ⟨⟨fun _ => accepted, fun _ => still⟩, fun e refused => absurd refused (accepted e)⟩
  | error e =>
    have refused : ⟨.lastInsertId, some e⟩ ∈ ran ++ [⟨.lastInsertId, some e⟩] :=
      List.mem_append_right ran List.mem_cons_self
    refine ⟨⟨?_, fun accepted => absurd refused (accepted e)⟩, ?_⟩
    · intro unexecuted
      exact absurd (still.symm.trans unexecuted) Nat.one_ne_zero
    · intro e' refused'
      rcases List.mem_append.mp refused' with inside | last
      · exact absurd inside (quiet (some e'))
      · cases List.mem_singleton.mp last
        exact ⟨rfl, still⟩

namespace Session

theorem Executes.whole {s : Session σ} {st : Statement} {t t' : Traced σ} {outcome : Except Failure Nat}
    (executes : s.Executes st t outcome t') :
    ∃ ran, t'.calls = t.calls ++ ran ∧ Whole outcome ran ∧ ∀ failure, ⟨.lastInsertId, failure⟩ ∉ ran := by
  obtain ⟨ran, failure, calls, sent, rfl⟩ := executes
  refine ⟨ran, calls, ?_, sent.quiet⟩
  cases failure with
  | some e => exact sent.executions
  | none => exact sent.executions

theorem Inserts.whole {s : Session σ} {st : Statement} {t t' : Traced σ} {outcome : Except Failure Int64}
    (inserts : s.Inserts st t outcome t') :
    ∃ made, t'.calls = t.calls ++ made ∧ WholeButIdentifier outcome made := by
  obtain ⟨executed, between, executes, identifies⟩ := inserts
  obtain ⟨ran, calls, whole, quiet⟩ := executes.whole
  cases executed with
  | error e =>
    obtain ⟨rfl, rfl⟩ := identifies
    refine ⟨ran, calls, ⟨fun _ e' => quiet (some e'), fun _ => whole⟩, ?_⟩
    intro e' refused
    exact absurd refused (quiet (some e'))
  | ok rows =>
    obtain ⟨rfl, rfl⟩ := identifies
    refine ⟨ran ++ [⟨.lastInsertId, _⟩], ?_, wholeButIdentifier_answer whole quiet _⟩
    rw [calls, List.append_assoc]

end Session

/-- A complaint about what is to be sent is made before any call. -/
theorem Action.calls_ofUsage_bind {made : Except UsageError Statement} {f : Statement → Action (Traced σ) α}
    {R : Except Failure α → List Traced.Entry → Prop} (refused : ∀ e, R (.error (.usage e)) [])
    (runs : ∀ st, (f st).Calls R) : (Action.ofUsage made >>= f).Calls R := by
  cases made with
  | error e => exact Action.calls_ofExcept (.error (.usage e)) (refused e)
  | ok st => exact runs st

namespace Query

theorem execute_whole (s : Session σ) (d : Draft) : (traced s d).execute.Calls Whole := by
  rw [execute_eq]
  refine Action.calls_ofUsage_bind (fun _ => rfl) fun st t => ?_
  obtain ⟨outcome, t', run, executes⟩ := s.execute_some st t
  obtain ⟨ran, calls, whole, _⟩ := executes.whole
  exact ⟨outcome, t', ran, run, calls, whole⟩

/-- An update or a deletion is all or nothing, whichever calls fail: one that is reported as refused was not
executed, and one that is reported as done was executed once. So is an insert, unless the identifier of the
row is refused: then this is reported, and the row was inserted all the same. -/
theorem mutations_whole_iff (s : Session σ) (d : Draft) :
    (∀ assignments, ((traced s d).update assignments).Calls Whole) ∧ (traced s d).delete.Calls Whole ∧
      ∀ payload, ((traced s d).insert payload).Calls WholeButIdentifier := by
  refine ⟨fun assignments => execute_whole s (d.stageUpdate assignments), execute_whole s d.stageDelete, ?_⟩
  intro payload
  rw [insert_eq]
  refine Action.calls_ofUsage_bind ?_ fun st t => ?_
  · intro e
    exact ⟨⟨fun _ _ => List.not_mem_nil, fun _ => rfl⟩, fun _ refused => absurd refused List.not_mem_nil⟩
  · obtain ⟨outcome, t', run, inserts⟩ := s.insertion_some st t
    obtain ⟨made, calls, whole⟩ := inserts.whole
    exact ⟨outcome, t', made, run, calls, whole⟩

/-- A row is inserted and its identifier refused: the insert is reported as refused. -/
theorem insert_not_whole :
    let e : BackendError := { message := "no id" }
    let store : Scripted := { failures := [("last_insert_id", e)] }
    let q := traced (Scripted.session "mock") (Draft.empty.table "t")
    ∃ (outcome : Except Failure Int64) (t' : Traced Scripted),
      q.insert (.row (.ofList [("a", .int 1)])) (some { store }) = (outcome, some t') ∧
        outcome = .error (.connection (.noIdentifier e)) ∧ executions t'.calls = 1 ∧ ¬ Whole outcome t'.calls := by
  refine ⟨_, _, rfl, rfl, rfl, ?_⟩
  intro nothing
  cases nothing

end Query
end SqlDraft
