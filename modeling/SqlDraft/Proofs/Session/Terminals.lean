import SqlDraft.Proofs.Session.Script
import SqlDraft.Session.Query

/-!
# Running a draft

A query that is run agrees with the statement that its draft becomes without running
(`terminals_agree`): where there is no statement, the same complaint is reported and no call is made;
where there is one, it is that statement that is prepared, once, with exactly its values bound.
-/

namespace SqlDraft

variable {σ α β : Type}

/-! ## Actions that run a statement -/

namespace Action

/-- An action runs a statement on a connection of some name. While the state is lent it is refused as
busy. Otherwise it makes the statement's calls: the failure of one is what it ends with, together with
the statement as its text would be with the values written into it, and if none failed, the calls
`after` come behind. -/
structure Runs (action : Action (Traced σ) α) (name : String) (st : Statement) (read after : List Request) :
    Prop where
  busy : action none = (.error (.connection (.busy name)), none)
  idle : action.Calls fun outcome made => ∃ ran behind failure,
    made = ran ++ behind ∧ st.Sent read ran failure ∧
      (∀ e, failure = some e → outcome = .error (.query st.interpolated e) ∧ behind = []) ∧
      (failure = none → behind.map (·.request) = after)

/-- An action agrees with the making of a statement: the complaint that there is none is the action's
own and leaves the connection alone, and a statement that is made is run. -/
def AgreesWith (action : Action (Traced σ) α) (name : String) (made : Except UsageError Statement)
    (read after : List Request) : Prop :=
  match made with
  | .error e => ∀ slot, action slot = (.error (.usage e), slot)
  | .ok st => action.Runs name st read after

theorem bind_ofUsage_error (e : UsageError) (f : α → Action σ β) (slot : Option σ) :
    (ofUsage (.error e) >>= f) slot = (.error (.usage e), slot) := rfl

/-- Making a statement and then running it agrees with making it. -/
theorem agreesWith_bind {name : String} {made : Except UsageError Statement} {read after : List Request}
    {f : Statement → Action (Traced σ) α} (runs : ∀ st, (f st).Runs name st read after) :
    (ofUsage made >>= f).AgreesWith name made read after := by
  cases made with
  | error e =>
    intro slot
    exact bind_ofUsage_error e f slot
  | ok st => exact runs st

/-- What is made of the result of an action does not matter to its calls. -/
theorem AgreesWith.bind_pure {name : String} {made : Except UsageError Statement} {read after : List Request}
    {action : Action (Traced σ) α} (agrees : action.AgreesWith name made read after) (f : α → β) :
    (action >>= fun a => pure (f a)).AgreesWith name made read after := by
  cases made with
  | error e =>
    intro slot
    rw [Call.bind_apply, agrees slot]
  | ok st =>
    constructor
    · rw [Call.bind_apply, agrees.busy]
    · refine agrees.idle.bind ?_ ?_
      · rintro e made ⟨ran, behind, failure, split, sent, failed, finished⟩
        refine ⟨ran, behind, failure, split, sent, ?_, finished⟩
        intro e' same
        obtain ⟨reported, nothing⟩ := failed e' same
        cases reported
        exact ⟨rfl, nothing⟩
      · rintro a made ⟨ran, behind, failure, split, sent, failed, finished⟩
        refine calls_ofExcept (.ok (f a)) ⟨ran, behind, failure, ?_, sent, ?_, finished⟩
        · rw [split, List.append_nil]
        · intro e same
          cases (failed e same).1

end Action

namespace Session

theorem calls_lastInsertId (s : Session σ) :
    s.traced.lastInsertId.Calls fun _ made => made.map (·.request) = [.lastInsertId] := by
  intro t
  exact ⟨_, _, [_], s.traced.lend_some _ _ t, rfl, rfl⟩

/-- A statement that is run, and what is done behind it. -/
theorem runs_bind (s : Session σ) (st : Statement) {read : Call (Traced σ) α} {script after : List Request}
    (follows : read.Follows script) (reads : ∀ r ∈ script, r.Reads) {f : α → Action (Traced σ) β}
    (calls : ∀ a, (f a).Calls fun _ made => made.map (·.request) = after) :
    (s.traced.run st read >>= f).Runs s.name st script after := by
  constructor
  · rw [Call.bind_apply, run, lend_none]
    rfl
  · refine (s.calls_run st follows).bind ?_ ?_
    -- A failed script is all there is; the calls of `f` come only behind a complete one.
    · rintro e ran ⟨result, reported, inOrder⟩
      cases result with
      | ok a => cases reported
      | error e' =>
        cases reported
        refine ⟨ran, [], some e', (List.append_nil ran).symm, inOrder.sent reads, ?_, ?_⟩
        · intro e same
          cases same
          exact ⟨rfl, rfl⟩
        · intro finished
          cases finished
    · rintro a ran ⟨result, reported, inOrder⟩
      cases result with
      | error e' => cases reported
      | ok a' =>
        refine (calls a).mono ?_
        intro outcome behind requests
        refine ⟨ran, behind, none, rfl, inOrder.sent reads, ?_, ?_⟩
        · intro e same
          cases same
        · intro _
          exact requests

theorem runs_execute (s : Session σ) (st : Statement) : (s.traced.execute st).Runs s.name st [] [] := by
  have follows := Call.follows_reading s.traced.backend.rowCount
  rw [← bind_pure (s.traced.execute st)]
  exact s.runs_bind st follows (List.forall_mem_nil _) fun rows => Action.calls_ofExcept (.ok rows) rfl

theorem runs_insertion (s : Session σ) (st : Statement) :
    (s.traced.execute st >>= fun _ => s.traced.lastInsertId).Runs s.name st [] [.lastInsertId] := by
  have follows := Call.follows_reading s.traced.backend.rowCount
  exact s.runs_bind st follows (List.forall_mem_nil _) fun _ => s.calls_lastInsertId

theorem runs_fetchAll (s : Session σ) [OfRow α] (st : Statement) :
    (s.traced.fetchAll st : Action (Traced σ) (List α)).Runs s.name st [.fetchAll] [] := by
  have follows : s.traced.backend.fetchAll.Follows [.fetchAll] := Call.follows_traced _ _
  exact s.runs_bind st follows (List.forall_mem_singleton.mpr ⟨rfl, rfl⟩) fun rows => Action.calls_ofExcept _ rfl

theorem runs_fetchOne (s : Session σ) [OfRow α] (st : Statement) (cursor : Cursor) :
    (s.traced.fetchOne st cursor : Action (Traced σ) (Option α)).Runs s.name st [.fetchOne cursor] [] := by
  have follows : (s.traced.backend.fetchOne cursor).Follows [.fetchOne cursor] := Call.follows_traced _ _
  refine s.runs_bind st follows (List.forall_mem_singleton.mpr ⟨rfl, rfl⟩) fun found => ?_
  cases found with
  | none => exact Action.calls_ofExcept (.ok none) rfl
  | some row =>
    have read : (some <$> Action.ofExcept (ofRow row) : Action (Traced σ) (Option α)) =
        Action.ofExcept ((ofRow row).map some) := by
      cases (ofRow row : Except Failure α) with
      | ok a => rfl
      | error e => rfl
    change (some <$> Action.ofExcept (ofRow row) : Action (Traced σ) (Option α)).Calls _
    rw [read]
    exact Action.calls_ofExcept _ rfl

end Session

/-! ## Queries -/

namespace Query

/-- A query on a connection that keeps an account. -/
def traced (s : Session σ) (d : Draft) : Query (Traced σ) := ⟨some s.traced, d⟩

theorem draft_traced (s : Session σ) (d : Draft) : (traced s d).draft = d := rfl

theorem get_agrees (s : Session σ) (d : Draft) [OfRow α] :
    ((traced s d).get : Action (Traced σ) (List α)).AgreesWith s.name d.build [.fetchAll] [] :=
  Action.agreesWith_bind fun st => s.runs_fetchAll st

theorem first_agrees (s : Session σ) (d : Draft) [OfRow α] :
    ((traced s d).first : Action (Traced σ) (Option α)).AgreesWith s.name d.build [.fetchOne .next] [] :=
  Action.agreesWith_bind fun st => s.runs_fetchOne st .next

theorem execute_agrees (s : Session σ) (d : Draft) : (traced s d).execute.AgreesWith s.name d.build [] [] :=
  Action.agreesWith_bind fun st => s.runs_execute st

theorem insert_agrees (s : Session σ) (d : Draft) (payload : InsertPayload) :
    ((traced s d).insert payload).AgreesWith s.name (d.insertStatement payload) [] [.lastInsertId] := by
  rw [insert, Draft.insertStatement, draft_traced]
  cases d.stageInsert payload with
  | error e =>
    intro slot
    exact Action.bind_ofUsage_error e _ slot
  | ok staged =>
    have agrees : (Action.ofUsage staged.build >>= fun st =>
        s.traced.execute st >>= fun _ => s.traced.lastInsertId).AgreesWith s.name staged.build []
          [.lastInsertId] := Action.agreesWith_bind fun st => s.runs_insertion st
    exact agrees

/-- Whatever the draft, what is written and what the backend answers, a query that is run agrees with the
statement that is made without running: the query itself for reading, the query narrowed to a column's
value, the aggregate, the insert, the update and the deletion. Only an insert asks for more behind its
statement, the identifier of the row. -/
theorem terminals_agree (s : Session σ) (d : Draft) :
    (∀ (α : Type) [OfRow α],
      ((traced s d).get : Action (Traced σ) (List α)).AgreesWith s.name d.build [.fetchAll] [] ∧
        ((traced s d).first : Action (Traced σ) (Option α)).AgreesWith s.name d.build [.fetchOne .next] []) ∧
      (∀ column v, ((traced s d).find column v).AgreesWith s.name (d.equals column v).build
        [.fetchOne .next] []) ∧
      (∀ function column, ((traced s d).aggregate function column).AgreesWith s.name
        (d.aggregateStatement function column) [.fetchOne .next] []) ∧
      (∀ payload, ((traced s d).insert payload).AgreesWith s.name (d.insertStatement payload) []
        [.lastInsertId]) ∧
      (∀ assignments, ((traced s d).update assignments).AgreesWith s.name (d.updateStatement assignments)
        [] []) ∧
      (traced s d).delete.AgreesWith s.name d.deleteStatement [] [] := by
  refine ⟨?_, ?_, ?_, ?_, ?_, ?_⟩
  · intro α _
    exact ⟨get_agrees s d, first_agrees s d⟩
  · intro column v
    exact first_agrees s (d.equals column v)
  · intro function column
    exact (first_agrees s (d.stageAggregate function column)).bind_pure _
  · intro payload
    exact insert_agrees s d payload
  · intro assignments
    exact execute_agrees s (d.stageUpdate assignments)
  · exact execute_agrees s d.stageDelete

end Query
end SqlDraft
