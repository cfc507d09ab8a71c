import SqlDraft.Proofs.Draft.Refusal
import SqlDraft.Proofs.Session.Search

/-!
# Refused drafts

A draft that was refused an operator has no statement any more, whatever it is turned to, and a query with such a
draft makes no call, however it is run (`refused_for_good`). The complaint is the first refusal, and nothing takes
it back.
-/

namespace SqlDraft

variable {σ α β : Type}

/-- What an insert complains of: of what it is to write, and otherwise of the draft. -/
def InsertPayload.complaint (payload : InsertPayload) (otherwise : UsageError) : UsageError :=
  match Draft.insertSource payload with
  | .error e => e
  | .ok _ => otherwise

/-! ## Statements -/

namespace Draft

/-- Whatever statement the draft is to become, this is complained of instead. -/
structure Refuses (d : Draft) (e : UsageError) : Prop where
  toSql : d.toSql = .error e
  interpolated : d.interpolated = .error e
  build : d.build = .error e
  aggregate : ∀ function column, d.aggregateStatement function column = .error e
  insert : ∀ payload, d.insertStatement payload = .error (payload.complaint e)
  update : ∀ assignments, d.updateStatement assignments = .error e
  delete : d.deleteStatement = .error e

variable {d : Draft} {cause : Rejection}

theorem toSql_of_rejection (refused : d.rejection = some cause) : d.toSql = .error (.rejected cause) := by
  rw [toSql, template, refused]
  rfl

theorem build_of_rejection (refused : d.rejection = some cause) : d.build = .error (.rejected cause) := by
  rw [build, toSql_of_rejection refused]
  rfl

theorem stageInsert_error {payload : InsertPayload} {e : UsageError} (complains : insertSource payload = .error e)
    (d : Draft) : d.stageInsert payload = .error e := by
  rw [stageInsert, complains]
  rfl

theorem stageInsert_ok {payload : InsertPayload} {written : InsertSource × List Value}
    (made : insertSource payload = .ok written) (d : Draft) :
    ∃ staged, d.stageInsert payload = .ok staged ∧ staged.rejection = d.rejection := by
  rw [stageInsert, made]
  exact ⟨_, rfl, rejection_turnTo d _⟩

theorem refuses_of_rejection (refused : d.rejection = some cause) : d.Refuses (.rejected cause) := by
  have turned (purpose : Purpose) : (d.turnTo purpose).build = .error (.rejected cause) :=
    build_of_rejection ((rejection_turnTo d purpose).trans refused)
  refine ⟨toSql_of_rejection refused, ?_, build_of_rejection refused, fun _ _ => turned _, ?_, ?_, turned _⟩
  · rw [interpolated, toSql_of_rejection refused]
    rfl
  · intro payload
    rw [insertStatement, InsertPayload.complaint]
    cases written : insertSource payload with
    | error e =>
      rw [stageInsert_error written]
      rfl
    | ok source =>
      obtain ⟨staged, made, kept⟩ := stageInsert_ok written d
      rw [made]
      exact build_of_rejection (kept.trans refused)
  · intro assignments
    exact build_of_rejection ((rejection_turnTo d _).trans refused)

end Draft

/-! ## Running -/

/-- An action ends with a complaint and leaves the state as it was, also while it is lent. -/
def Action.Refuses (action : Action σ α) (e : UsageError) : Prop := ∀ slot, action slot = (.error (.usage e), slot)

theorem Action.Refuses.bind {action : Action σ α} {e : UsageError} (refuses : action.Refuses e)
    (f : α → Action σ β) : (action >>= f).Refuses e := by
  intro slot
  rw [Call.bind_apply, refuses slot]

namespace Query

/-- However the query is run, it ends with this complaint. -/
structure Refuses (q : Query σ) (e : UsageError) : Prop where
  get : ∀ (α : Type) [OfRow α], (q.get : Action σ (List α)).Refuses e
  first : ∀ (α : Type) [OfRow α], (q.first : Action σ (Option α)).Refuses e
  find : ∀ column v, (q.find column v).Refuses e
  aggregate : ∀ function column, (q.aggregate function column).Refuses e
  insert : ∀ payload, (q.insert payload).Refuses (payload.complaint e)
  update : ∀ assignments, (q.update assignments).Refuses e
  delete : q.delete.Refuses e
  updateOrInsert : ∀ search update, (q.updateOrInsert search update).Refuses e

/-- What a query complains of when its draft was refused an operator: that it has no connection comes first. -/
def complaint (q : Query σ) (cause : Rejection) : UsageError :=
  match q.session with
  | some _ => .rejected cause
  | none => .noConnection

variable {q : Query σ} {cause : Rejection}

/-- The connection is looked for, the statement made, and only then something is done. -/
theorem refuses_bind {made : Except UsageError Statement} (refused : made = .error (.rejected cause))
    (q : Query σ) (f : Session σ → Statement → Action σ α) :
    (Action.ofUsage q.requireSession >>= fun s => Action.ofUsage made >>= f s).Refuses (q.complaint cause) := by
  rw [refused, requireSession, complaint]
  cases q.session with
  | none => exact fun _ => rfl
  | some s => exact fun _ => rfl

theorem first_refuses (refused : q.draft.rejection = some cause) [OfRow α] :
    (q.first : Action σ (Option α)).Refuses (q.complaint cause) :=
  refuses_bind (Draft.build_of_rejection refused) q fun s st => s.fetchOne st .next

theorem execute_refuses (refused : q.draft.rejection = some cause) : q.execute.Refuses (q.complaint cause) :=
  refuses_bind (Draft.build_of_rejection refused) q Session.execute

theorem insert_refuses (refused : q.draft.rejection = some cause) (payload : InsertPayload) :
    (q.insert payload).Refuses (payload.complaint (q.complaint cause)) := by
  rw [insert, InsertPayload.complaint]
  cases written : Draft.insertSource payload with
  | error e =>
    rw [Draft.stageInsert_error written]
    exact fun _ => rfl
  | ok source =>
    obtain ⟨staged, made, kept⟩ := Draft.stageInsert_ok written q.draft
    rw [made]
    exact refuses_bind (Draft.build_of_rejection (kept.trans refused)) q fun s st =>
      s.execute st >>= fun _ => s.lastInsertId

theorem rejection_matching (q : Query σ) (search : Record) :
    (q.matching search).draft.rejection = q.draft.rejection := by
  rw [matching, withDraft, Draft.foldl_equals]
  rfl

theorem rejection_equals (d : Draft) (column : String) (v : Value) : (d.equals column v).rejection = d.rejection := by
  rw [Draft.equals_eq]
  rfl

theorem refuses_of_rejection (refused : q.draft.rejection = some cause) : q.Refuses (q.complaint cause) := by
  have turned (purpose : Purpose) : (q.draft.turnTo purpose).rejection = some cause :=
    (Draft.rejection_turnTo q.draft purpose).trans refused
  refine ⟨?_, fun _ _ => first_refuses refused, ?_, ?_, insert_refuses refused, ?_, ?_, ?_⟩
  · intro α _
    exact refuses_bind (Draft.build_of_rejection refused) q fun s st => s.fetchAll st
  · intro column v
    exact first_refuses (q := q.withDraft (·.equals column v)) ((rejection_equals q.draft column v).trans refused)
  · intro function column
    have looks := first_refuses (α := Row) (q := q.withDraft (·.stageAggregate function column)) (turned _)
    exact looks.bind _
  · intro assignments
    exact execute_refuses (q := q.withDraft (·.stageUpdate assignments)) (turned _)
  · exact execute_refuses (q := q.withDraft Draft.stageDelete) (turned _)
  · intro search update
    have looks := first_refuses (α := Row) ((rejection_matching q search).trans refused)
    exact looks.bind _

/-- If one of some setters is refused, the draft they make is, but for the note of the refusal, the one that the others
make. The note is the refusal of the first such setter, and further setters do not take it back. Every statement
that the draft is asked for is refused with its message, and however the draft is run, on whatever connection, or
without one, the end is a complaint, and no call was made. -/
theorem refused_for_good (session : Option (Session σ)) {setters : List Setter}
    (refused : ∃ s ∈ setters, s.isRejected = true) :
    let d := Draft.empty.applyAll setters
    let q : Query (Traced σ) := ⟨session.map Session.traced, d⟩
    d.pardoned = Draft.empty.applyAll (setters.filter (!·.isRejected)) ∧
      ∃ before s after cause, setters = before ++ s :: after ∧ (∀ x ∈ before, x.isRejected = false) ∧
        s.refusal? = some cause ∧ d.rejection = some cause ∧ d.Refuses (.rejected cause) ∧
        (UsageError.rejected cause).message = cause.message ∧ q.Refuses (q.complaint cause) ∧
        ∀ later, (d.applyAll later).rejection = some cause := by
  intro d q
  obtain ⟨before, s, after, cause, split, accepted, refuses, found⟩ := Setter.exists_first_refusal refused
  have noted : d.rejection = some cause := (Draft.empty.rejection_applyAll setters).trans found
  refine ⟨Draft.empty.pardoned_applyAll setters, before, s, after, cause, split, accepted, refuses, noted,
    Draft.refuses_of_rejection noted, rfl, refuses_of_rejection noted, fun later => ?_⟩
  rw [Draft.rejection_applyAll, noted]
  rfl

/-- A condition and a join are refused, and all bound values dropped behind them. -/
theorem refused_for_good_cleared :
    let setters : List Setter := [.table "t", .compare .and "a" "=" (.int 1), .compare .or "b" "===" (.int 2),
      .join .left "u" "t.a" "~" "u.a", .clearParams]
    let d := Draft.empty.applyAll setters
    let q : Query (Traced Scripted) := ⟨some (Scripted.session "mock").traced, d⟩
    (∃ s ∈ setters, s.isRejected = true) ∧ d.rejection = some (.comparison "===" "b") ∧
      (Rejection.comparison "===" "b").message = "unsupported comparison operator \"===\" on b" ∧
      d.clauses.conditions = [equality ("a", .int 1)] ∧ d.clauses.joins = [] ∧
      d.Refuses (.rejected (.comparison "===" "b")) ∧ q.Refuses (.rejected (.comparison "===" "b")) := by
  intro setters d q
  have refused : ∃ s ∈ setters, s.isRejected = true := by decide
  obtain ⟨_, _, _, _, cause, _, _, _, noted, statements, _, actions, _⟩ :=
    refused_for_good (some (Scripted.session "mock")) refused
  cases (Option.some.inj noted : Rejection.comparison "===" "b" = cause)
  exact ⟨refused, by decide, by decide, by decide, by decide, statements, actions⟩

end Query
end SqlDraft
