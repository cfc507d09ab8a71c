import SqlDraft.Proofs.Session.Mirror
import SqlDraft.Proofs.Session.Mutations
import SqlDraft.Proofs.Session.Search
import SqlDraft.Proofs.Template.Written

/-!
# Updating or inserting

What an update that inserts where it finds nothing sends: one lookup, and by what that ends with, nothing
more, an update under the conditions of the lookup, or an insert that has nothing of the draft but its table
(`lookup_then_change`). Every call may fail, and the update and the insert are never both sent.
-/

namespace SqlDraft

variable {σ α β : Type}

/-! ## The statements -/

namespace Draft

/-- The conditions of a draft and behind them, tied with AND, that columns have values. -/
def writtenConditions (d : Draft) (entries : List (String × Value)) : List (Connective × String) :=
  d.clauses.conditions.map Condition.written ++ entries.map fun e => (.and, e.1 ++ " = " ++ e.2.mark)

/-- The query of a draft for the rows that have some values as well. -/
def lookupOf (d : Draft) (entries : List (String × Value)) : Except UsageError Statement :=
  unlessWrong
    [d.rejection.map .rejected,
      if lacksTable (d.clauses.source <|> d.clauses.table) then some (.noTable .select) else none]
    ⟨d.clauses.writtenQuery (d.writtenConditions entries), d.params ++ boundValues (entries.map Prod.snd)⟩

/-- The update of the rows that a draft is about and that have some values as well; `bound` are the values that these
conditions bind. -/
def changeOf (d : Draft) (entries assignments : List (String × Value)) (bound : List Value) :
    Except UsageError Statement :=
  unlessWrong
    [if lacksTable d.clauses.table then some (.noTable .update) else none,
      if assignments = [] then some .updateWithoutColumn else none]
    ⟨d.clauses.writtenUpdate assignments (d.writtenConditions entries),
      boundValues (assignments.map Prod.snd) ++ bound⟩

/-- The insert of one row into the table of a draft, with nothing else of the draft. -/
def additionOf (d : Draft) (row : List (String × Value)) : Except UsageError Statement :=
  unlessWrong
    [if row = [] then some .insertWithoutColumn else none,
      if lacksTable d.clauses.table then some (.noTable .insert) else none]
    ⟨Clauses.writtenInsert d.clauses.table row, boundValues (row.map Prod.snd)⟩

/-- A draft that reads rows and has no values to write. -/
structure ReadsOnly (d : Draft) : Prop where
  purpose : d.purpose = .select none
  inserts : d.bindings.of .insert = []
  assigns : d.bindings.of .assign = []

theorem reads_narrowed {d : Draft} (reads : d.ReadsOnly) (entries : List (String × Value)) :
    (d.narrowed entries).ReadsOnly := by
  refine ⟨reads.purpose, ?_, ?_⟩
  · exact (Bindings.of_addAll_other d.bindings (by decide) _).trans reads.inserts
  · exact (Bindings.of_addAll_other d.bindings (by decide) _).trans reads.assigns

theorem reads_applyAll (setters : List Setter) : (empty.applyAll setters).ReadsOnly :=
  ⟨purpose_applyAll empty setters, unwritten_applyAll (by decide) setters rfl,
    unwritten_applyAll (by decide) setters rfl⟩

theorem params_of_reads {d : Draft} (reads : d.ReadsOnly) : d.params = d.bindings.of .filter := by
  rw [params_eq, reads.inserts, reads.assigns]
  rfl

theorem params_narrowed {d : Draft} (reads : d.ReadsOnly) (entries : List (String × Value)) :
    (d.narrowed entries).params = d.params ++ boundValues (entries.map Prod.snd) := by
  rw [params_of_reads (reads_narrowed reads entries), params_of_reads reads]
  exact Bindings.of_addAll d.bindings .filter _

theorem params_stageUpdate {d : Draft} (reads : d.ReadsOnly) (assignments : Record) :
    (d.stageUpdate assignments).params = boundValues assignments.values ++ d.params := by
  have turned : (d.turnTo (.update assignments)).bindings.of .insert = [] := by
    rw [turnTo]
    split
    · exact reads.inserts
    · rfl
  rw [params_eq, insert_stageUpdate, turned, assign_stageUpdate, filter_stageUpdate, params_of_reads reads]
  rfl

theorem params_of_inserts {d : Draft} {values : List Value} (filled : d.bindings = Bindings.addAll {} .insert values) :
    d.params = boundValues values := by
  rw [params_eq, filled, Bindings.of_addAll, Bindings.of_addAll_other {} (by decide),
    Bindings.of_addAll_other {} (by decide)]
  exact (List.append_nil _).trans (List.append_nil _)

theorem written_narrowed (d : Draft) (entries : List (String × Value)) :
    (d.narrowed entries).clauses.conditions.map Condition.written = d.writtenConditions entries := by
  have tied (e : String × Value) : (equality e).written = (.and, e.1 ++ " = " ++ e.2.mark) := by
    have text : e.1 ++ " " ++ Comparison.equal.sql ++ " " ++ e.2.mark = e.1 ++ " = " ++ e.2.mark := by
      simp only [String.append_assoc]
      rfl
    exact congrArg (Connective.and, ·) text
  rw [narrowed, List.map_append, List.map_map, writtenConditions]
  exact congrArg (_ ++ entries.map ·) (funext tied)

theorem map_statement (made : Except UsageError Template) (params : List Value) :
    made.map (fun t => (⟨t.sql, params⟩ : Statement)) = (made.map Template.sql).map (⟨·, params⟩) := by
  cases made <;> rfl

theorem build_narrowed {d : Draft} (reads : d.ReadsOnly) (entries : List (String × Value)) :
    (d.narrowed entries).build = d.lookupOf entries := by
  have rejection : (d.narrowed entries).rejection = d.rejection := rfl
  rw [build_eq, template, rejection, (reads_narrowed reads entries).purpose, lookupOf]
  cases d.rejection with
  | some cause => rfl
  | none =>
    simp only [map_statement]
    rw [selection_written, written_narrowed, map_unlessWrong, params_narrowed reads]
    rfl

/-- A draft looks up what its own query does if there are no values to search for. -/
theorem build_eq_lookupOf {d : Draft} (reads : d.ReadsOnly) : d.build = d.lookupOf [] :=
  (congrArg build (foldl_equals d [])).trans (build_narrowed reads [])

/-- What is updated has the clauses of the lookup and binds the values of its conditions again. -/
theorem updateStatement_narrowed {d : Draft} (reads : d.ReadsOnly) {entries : List (String × Value)} {st : Statement}
    (built : (d.narrowed entries).build = .ok st) (assignments : Record) :
    (d.narrowed entries).updateStatement assignments = d.changeOf entries assignments.entries st.params := by
  have narrowed := reads_narrowed reads entries
  obtain ⟨t, made, rfl⟩ := build_eq_ok built
  have accepted : ((d.narrowed entries).stageUpdate assignments).rejection = none :=
    (rejection_turnTo _ _).trans (template_eq_ok made).1
  have purpose : ((d.narrowed entries).stageUpdate assignments).purpose = .update assignments := purpose_turnTo _ _
  rw [updateStatement, build_eq, template, accepted, purpose, clauses_stageUpdate, params_stageUpdate narrowed]
  simp only [map_statement]
  rw [update_written, written_narrowed, map_unlessWrong]
  rfl

end Draft

namespace Query

/-- The target of an insert is a table and nothing else. -/
theorem draft_target (q : Query σ) :
    q.target.draft = { clauses := { table := q.draft.clauses.table, source := q.draft.clauses.table } } := by
  rw [target]
  cases q.draft.clauses.table with
  | none => rfl
  | some table => rfl

theorem stageInsert_target (q : Query σ) {r : Record} (written : ¬ r.isEmpty) :
    q.target.draft.stageInsert (.row r) = .ok
      { clauses := { table := q.draft.clauses.table, source := q.draft.clauses.table }
        purpose := .insert (.rows r.columns [r.values])
        bindings := Bindings.addAll {} .insert [r.values].flatten } := by
  rw [draft_target, Draft.stageInsert, Draft.insertSource, ofRecords_singleton, if_neg written]
  rfl

theorem insertStatement_target (q : Query σ) (r : Record) :
    q.target.draft.insertStatement (.row r) = q.draft.additionOf r.entries := by
  have written := congrArg (Except.map (fun sql => (⟨sql, boundValues r.values⟩ : Statement)))
    (insert_written q.draft.clauses.table r)
  rw [map_unlessWrong] at written
  refine Eq.trans ?_ written
  by_cases columnless : r.isEmpty
  · rw [if_pos columnless, Draft.insertStatement, Draft.stageInsert, Draft.insertSource, ofRecords_singleton,
      if_pos columnless]
    rfl
  · rw [if_neg columnless, Draft.insertStatement, q.stageInsert_target columnless, ← Draft.map_statement]
    refine (Draft.build_eq _).trans ?_
    rw [Draft.params_of_inserts rfl, List.flatten_singleton]
    rfl

end Query

/-! ## What is sent -/

namespace Session

/-- A statement is run and a row of it read, from a state to the next: the failure of a call is reported
together with the statement, and if there was none, the row that the backend gave, if it gave one. -/
def LooksUp (s : Session σ) (st : Statement) (t : Traced σ) (found : Except Failure (Option Row)) (t' : Traced σ) :
    Prop :=
  ∃ ran failure, t'.calls = t.calls ++ ran ∧ st.Sent [.fetchOne .next] ran failure ∧
    match failure with
    | some e => found = .error (.query st.interpolated e)
    | none => ∃ executed row, s.traced.backend.start st t = (.ok (), executed) ∧
      s.backend.fetchOne .next executed.store = (.ok row, t'.store) ∧ found = .ok row

/-- What is done with a statement if there is one, from a state to the next. The complaint that there is none
is reported, and nothing is done. -/
def IfMade (made : Except UsageError Statement) (t : Traced σ)
    (runs : Statement → Except Failure α → Traced σ → Prop) (outcome : Except Failure α) (t' : Traced σ) : Prop :=
  match made with
  | .error e => outcome = .error (.usage e) ∧ t' = t
  | .ok st => runs st outcome t'

/-- A lookup, and then the update if it gave a row, and the insert if it gave none. What is updated may depend on
the lookup. If the lookup fails, this is reported, and nothing more is done. -/
def Upserts (s : Session σ) (lookup : Except UsageError Statement)
    (change : Statement → Except UsageError Statement) (addition : Except UsageError Statement) (t : Traced σ) :
    Except Failure Upsert → Traced σ → Prop :=
  IfMade lookup t fun st outcome t' => ∃ found between, s.LooksUp st t found between ∧
    match found with
    | .error e => outcome = .error e ∧ t' = between
    | .ok (some _) => ∃ rows, IfMade (change st) between (s.Executes · between) rows t' ∧ outcome = rows.map .updated
    | .ok none => ∃ id, IfMade addition between (s.Inserts · between) id t' ∧ outcome = id.map .inserted

theorem ifMade_some {made : Except UsageError Statement} {f : Statement → Action (Traced σ) α} {t : Traced σ}
    {runs : Statement → Except Failure α → Traced σ → Prop}
    (each : ∀ st, made = .ok st → ∃ outcome t', f st (some t) = (outcome, some t') ∧ runs st outcome t') :
    ∃ outcome t', (Action.ofUsage made >>= f) (some t) = (outcome, some t') ∧ IfMade made t runs outcome t' := by
  cases made with
  | error e => exact ⟨.error (.usage e), t, rfl, rfl, rfl⟩
  | ok st => exact each st rfl

theorem looksUp_some (s : Session σ) (st : Statement) (t : Traced σ) :
    ∃ found t', (s.traced.fetchOne st .next : Action (Traced σ) (Option Row)) (some t) = (found, some t') ∧
      s.LooksUp st t found t' := by
  have follows : (s.traced.backend.fetchOne .next).Follows [.fetchOne .next] := Call.follows_traced _ _
  have reads : ∀ r ∈ [Request.fetchOne .next], r.Reads := List.forall_mem_singleton.mpr ⟨rfl, rfl⟩
  obtain ⟨result, t', ran, run, calls, inOrder, read⟩ := s.run_some st follows t
  rw [fetchOne, Call.bind_apply, run]
  cases result with
  | error e => exact ⟨_, t', rfl, ran, some e, calls, inOrder.sent reads, rfl⟩
  | ok row =>
    obtain ⟨executed, started, gave⟩ := read row rfl
    have stored : s.backend.fetchOne .next executed.store = (.ok row, t'.store) :=
      congrArg (fun answer : Except BackendError (Option Row) × Traced σ => (answer.1, answer.2.store)) gave
    have sent := inOrder.sent reads
    cases row with
    | none => exact ⟨_, t', rfl, ran, none, calls, sent, executed, none, started, stored, rfl⟩
    | some row => exact ⟨_, t', rfl, ran, none, calls, sent, executed, some row, started, stored, rfl⟩

end Session

/-- What is made of the result of a computation, at a state. -/
theorem Call.map_of_apply {ε : Type} {call : ExceptT ε (StateM σ) α} {s s' : σ} {outcome : Except ε α}
    (run : call s = (outcome, s')) (f : α → β) : (f <$> call) s = (outcome.map f, s') := by
  rw [map_eq_pure_bind, bind_apply, run]
  cases outcome with
  | ok a => rfl
  | error e => rfl

namespace Query

theorem updateOrInsert_eq (s : Session σ) (d : Draft) (search update : Record) :
    (traced s d).updateOrInsert search update =
      Action.ofUsage (d.narrowed search.entries).build >>= fun st =>
        (s.traced.fetchOne st .next : Action (Traced σ) (Option Row)) >>= fun found =>
          match found with
          | some _ => Upsert.updated <$> (Action.ofUsage ((d.narrowed search.entries).updateStatement update) >>=
              fun u => s.traced.execute u)
          | none => Upsert.inserted <$> (Action.ofUsage (d.additionOf (search.merge update).entries) >>=
              fun i => s.traced.execute i >>= fun _ => s.traced.lastInsertId) := by
  have narrowed : (traced s d).matching search = traced s (d.narrowed search.entries) :=
    congrArg (traced s) (draft_matching s d search)
  have target : (traced s (d.narrowed search.entries)).target =
      traced s (traced s (d.narrowed search.entries)).target.draft := rfl
  have adds := insertStatement_target (traced s (d.narrowed search.entries)) (search.merge update)
  rw [updateOrInsert, narrowed, target, insert_eq, adds]
  exact bind_assoc (Action.ofUsage (d.narrowed search.entries).build) _ _

theorem updateOrInsert_some (s : Session σ) {d : Draft} (reads : d.ReadsOnly) (search update : Record)
    (t : Traced σ) :
    ∃ outcome t', (traced s d).updateOrInsert search update (some t) = (outcome, some t') ∧
      s.Upserts (d.lookupOf search.entries) (fun st => d.changeOf search.entries update.entries st.params)
        (d.additionOf (search.merge update).entries) t outcome t' := by
  have changes (st : Statement) (built : (d.narrowed search.entries).build = .ok st) :=
    Draft.updateStatement_narrowed reads built update
  rw [updateOrInsert_eq, ← Draft.build_narrowed reads]
  refine Session.ifMade_some fun st built => ?_
  obtain ⟨found, between, looks, lookedUp⟩ := s.looksUp_some st t
  rw [Call.bind_apply, looks]
  cases found with
  | error e => exact ⟨.error e, between, rfl, .error e, between, lookedUp, rfl, rfl⟩
  | ok row =>
    cases row with
    | some row =>
      obtain ⟨rows, t', run, changed⟩ := Session.ifMade_some fun u _ => s.execute_some u between
      refine ⟨rows.map .updated, t', ?_, .ok (some row), between, lookedUp, rows, changed, rfl⟩
      rw [changes st built]
      exact Call.map_of_apply run Upsert.updated
    | none =>
      obtain ⟨id, t', run, added⟩ := Session.ifMade_some fun i _ => s.insertion_some i between
      exact ⟨id.map .inserted, t', Call.map_of_apply run Upsert.inserted, .ok none, between, lookedUp, id, added, rfl⟩

end Query

/-! ## How much is sent -/

/-- From a state to the next, these texts were prepared. -/
def Traced.Prepared (t t' : Traced σ) (texts : List String) : Prop :=
  ∃ made, t'.calls = t.calls ++ made ∧ preparedBy made = texts

theorem Traced.Prepared.append {t between t' : Traced σ} {first second : List String}
    (head : t.Prepared between first) (next : between.Prepared t' second) : t.Prepared t' (first ++ second) := by
  obtain ⟨made, calls, rfl⟩ := head
  obtain ⟨others, callsNext, rfl⟩ := next
  refine ⟨made ++ others, ?_, preparedBy_append made others⟩
  rw [callsNext, calls, List.append_assoc]

namespace Session

variable {s : Session σ} {st : Statement} {t t' : Traced σ}

theorem LooksUp.prepared {found : Except Failure (Option Row)} (looks : s.LooksUp st t found t') :
    t.Prepared t' [st.sql] := by
  obtain ⟨ran, failure, calls, sent, _⟩ := looks
  exact ⟨ran, calls, sent.prepared⟩

theorem Executes.prepared {outcome : Except Failure Nat} (executes : s.Executes st t outcome t') :
    t.Prepared t' [st.sql] := by
  obtain ⟨ran, failure, calls, sent, _⟩ := executes
  exact ⟨ran, calls, sent.prepared⟩

theorem Inserts.prepared {outcome : Except Failure Int64} (inserts : s.Inserts st t outcome t') :
    t.Prepared t' [st.sql] := by
  obtain ⟨executed, between, executes, identifies⟩ := inserts
  cases executed with
  | error e =>
    obtain ⟨_, rfl⟩ := identifies
    exact executes.prepared
  | ok rows =>
    obtain ⟨_, rfl⟩ := identifies
    exact executes.prepared.append ⟨[⟨.lastInsertId, _⟩], rfl, rfl⟩

/-- Behind the lookup at most one statement is sent. -/
theorem Upserts.prepared {lookup addition : Except UsageError Statement}
    {change : Statement → Except UsageError Statement} {outcome : Except Failure Upsert}
    (upserts : s.Upserts lookup change addition t outcome t') :
    t' = t ∨ ∃ st, lookup = .ok st ∧ (t.Prepared t' [st.sql] ∨
      (∃ u, change st = .ok u ∧ t.Prepared t' [st.sql, u.sql]) ∨
        ∃ i, addition = .ok i ∧ t.Prepared t' [st.sql, i.sql]) := by
  cases lookup with
  | error e => exact .inl upserts.2
  | ok st =>
    obtain ⟨found, between, looks, behind⟩ := upserts
    refine .inr ⟨st, rfl, ?_⟩
    cases found with
    | error e =>
      obtain ⟨_, rfl⟩ := behind
      exact .inl looks.prepared
    | ok row =>
      cases row with
      | some row =>
        obtain ⟨rows, changed, _⟩ := behind
        cases made : change st with
        | error e =>
          rw [made] at changed
          obtain ⟨_, rfl⟩ := changed
          exact .inl looks.prepared
        | ok u =>
          rw [made] at changed
          exact .inr (.inl ⟨u, rfl, looks.prepared.append (Executes.prepared changed)⟩)
      | none =>
        obtain ⟨id, added, _⟩ := behind
        cases addition with
        | error e =>
          obtain ⟨_, rfl⟩ := added
          exact .inl looks.prepared
        | ok i => exact .inr (.inr ⟨i, rfl, looks.prepared.append (Inserts.prepared added)⟩)

end Session

namespace Query

/-- Whatever setters made a draft, and whatever the backend answers, an update that inserts where it finds nothing
sends the draft's query with the equalities of the search behind its conditions. If a row is found, it
sends the update under these conditions, with their values bound again; if none is found, the insert
of the search and the update written over it into the draft's table, which binds that row's values and no
others. A query is made unless an operator was refused or there is no table, an update unless there is no table or
nothing to assign, and an insert unless there is no column or no table. What cannot be made is reported and not
sent, and no more than one statement follows the lookup. -/
theorem lookup_then_change (s : Session σ) (setters : List Setter) (search update : Record) (t : Traced σ) :
    let d := Draft.empty.applyAll setters
    let lookup := d.lookupOf search.entries
    let change := fun st : Statement => d.changeOf search.entries update.entries st.params
    let addition := d.additionOf (search.merge update).entries
    d.build = d.lookupOf [] ∧
      ∃ (outcome : Except Failure Upsert) (t' : Traced σ),
        (traced s d).updateOrInsert search update (some t) = (outcome, some t') ∧
          updateOrInsert ⟨some s, d⟩ search update (some t.store) = (outcome, some t'.store) ∧
          s.Upserts lookup change addition t outcome t' ∧
          (t' = t ∨ ∃ st, lookup = .ok st ∧ (t.Prepared t' [st.sql] ∨
            (∃ u, change st = .ok u ∧ t.Prepared t' [st.sql, u.sql]) ∨
              ∃ i, addition = .ok i ∧ t.Prepared t' [st.sql, i.sql])) := by
  intro d lookup change addition
  have reads : d.ReadsOnly := Draft.reads_applyAll setters
  obtain ⟨outcome, t', run, upserts⟩ := updateOrInsert_some s reads search update t
  have plain := mirrored_updateOrInsert s d search update (some t)
  rw [run] at plain
  exact ⟨Draft.build_eq_lookupOf reads, outcome, t', run, plain, upserts, upserts.prepared⟩

example :
    let d := ((Draft.empty.table "t").equals "a" (.int 1)).joinRaw .left "u ON u.t = t.a"
    let q := traced (Scripted.session "mock") d
    (q.updateOrInsert (.ofList [("c", .int 3)]) (.ofList [("d", .raw "NOW()")]) (some { store := {} })).2.map
        (fun t => (preparedBy t.calls, boundBy t.calls)) =
      some (["SELECT * FROM t LEFT JOIN u ON u.t = t.a WHERE a = ? AND c = ?",
        "INSERT INTO t (c, d) VALUES (?, NOW())"],
        [.int 1, .int 3, .int 3]) := by rfl

end Query
end SqlDraft
