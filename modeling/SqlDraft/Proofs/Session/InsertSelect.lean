import SqlDraft.Proofs.Session.Dependence

/-!
# Inserting what a query gives

An insert of the rows of a query is that query behind a list of columns: its text is the query's, it binds what
the query binds, and of the two drafts nothing else matters (`query_inserted`). What may be wrong with
either of them is looked for in a fixed order.
-/

namespace SqlDraft
namespace Draft

variable {d sub : Draft}

/-! ## The query -/

/-- Only values are bound, and no expressions. -/
def Bound (d : Draft) : Prop := boundValues (d.bindings.of .filter) = d.bindings.of .filter

theorem bound_addCondition (bound : d.Bound) (connective : Connective) (predicate : Predicate) :
    (d.addCondition connective predicate).Bound := by
  have added : (d.addCondition connective predicate).bindings.of .filter =
      d.bindings.of .filter ++ boundValues predicate.values := Bindings.of_addAll d.bindings .filter _
  rw [Bound, added, boundValues_append, bound, boundValues_boundValues]

theorem bound_apply (bound : d.Bound) (s : Setter) : (d.apply s).Bound := by
  rcases d.apply_cases s with ⟨connective, predicate, added⟩ | rfl | ⟨_, bindings⟩
  · rw [added]
    exact bound_addCondition bound connective predicate
  · exact (rfl : Draft.empty.Bound)
  · rw [Bound, bindings]
    exact bound

theorem bound_applyAll (bound : d.Bound) (setters : List Setter) : (d.applyAll setters).Bound :=
  applyAll_keeps bound fun _ bound s _ => bound_apply bound s

/-- What a query binds can be bound again as it is. -/
theorem boundValues_params (reads : sub.ReadsOnly) (bound : sub.Bound) : boundValues sub.params = sub.params := by
  rw [params_of_reads reads]
  exact bound

theorem toSql_of_reads (reads : sub.ReadsOnly) :
    sub.toSql = (unlessRefused sub.rejection (Selection.template ⟨sub.clauses, none⟩)).map Template.sql := by
  rw [toSql, template_eq, reads.purpose]
  rfl

/-- A draft that reads rows is always a query, so only a refused operator is in its way. -/
theorem insertSource_query {columns : List String} {make : Draft → Draft} (reads : (make .empty).ReadsOnly) :
    insertSource (.query columns make) = match (make .empty).rejection with
      | some cause => .error (.subqueryRejected cause)
      | none => .ok (.query columns ⟨(make .empty).clauses, none⟩, (make .empty).params) := by
  rw [insertSource]
  cases refused : (make .empty).rejection with
  | some cause => rfl
  | none => simp [reads.purpose]

/-! ## The insert -/

/-- What may be wrong with an insert of what a query gives, in the order in which it is looked for: an operator that
the query refused, one that the insert refused, a table that is missing, conditions, and all that is wrong
with the query otherwise. -/
def complaints (d sub : Draft) : List (Option UsageError) :=
  [sub.rejection.map .subqueryRejected, d.rejection.map .rejected,
    if lacksTable d.clauses.table then some (.noTable .insert) else none,
    if d.clauses.conditions = [] then none else some .insertWithConditions, failureOf? sub.toSql]

/-- How an insert of what a query gives ends: with the first complaint if there is one, and otherwise with the text
of the query behind the columns and with the values of the query. -/
def InsertsQuery (d sub : Draft) (columns : List String) (result : Except UsageError Statement) : Prop :=
  match (complaints d sub).findSome? id with
  | some e => result = .error e
  | none => ∃ table sql, d.clauses.table = some table ∧ sub.toSql = .ok sql ∧
    result = .ok ⟨"INSERT INTO " ++ table ++ " (" ++ String.intercalate ", " columns ++ ") " ++ sql, sub.params⟩

theorem insertTemplate_of_fails {c : Clauses} {source : InsertSource} {e : UsageError}
    (fails : requireTable .insert c.table = .error e) : insertTemplate c source = .error e := by
  rw [insertTemplate, fails]
  rfl

theorem insertTemplate_of_conditions {c : Clauses} {source : InsertSource} {table : String}
    (passes : requireTable .insert c.table = .ok table) (conditional : c.conditions ≠ []) :
    insertTemplate c source = .error .insertWithConditions := by
  simp only [insertTemplate, passes, List.isEmpty_eq_false_iff.mpr conditional]
  rfl

theorem insertTemplate_query {c : Clauses} {columns : List String} {s : Selection} {table : String}
    (passes : requireTable .insert c.table = .ok table) (unconditional : c.conditions = []) :
    insertTemplate c (.query columns s) = s.template.map (.text (insertHead table columns) :: ·) := by
  simp only [insertTemplate, passes, unconditional]
  cases s.template <;> rfl

/-- The insert binds what the query binds, and what its own conditions bind. -/
theorem insertStatement_query {columns : List String} {make : Draft → Draft} (reads : d.ReadsOnly)
    (queries : (make .empty).ReadsOnly) (bound : (make .empty).Bound) :
    d.insertStatement (.query columns make) = match (make .empty).rejection with
      | some cause => .error (.subqueryRejected cause)
      | none => (unlessRefused d.rejection
          (insertTemplate d.clauses (.query columns ⟨(make .empty).clauses, none⟩))).map fun t =>
        ⟨t.sql, (make .empty).params ++ d.bindings.of .filter⟩ := by
  rw [insertStatement_of_reads reads, insertSource_query queries]
  cases (make .empty).rejection with
  | some cause => rfl
  | none =>
    have again := boundValues_params queries bound
    simp only [bind, Except.bind, again]

/-- If neither draft has refused an operator, the complaints are those about the template of the insert. -/
theorem insertsQuery_template (columns : List String) (unfiltered : d.Unfiltered) (queries : sub.ReadsOnly)
    (accepts : sub.rejection = none) (accepted : d.rejection = none) :
    InsertsQuery d sub columns ((insertTemplate d.clauses (.query columns ⟨sub.clauses, none⟩)).map fun t =>
      ⟨t.sql, sub.params ++ d.bindings.of .filter⟩) := by
  have text := toSql_of_reads queries
  rw [accepts, unlessRefused] at text
  rw [InsertsQuery]
  rcases requireTable_cases .insert d.clauses.table with ⟨missing, fails⟩ | ⟨table, there, given, passes⟩
  · have first : (complaints d sub).findSome? id = some (.noTable .insert) := by
      simp [complaints, accepts, accepted, missing]
    rw [first, insertTemplate_of_fails fails]
    rfl
  · by_cases unconditional : d.clauses.conditions = []
    · rw [insertTemplate_query passes unconditional, unfiltered unconditional]
      cases made : Selection.template ⟨sub.clauses, none⟩ with
      | error e =>
        rw [made] at text
        have first : (complaints d sub).findSome? id = some e := by
          simp [complaints, accepts, accepted, there, unconditional, text, failureOf?, Except.map]
        rw [first]
        rfl
      | ok t =>
        rw [made] at text
        have first : (complaints d sub).findSome? id = none := by
          simp [complaints, accepts, accepted, there, unconditional, text, failureOf?, Except.map]
        rw [first]
        refine ⟨table, t.sql, given, text, ?_⟩
        simp [Except.map, Template.sql_cons, Piece.sql, insertHead, commaSeparated]
    · have first : (complaints d sub).findSome? id = some .insertWithConditions := by
        simp [complaints, accepts, accepted, there, unconditional]
      rw [first, insertTemplate_of_conditions passes unconditional]
      rfl

theorem insertsQuery_insertStatement (columns : List String) (make : Draft → Draft) (reads : d.ReadsOnly)
    (unfiltered : d.Unfiltered) (queries : (make .empty).ReadsOnly) (bound : (make .empty).Bound) :
    InsertsQuery d (make .empty) columns (d.insertStatement (.query columns make)) := by
  rw [insertStatement_query reads queries bound]
  cases refused : (make .empty).rejection with
  | some cause =>
    have first : (complaints d (make .empty)).findSome? id = some (.subqueryRejected cause) := by
      simp [complaints, refused]
    rw [InsertsQuery, first]
  | none =>
    cases refuses : d.rejection with
    | some cause =>
      have first : (complaints d (make .empty)).findSome? id = some (.rejected cause) := by
        simp [complaints, refused, refuses]
      rw [InsertsQuery, first]
      rfl
    | none => exact insertsQuery_template columns unfiltered queries refused refuses

/-- A query has no other complaints than a refused operator and a missing table. -/
theorem toSql_eq_error (reads : sub.ReadsOnly) {e : UsageError} (fails : sub.toSql = .error e) :
    (∃ cause, e = .rejected cause) ∨ e = .noTable .select := by
  rw [toSql_of_reads reads] at fails
  cases refused : sub.rejection with
  | some cause =>
    rw [refused] at fails
    cases fails
    exact .inl ⟨cause, rfl⟩
  | none =>
    rw [refused, unlessRefused, Selection.template] at fails
    rcases requireTable_cases .select (sub.clauses.source <|> sub.clauses.table) with ⟨_, missing⟩ | ⟨table, _, _, found⟩
    · rw [missing] at fails
      cases fails
      exact .inr rfl
    · rw [found] at fails
      cases fails

theorem InsertsQuery.ne_notSelect {columns : List String} {result : Except UsageError Statement}
    (inserts : InsertsQuery d sub columns result) (queries : sub.ReadsOnly) : result ≠ .error .subqueryNotSelect := by
  rintro rfl
  rw [InsertsQuery] at inserts
  split at inserts
  · next e first =>
    cases inserts
    obtain ⟨complaint, listed, same⟩ := List.exists_of_findSome?_eq_some first
    simp only [complaints, List.mem_cons, List.not_mem_nil, or_false] at listed
    rcases listed with rfl | rfl | rfl | rfl | rfl
    · simp at same
    · simp at same
    · simp at same
    · simp at same
    · cases text : sub.toSql with
      | ok sql => simp [text, failureOf?] at same
      | error e =>
        rcases toSql_eq_error queries text with ⟨cause, rfl⟩ | rfl
        · simp [text, failureOf?] at same
        · simp [text, failureOf?] at same
  · obtain ⟨_, _, _, _, same⟩ := inserts
    cases same

end Draft

namespace Query

variable {σ : Type}

/-- Whatever setters made a draft, whatever the columns, and whatever query is made on a fresh draft on the same
connection: the insert of its rows ends as the complaints about the two have it, and without any it is the text
of the query behind the columns, with the values of the query and no others. It never complains that it was given
something else than a query. -/
theorem query_inserted (session : Option (Session σ)) (setters : List Setter) (columns : List String)
    (make : Query σ → Query σ) (made : ∃ given, (make ⟨session, .empty⟩).draft = Draft.empty.applyAll given) :
    let q : Query σ := ⟨session, Draft.empty.applyAll setters⟩
    let sub := (make q.fresh).draft
    let inserted := q.draft.insertStatement (.query columns fun d => (make { q with draft := d }).draft)
    q.draft.InsertsQuery sub columns inserted ∧
      (∀ cause, sub.rejection = some cause → ∃ e, inserted = .error e ∧
        e.message = "INSERT ... SELECT sub-query: " ++ cause.message) ∧
      sub.verb = .select ∧ inserted ≠ .error .subqueryNotSelect := by
  intro q sub inserted
  obtain ⟨given, same⟩ := made
  have queries : sub.ReadsOnly := by
    change (make ⟨session, .empty⟩).draft.ReadsOnly
    rw [same]
    exact Draft.reads_applyAll given
  have bound : sub.Bound := by
    change (make ⟨session, .empty⟩).draft.Bound
    rw [same]
    exact Draft.bound_applyAll (rfl : Draft.empty.Bound) given
  have inserts : q.draft.InsertsQuery sub columns inserted :=
    Draft.insertsQuery_insertStatement columns (fun d => (make { q with draft := d }).draft)
      (Draft.reads_applyAll setters) (Draft.unfiltered_applyAll (fun _ => rfl) setters) queries bound
  refine ⟨inserts, ?_, ?_, inserts.ne_notSelect queries⟩
  · intro cause refused
    have first : (q.draft.complaints sub).findSome? id = some (.subqueryRejected cause) := by
      simp [Draft.complaints, refused]
    rw [Draft.InsertsQuery, first] at inserts
    exact ⟨_, inserts, rfl⟩
  · rw [Draft.verb, queries.purpose]
    rfl

/-- A query that binds a value, behind columns of other names; of the draft only the table is used. -/
theorem query_inserted_archive :
    let setters : List Setter := [.table "archive", .select ["x"], .limit 1]
    let given : List Setter := [.table "posts", .select ["id", "title"], .compare .and "at" "<" (.text "2020")]
    let q : Query Unit := ⟨none, Draft.empty.applyAll setters⟩
    let make : Query Unit → Query Unit := fun q => q.withDraft (·.applyAll given)
    (∃ given, (make ⟨none, .empty⟩).draft = Draft.empty.applyAll given) ∧
      q.draft.insertStatement (.query ["a", "b"] fun d => (make { q with draft := d }).draft) =
        .ok ⟨"INSERT INTO archive (a, b) SELECT id, title FROM posts WHERE at < ?", [.text "2020"]⟩ := by
  intro setters given q make
  have made : ∃ given, (make ⟨none, .empty⟩).draft = Draft.empty.applyAll given := ⟨given, rfl⟩
  have right : (q.draft.complaints (Draft.empty.applyAll given)).findSome? id = none := by decide
  have inserts := (query_inserted none setters ["a", "b"] make made).1
  rw [Draft.InsertsQuery] at inserts
  split at inserts
  · next e wrong => cases right.symm.trans wrong
  · obtain ⟨table, sql, named, text, done⟩ := inserts
    cases named
    have same : sql = "SELECT id, title FROM posts WHERE at < ?" := (Except.ok.inj text).symm
    rw [same] at done
    exact ⟨made, done⟩

end Query
end SqlDraft
