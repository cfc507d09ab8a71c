import SqlDraft.Proofs.Session.InsertSelect
import SqlDraft.Proofs.Session.Refusal

/-!
# The columns of an insert

An insert lists its columns between parentheses behind the table. Records without a column are refused before
anything else is looked at, but the list in front of a query is not looked at: an insert of what a query gives
is refused without columns just if it is refused with any others (`columns_required_iff`).
-/

namespace SqlDraft

/-- The columns that an insert names: those of the first record, or the ones in front of a query. -/
def InsertPayload.columns : InsertPayload → List String
  | .row r => r.columns
  | .rows [] => []
  | .rows (first :: _) => first.columns
  | .query columns _ => columns

def InsertSource.columns : InsertSource → List String
  | .rows columns _ => columns
  | .query columns _ => columns

namespace Draft

variable {d : Draft} {payload : InsertPayload}

/-! ## What is written -/

theorem columns_insertSource {source : InsertSource} {values : List Value}
    (ok : insertSource payload = .ok (source, values)) : source.columns = payload.columns := by
  have shape := insertSource_eq_ok ok
  cases payload with
  | row r =>
    obtain ⟨found, _⟩ := shape
    obtain ⟨first, rest, split, rfl⟩ := ofRecords_eq_ok found
    cases split
    rfl
  | rows records =>
    obtain ⟨found, _⟩ := shape
    obtain ⟨first, rest, rfl, rfl⟩ := ofRecords_eq_ok found
    rfl
  | query columns make =>
    obtain ⟨_, aggregate, _, rfl, _⟩ := shape
    rfl

theorem sql_insertTemplate {c : Clauses} {source : InsertSource} {t : Template}
    (ok : insertTemplate c source = .ok t) :
    ∃ table rest, c.table = some table ∧ t.sql = insertHead table source.columns ++ rest := by
  obtain ⟨table, given, _, rows | query⟩ := insertTemplate_eq_ok ok
  · obtain ⟨columns, groups, rfl, rfl⟩ := rows
    refine ⟨table, "VALUES " ++ (Template.joined ", " (groups.map groupTemplate)).sql, given, ?_⟩
    rw [Template.sql_cons, Piece.sql, String.append_assoc]
    rfl
  · obtain ⟨columns, selection, select, rfl, _, rfl⟩ := query
    exact ⟨table, select.sql, given, Template.sql_cons _ _⟩

theorem insertStatement_of_complaint {e : UsageError} (complains : insertSource payload = .error e) (d : Draft) :
    d.insertStatement payload = .error e := by
  rw [insertStatement, stageInsert_error complains d]
  rfl

/-- With something to write, an insert ends as its template does. -/
theorem insertStatement_of_source {source : InsertSource} {values : List Value}
    (made : insertSource payload = .ok (source, values)) (d : Draft) :
    ∃ params, d.insertStatement payload = (unlessRefused d.rejection (insertTemplate d.clauses source)).map fun t =>
      ⟨t.sql, params⟩ := by
  obtain ⟨staged, turned, rejection⟩ := stageInsert_ok made d
  have ok : d.staged (.insert payload) = .ok staged := turned
  obtain ⟨source', _, same, purpose⟩ := purpose_staged ok
  rw [made] at same
  cases same
  have built : d.insertStatement payload = staged.build := by
    rw [insertStatement, turned]
    rfl
  refine ⟨staged.params, ?_⟩
  rw [built, build_eq, template_eq, rejection, clauses_staged ok, purpose, purposeTemplate]

theorem sql_insertStatement {st : Statement} (ok : d.insertStatement payload = .ok st) :
    ∃ table rest, d.clauses.table = some table ∧ st.sql = insertHead table payload.columns ++ rest := by
  cases made : insertSource payload with
  | error e =>
    rw [insertStatement_of_complaint made] at ok
    cases ok
  | ok written =>
    obtain ⟨source, values⟩ := written
    obtain ⟨params, ends⟩ := insertStatement_of_source made d
    rw [ends] at ok
    obtain ⟨t, template, rfl⟩ := map_eq_ok.mp ok
    cases refused : d.rejection with
    | some cause => simp [refused, unlessRefused] at template
    | none =>
      rw [refused, unlessRefused] at template
      rw [← columns_insertSource made]
      exact sql_insertTemplate template

/-! ## Records without columns -/

theorem ofRecords_nameless {first : Record} (rest : List Record) (nameless : first.columns = []) :
    InsertSource.ofRecords (first :: rest) = .error .insertWithoutColumn := by
  have blank : first.isEmpty = true := by
    rw [Record.isEmpty, List.isEmpty_iff]
    exact List.map_eq_nil_iff.mp nameless
  rw [InsertSource.ofRecords, if_pos blank]

/-- Records that name no column are refused, whatever the draft. -/
theorem insertStatement_nameless (d : Draft) {records : List Record}
    (literal : payload = .rows records ∨ ∃ r, payload = .row r ∧ records = [r]) (nameless : payload.columns = []) :
    d.insertStatement payload = .error (if records = [] then .insertWithoutRow else .insertWithoutColumn) := by
  refine insertStatement_of_complaint ?_ d
  obtain rfl | ⟨r, rfl, rfl⟩ := literal
  · cases records with
    | nil => rfl
    | cons first rest =>
      rw [insertSource, ofRecords_nameless rest nameless, if_neg (List.cons_ne_nil first rest)]
      rfl
  · rw [insertSource, ofRecords_nameless [] nameless, if_neg (List.cons_ne_nil r [])]
    rfl

/-! ## Queries without columns -/

/-- What is wrong with a query to insert from is wrong whatever columns stand in front of it. -/
theorem insertSource_cases (make : Draft → Draft) :
    (∃ e, ∀ columns, insertSource (.query columns make) = .error e) ∨
      ∃ selection values, ∀ columns, insertSource (.query columns make) = .ok (.query columns selection, values) := by
  cases refused : (make .empty).rejection with
  | some cause => exact .inl ⟨.subqueryRejected cause, fun columns => by simp [insertSource, refused]⟩
  | none =>
    cases purpose : (make .empty).purpose with
    | select aggregate =>
      exact .inr ⟨⟨(make .empty).clauses, aggregate⟩, (make .empty).params,
        fun columns => by simp [insertSource, refused, purpose]⟩
    | insert source => exact .inl ⟨.subqueryNotSelect, fun columns => by simp [insertSource, refused, purpose]⟩
    | update assignments => exact .inl ⟨.subqueryNotSelect, fun columns => by simp [insertSource, refused, purpose]⟩
    | delete => exact .inl ⟨.subqueryNotSelect, fun columns => by simp [insertSource, refused, purpose]⟩

theorem insertTemplate_unread {c : Clauses} {s : Selection} {columns : List String} {e : UsageError}
    (fails : insertTemplate c (.query columns s) = .error e) (others : List String) :
    insertTemplate c (.query others s) = .error e := by
  rcases requireTable_cases .insert c.table with ⟨_, missing⟩ | ⟨table, _, _, passes⟩
  · rw [insertTemplate_of_fails missing] at fails ⊢
    exact fails
  · by_cases unconditional : c.conditions = []
    · rw [insertTemplate_query passes unconditional] at fails ⊢
      cases made : s.template with
      | error e' => simpa [made, Except.map] using fails
      | ok t => simp [made, Except.map] at fails
    · rw [insertTemplate_of_conditions passes unconditional] at fails ⊢
      exact fails

theorem insertStatement_unread {make : Draft → Draft} {columns : List String} {e : UsageError}
    (fails : d.insertStatement (.query columns make) = .error e) (others : List String) :
    d.insertStatement (.query others make) = .error e := by
  rcases insertSource_cases make with ⟨e', wrong⟩ | ⟨selection, values, made⟩
  · rw [insertStatement_of_complaint (wrong columns)] at fails
    rw [insertStatement_of_complaint (wrong others), fails]
  · obtain ⟨params, ends⟩ := insertStatement_of_source (made columns) d
    obtain ⟨params', ends'⟩ := insertStatement_of_source (made others) d
    rw [ends] at fails
    rw [ends']
    cases refused : d.rejection with
    | some cause =>
      rw [refused] at fails
      exact fails
    | none =>
      rw [refused, unlessRefused] at fails
      cases template : insertTemplate d.clauses (.query columns selection) with
      | ok t => simp [template, Except.map] at fails
      | error e' =>
        have still := insertTemplate_unread template others
        rw [template] at fails
        rw [unlessRefused, still]
        exact fails

/-- Whatever the draft and whatever is inserted: a statement that is made lists the columns that were named.
Records that name none are refused. So is a query behind an empty list of columns, just if it is refused
behind every other list too: only then every insert that is made names a column. -/
theorem columns_required_iff (d : Draft) (payload : InsertPayload) :
    (∀ st, d.insertStatement payload = .ok st → ∃ table rest, d.clauses.table = some table ∧
        st.sql = "INSERT INTO " ++ table ++ " (" ++ String.intercalate ", " payload.columns ++ ") " ++ rest) ∧
      (∀ records, payload = .rows records ∨ (∃ r, payload = .row r ∧ records = [r]) → payload.columns = [] →
        d.insertStatement payload = .error (if records = [] then .insertWithoutRow else .insertWithoutColumn)) ∧
      ((payload.columns = [] → ∃ e, d.insertStatement payload = .error e) ↔
        ∀ make, payload = .query [] make → ∀ columns, ∃ e, d.insertStatement (.query columns make) = .error e) := by
  refine ⟨fun st ok => sql_insertStatement ok, fun records literal => insertStatement_nameless d literal, ?_, ?_⟩
  · rintro required make rfl columns
    obtain ⟨e, fails⟩ := required rfl
    exact ⟨e, insertStatement_unread fails columns⟩
  · intro refused nameless
    cases payload with
    | row r => exact ⟨_, insertStatement_nameless d (.inr ⟨r, rfl, rfl⟩) nameless⟩
    | rows records => exact ⟨_, insertStatement_nameless d (.inl rfl) nameless⟩
    | query columns make =>
      cases nameless
      exact refused make rfl []

/-- An insert of what a query gives is made though it names no column. -/
theorem insert_without_column :
    let payload : InsertPayload := .query [] fun d => d.table "s"
    payload.columns = [] ∧
      (Draft.empty.table "t").insertStatement payload = .ok ⟨"INSERT INTO t () SELECT * FROM s", []⟩ :=
  ⟨rfl, rfl⟩

end Draft
end SqlDraft
