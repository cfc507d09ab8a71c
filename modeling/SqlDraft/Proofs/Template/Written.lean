import SqlDraft.Proofs.Template.Unambiguous

/-!
# Statements written out

The text of a query, of an update and of an insert of one row, said of the clauses and the values and not of templates.
Each is made just if nothing is wrong with it: a query needs a table, an update a table and something to
assign, an insert a column and a table (`selection_written`, `update_written`, `insert_written`).
-/

namespace SqlDraft

/-- What was made, or the first of some complaints if there is one. -/
def unlessWrong {α : Type} (complaints : List (Option UsageError)) (made : α) : Except UsageError α :=
  match complaints.findSome? id with
  | some e => .error e
  | none => .ok made

theorem map_unlessWrong {α β : Type} (complaints : List (Option UsageError)) (made : α) (f : α → β) :
    (unlessWrong complaints made).map f = unlessWrong complaints (f made) := by
  rw [unlessWrong, unlessWrong]
  cases complaints.findSome? id <;> rfl

/-! ## Values and conditions -/

/-- What stands for a value: an expression itself, and a question mark for any other value. -/
def Value.mark : Value → String
  | .raw sql => sql
  | _ => "?"

theorem Piece.sql_ofValue (v : Value) : (Piece.ofValue v).sql = v.mark := by
  cases v <;> rfl

namespace Template

theorem sql_ofText (text : String) : sql (ofText text) = text := by
  rw [ofText, sql_cons]
  exact String.append_empty ..

theorem sql_pair (text : String) (v : Value) : sql [.text text, .ofValue v] = text ++ v.mark := by
  rw [sql_cons, sql_cons, Piece.sql_ofValue]
  exact congrArg (text ++ ·) (String.append_empty ..)

theorem sql_joined (between : String) (ts : List Template) :
    sql (joined between ts) = String.intercalate between (ts.map sql) := by
  induction ts with
  | nil => rfl
  | cons t rest ih =>
    cases rest with
    | nil => exact String.intercalate_singleton.symm
    | cons u rest =>
      rw [joined_cons_cons, sql_append, sql_cons, ih, List.map_cons, List.map_cons, List.map_cons,
        String.intercalate_cons_cons, String.append_assoc]
      rfl

theorem sql_ofValues (vs : List Value) : sql (ofValues vs) = String.intercalate ", " (vs.map Value.mark) := by
  have marks : (fun v : Value => sql [Piece.ofValue v]) = Value.mark := by
    funext v
    rw [sql_cons, Piece.sql_ofValue]
    exact String.append_empty ..
  rw [ofValues, sql_joined, List.map_map]
  exact congrArg (fun f => String.intercalate ", " (vs.map f)) marks

end Template

/-- A condition as it is written. -/
def Predicate.written : Predicate → String
  | raw sql => sql
  | compare column op v => column ++ " " ++ op.sql ++ " " ++ v.mark
  | isIn _ [] negated => if negated then "1=1" else "1=0"
  | isIn column vs negated =>
    column ++ (if negated then " NOT IN (" else " IN (") ++ String.intercalate ", " (vs.map Value.mark) ++ ")"
  | between column low high => column ++ " BETWEEN " ++ low.mark ++ " AND " ++ high.mark

theorem Predicate.sql_eq_written (p : Predicate) : p.template.sql = p.written := by
  cases p with
  | raw sql => exact Template.sql_ofText sql
  | compare column op v => exact Template.sql_pair _ v
  | between column low high =>
    rw [template, Template.sql_cons, Template.sql_cons, Template.sql_pair, Piece.sql_ofValue]
    simp only [Piece.sql, written, String.append_assoc]
  | isIn column vs negated =>
    cases vs with
    | nil => exact Template.sql_ofText _
    | cons v rest =>
      rw [template, Template.sql_cons, Template.sql_append, Template.sql_ofValues]
      · simp only [Piece.sql, written, Template.sql, List.map_cons, List.map_nil, String.join_cons, String.join_nil,
          String.append_assoc, String.append_empty]
      · exact List.cons_ne_nil v rest

/-- A condition as it is written, and how it is tied to the one before it. -/
def Condition.written (x : Condition) : Connective × String := (x.connective, x.predicate.written)

/-- The conditions of a statement: the first one behind `WHERE`, and each of the others behind its connective. -/
def writtenWhere : List (Connective × String) → String
  | [] => ""
  | (_, first) :: rest =>
    " WHERE " ++ first ++ String.join (rest.map fun
      | (.and, text) => " AND " ++ text
      | (.or, text) => " OR " ++ text)

namespace Clauses

theorem whereText_eq_written (c : Clauses) : c.whereText = writtenWhere (c.conditions.map Condition.written) := by
  have further (x : Condition) : furtherText x = match x.written with
      | (.and, text) => " AND " ++ text
      | (.or, text) => " OR " ++ text := by
    rw [furtherText, Predicate.sql_eq_written, Condition.written]
    cases x.connective <;> rfl
  rw [whereText]
  cases c.conditions with
  | nil => rfl
  | cons first rest =>
    rw [writeClause, Predicate.sql_eq_written, writeAll, List.map_cons, Condition.written, writtenWhere, List.map_map,
      String.append_assoc, funext further]
    rfl

/-! ## Statements -/

/-- A query of some clauses, with some conditions. -/
def writtenQuery (c : Clauses) (conditions : List (Connective × String)) : String :=
  String.join
    ["SELECT ", if c.distinct then "DISTINCT " else "", if c.columns = [] then "*" else String.intercalate ", " c.columns,
      " FROM ", (c.source <|> c.table).getD "", c.joinText, writtenWhere conditions,
      c.groupText, c.orderText, c.limitText, c.offsetText]

/-- An update of what some clauses are about, with some conditions. -/
def writtenUpdate (c : Clauses) (assignments : List (String × Value)) (conditions : List (Connective × String)) :
    String :=
  String.join
    ["UPDATE ", c.table.getD "", c.joinText,
      " SET ", String.intercalate ", " (assignments.map fun e => e.1 ++ " = " ++ e.2.mark), writtenWhere conditions]

/-- An insert of one row into a table. -/
def writtenInsert (table : Option String) (row : List (String × Value)) : String :=
  String.join
    ["INSERT INTO ", table.getD "", " (", String.intercalate ", " (row.map Prod.fst),
      ") VALUES (", String.intercalate ", " (row.map fun e => e.2.mark), ")"]

end Clauses

open Draft (lacksTable requireTable_cases)

theorem Selection.projection_written (c : Clauses) :
    Selection.projection ⟨c, none⟩ = (if c.distinct then "DISTINCT " else "") ++
      (if c.columns = [] then "*" else String.intercalate ", " c.columns) := by
  rw [Selection.projection]
  cases c.distinct with
  | true => cases c.columns <;> rfl
  | false => cases c.columns <;> rfl

theorem Selection.sql_written {c : Clauses} {t : Template} (ok : Selection.template ⟨c, none⟩ = .ok t) :
    t.sql = c.writtenQuery (c.conditions.map Condition.written) := by
  obtain ⟨table, given, text⟩ := Selection.sql_eq_ok ok
  have named : (c.source <|> c.table).getD "" = table := congrArg (·.getD "") given
  have behind : t.sql =
      "SELECT " ++ (Selection.projection ⟨c, none⟩ ++ (" FROM " ++ (table ++ c.behindTable))) := text
  rw [behind, Clauses.writtenQuery, named, Selection.projection_written, Clauses.behindTable,
    Clauses.whereText_eq_written]
  simp only [String.join_cons, String.join_nil, String.append_empty, String.append_assoc]

theorem selection_written (c : Clauses) :
    (Selection.template ⟨c, none⟩).map Template.sql =
      unlessWrong [if lacksTable (c.source <|> c.table) then some (.noTable .select) else none]
        (c.writtenQuery (c.conditions.map Condition.written)) := by
  rcases requireTable_cases .select (c.source <|> c.table) with ⟨lacks, fails⟩ | ⟨table, there, given, passes⟩
  · rw [if_pos lacks, Selection.template, fails]
    rfl
  · rw [if_neg (Bool.eq_false_iff.mp there)]
    have made : ∃ t, Selection.template ⟨c, none⟩ = .ok t := ⟨_, by rw [Selection.template, passes]; rfl⟩
    obtain ⟨t, ok⟩ := made
    rw [ok]
    exact congrArg Except.ok (Selection.sql_written ok)

/-- The clauses behind a table in an update, with a blank before each. -/
theorem spaced_update (c : Clauses) (r : Record) :
    Clauses.spaced (c.joinTemplates ++
        [.text "SET " :: Template.joined ", " (r.entries.map Draft.assignmentTemplate)] ++ c.whereTemplates) =
      c.joinText ++ (" SET " ++ String.intercalate ", " (r.entries.map fun e => e.1 ++ " = " ++ e.2.mark)) ++
        writtenWhere (c.conditions.map Condition.written) := by
  have assigned : Template.sql ∘ Draft.assignmentTemplate = fun e => e.1 ++ " = " ++ e.2.mark := by
    funext e
    exact Template.sql_pair _ e.2
  have set : Clauses.spaced [.text "SET " :: Template.joined ", " (r.entries.map Draft.assignmentTemplate)] =
      " SET " ++ String.intercalate ", " (r.entries.map fun e => e.1 ++ " = " ++ e.2.mark) := by
    rw [Clauses.spaced, List.map_singleton, String.join_cons, String.join_nil, String.append_empty, Template.sql_cons,
      Template.sql_joined, List.map_map, assigned, ← String.append_assoc]
    rfl
  rw [Clauses.spaced_append, Clauses.spaced_append, Clauses.spaced_joins, set, Clauses.spaced_where,
    Clauses.whereText_eq_written]

theorem update_written (c : Clauses) (r : Record) :
    (Draft.updateTemplate c r).map Template.sql =
      unlessWrong [if lacksTable c.table then some (.noTable .update) else none,
          if r.entries = [] then some .updateWithoutColumn else none]
        (c.writtenUpdate r.entries (c.conditions.map Condition.written)) := by
  rcases requireTable_cases .update c.table with ⟨lacks, fails⟩ | ⟨table, there, given, passes⟩
  · rw [if_pos lacks, Draft.updateTemplate, fails]
    rfl
  · rw [if_neg (Bool.eq_false_iff.mp there), Draft.updateTemplate, passes]
    by_cases blank : r.entries = []
    · rw [if_pos blank]
      simp only [Record.isEmpty, blank]
      rfl
    · have assigns : r.isEmpty = false := List.isEmpty_eq_false_iff.mpr blank
      rw [if_neg blank]
      simp only [assigns]
      refine congrArg Except.ok ?_
      rw [Template.sql_joined_cons, Template.sql_ofText]
      refine (congrArg (("UPDATE " ++ table) ++ ·) (spaced_update c r)).trans ?_
      simp only [Clauses.writtenUpdate, given, Option.getD_some, String.join_cons, String.join_nil, String.append_empty,
        String.append_assoc]

theorem sql_groupTemplate (vs : List Value) :
    Template.sql (Draft.groupTemplate vs) = "(" ++ String.intercalate ", " (vs.map Value.mark) ++ ")" := by
  rw [Draft.groupTemplate, Template.sql_cons, Template.sql_append, Template.sql_ofValues, ← String.append_assoc]
  exact congrArg (_ ++ ·) (Template.sql_ofText ")")

/-- An insert of one row needs a column and a table; it has no other clauses. -/
theorem insert_written (table : Option String) (r : Record) :
    (if r.isEmpty then .error .insertWithoutColumn
      else (Draft.insertTemplate { table } (.rows r.columns [r.values])).map Template.sql) =
      unlessWrong [if r.entries = [] then some .insertWithoutColumn else none,
          if lacksTable table then some (.noTable .insert) else none]
        (Clauses.writtenInsert table r.entries) := by
  by_cases blank : r.entries = []
  · have columnless : r.isEmpty = true := List.isEmpty_iff.mpr blank
    rw [if_pos columnless, if_pos blank]
    rfl
  · have written : r.isEmpty = false := List.isEmpty_eq_false_iff.mpr blank
    rw [if_neg blank, if_neg (Bool.eq_false_iff.mp written)]
    rcases requireTable_cases .insert table with ⟨lacks, fails⟩ | ⟨name, there, given, passes⟩
    · rw [if_pos lacks, Draft.insertTemplate, fails]
      rfl
    · have columns : r.columns.isEmpty = false :=
        List.isEmpty_eq_false_iff.mpr fun none => blank (List.map_eq_nil_iff.mp none)
      have made : Draft.insertTemplate { table } (.rows r.columns [r.values]) =
          .ok (.text (Draft.insertHead name r.columns ++ "VALUES ") :: Draft.groupTemplate r.values) := by
        simp only [Draft.insertTemplate, passes, columns]
        rfl
      rw [if_neg (Bool.eq_false_iff.mp there), made, Except.map, Template.sql_cons, sql_groupTemplate]
      refine congrArg Except.ok ?_
      simp only [Piece.sql, Draft.insertHead, commaSeparated, Record.columns, Record.values, Clauses.writtenInsert, given,
        Option.getD_some, List.map_map, String.join_cons, String.join_nil, String.append_empty, String.append_assoc]
      rfl

end SqlDraft
