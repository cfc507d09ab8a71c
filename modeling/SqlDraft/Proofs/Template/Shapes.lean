import SqlDraft.Draft.Staging

/-!
# The shapes of statements

What a statement in pieces looks like if there is one: each kind of statement names a table that is not
blank, and has its clauses in a fixed order behind it. Later proofs take a template apart by these
shapes and never by its definition.
-/

namespace SqlDraft

namespace Template

theorem sql_cons (p : Piece) (t : Template) : sql (p :: t) = p.sql ++ sql t := by
  rw [sql, List.map_cons, String.join_cons]
  rfl

theorem sql_append (t u : Template) : sql (t ++ u) = sql t ++ sql u := by
  rw [sql, List.map_append, String.join_append]
  rfl

end Template

/-- A computation in two steps succeeds if both steps do. -/
theorem bind_eq_ok {ε α β : Type} {x : Except ε α} {f : α → Except ε β} {b : β} :
    x >>= f = .ok b ↔ ∃ a, x = .ok a ∧ f a = .ok b := by
  cases x with
  | error e =>
    constructor
    · intro ok; cases ok
    · rintro ⟨a, ok, _⟩; cases ok
  | ok a =>
    constructor
    · intro ok; exact ⟨a, rfl, ok⟩
    · rintro ⟨a', ok, then_ok⟩; cases ok; exact then_ok

theorem map_eq_ok {ε α β : Type} {x : Except ε α} {f : α → β} {b : β} :
    x.map f = .ok b ↔ ∃ a, x = .ok a ∧ f a = b := by
  cases x with
  | error e => simp [Except.map]
  | ok a => simp [Except.map]

/-- The table of a statement is the one that was given. -/
theorem requireTable_eq_ok {verb : Verb} {given : Option String} {table : String}
    (ok : requireTable verb given = .ok table) : given = some table := by
  cases given with
  | none => cases ok
  | some name =>
    simp only [requireTable] at ok
    split at ok
    · cases ok
    · cases ok; rfl

/-- A query selects from its source, or from its table if it has no source. -/
theorem Selection.template_eq_ok {s : Selection} {t : Template} (ok : s.template = .ok t) :
    ∃ table, (s.clauses.source <|> s.clauses.table) = some table ∧
      t = Template.joined " "
        (.ofText ("SELECT " ++ s.projection ++ " FROM " ++ table) ::
          (s.clauses.joinTemplates ++ s.clauses.whereTemplates ++ s.clauses.tailTemplates)) := by
  obtain ⟨table, given, rest⟩ := bind_eq_ok.mp ok
  cases rest
  exact ⟨table, requireTable_eq_ok given, rfl⟩

namespace Draft

/-- No table was given, or a blank one. -/
def lacksTable (given : Option String) : Bool := given.all fun table => Text.isBlankText table.toList

theorem requireTable_cases (verb : Verb) (given : Option String) :
    (lacksTable given = true ∧ requireTable verb given = .error (.noTable verb)) ∨
      ∃ table, lacksTable given = false ∧ given = some table ∧ requireTable verb given = .ok table := by
  cases given with
  | none => exact .inl ⟨rfl, rfl⟩
  | some table =>
    by_cases blank : Text.isBlankText table.toList = true
    · exact .inl ⟨by simp [lacksTable, blank], by simp [requireTable, blank]⟩
    · exact .inr ⟨table, by simp [lacksTable, blank], rfl, by simp [requireTable, blank]⟩

/-- An insert has no conditions, and rows or a query behind its head. -/
theorem insertTemplate_eq_ok {c : Clauses} {source : InsertSource} {t : Template}
    (ok : insertTemplate c source = .ok t) :
    ∃ table, c.table = some table ∧ c.conditions = [] ∧
      ((∃ columns rows, source = .rows columns rows ∧
        t = .text (insertHead table columns ++ "VALUES ") :: Template.joined ", " (rows.map groupTemplate)) ∨
      (∃ columns selection query, source = .query columns selection ∧ selection.template = .ok query ∧
        t = .text (insertHead table columns) :: query)) := by
  obtain ⟨table, given, rest⟩ := bind_eq_ok.mp ok
  refine ⟨table, requireTable_eq_ok given, ?_⟩
  cases conditions : c.conditions with
  | cons first others =>
    simp [conditions] at rest
    cases rest
  | nil =>
    refine ⟨rfl, ?_⟩
    simp only [conditions, List.isEmpty_nil, Bool.not_true, Bool.false_eq_true, if_false] at rest
    cases source with
    | rows columns rows =>
      simp only at rest
      by_cases empty : columns.isEmpty || rows.isEmpty
      · simp only [empty, if_true] at rest
        cases rest
      · simp only [empty] at rest
        cases rest
        exact .inl ⟨columns, rows, rfl, rfl⟩
    | query columns selection =>
      obtain ⟨query, made, same⟩ := bind_eq_ok.mp rest
      cases same
      exact .inr ⟨columns, selection, query, rfl, made, rfl⟩

theorem updateTemplate_eq_ok {c : Clauses} {assignments : Record} {t : Template}
    (ok : updateTemplate c assignments = .ok t) :
    ∃ table, c.table = some table ∧
      t = Template.joined " "
        (.ofText ("UPDATE " ++ table) ::
          (c.joinTemplates ++
            [.text "SET " :: Template.joined ", " (assignments.entries.map assignmentTemplate)] ++
            c.whereTemplates)) := by
  obtain ⟨table, given, rest⟩ := bind_eq_ok.mp ok
  refine ⟨table, requireTable_eq_ok given, ?_⟩
  by_cases empty : assignments.isEmpty
  · simp only [empty, if_true] at rest
    cases rest
  · simp only [empty] at rest
    cases rest
    rfl

theorem deleteTemplate_eq_ok {c : Clauses} {t : Template} (ok : deleteTemplate c = .ok t) :
    ∃ table, c.table = some table ∧
      t = Template.joined " " (.ofText ("DELETE FROM " ++ table) :: (c.joinTemplates ++ c.whereTemplates)) := by
  obtain ⟨table, given, rest⟩ := bind_eq_ok.mp ok
  cases rest
  exact ⟨table, requireTable_eq_ok given, rfl⟩

/-- A draft with a statement has refused no operator. -/
theorem template_eq_ok {d : Draft} {t : Template} (ok : d.template = .ok t) :
    d.rejection = none ∧
      match d.purpose with
      | .select aggregate => Selection.template ⟨d.clauses, aggregate⟩ = .ok t
      | .insert source => insertTemplate d.clauses source = .ok t
      | .update assignments => updateTemplate d.clauses assignments = .ok t
      | .delete => deleteTemplate d.clauses = .ok t := by
  rw [template] at ok
  cases refused : d.rejection with
  | some cause => simp [refused] at ok
  | none =>
    simp only [refused] at ok
    refine ⟨rfl, ?_⟩
    cases purpose : d.purpose with
    | select aggregate => simpa only [purpose] using ok
    | insert source => simpa only [purpose] using ok
    | update assignments => simpa only [purpose] using ok
    | delete => simpa only [purpose] using ok

theorem build_eq (d : Draft) : d.build = d.template.map fun t => ⟨t.sql, d.params⟩ := by
  rw [build, toSql]
  cases d.template with
  | error e => rfl
  | ok t => rfl

theorem build_eq_ok {d : Draft} {st : Statement} (ok : d.build = .ok st) :
    ∃ t, d.template = .ok t ∧ st = ⟨t.sql, d.params⟩ := by
  rw [build_eq] at ok
  obtain ⟨t, made, same⟩ := map_eq_ok.mp ok
  exact ⟨t, made, same.symm⟩

end Draft
end SqlDraft
