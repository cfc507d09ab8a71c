import SqlDraft.Proofs.Template.Shapes

/-!
# The slots of a statement

Which values a statement in pieces has slots for, and in which order: the conditions' values in the
order of the conditions (`slots_whereTemplates`), and before them what the statement writes, row by row
(`slots_template`). Expressions have no slot anywhere.
-/

namespace SqlDraft

/-- The values that are bound, in their order: all but expressions. -/
def boundValues (vs : List Value) : List Value := vs.filter (!·.isRaw)

@[simp] theorem boundValues_nil : boundValues [] = [] := rfl

@[simp] theorem boundValues_append (vs ws : List Value) :
    boundValues (vs ++ ws) = boundValues vs ++ boundValues ws := List.filter_append ..

theorem boundValues_cons (v : Value) (vs : List Value) :
    boundValues (v :: vs) = boundValues [v] ++ boundValues vs := boundValues_append [v] vs

theorem boundValues_boundValues (vs : List Value) : boundValues (boundValues vs) = boundValues vs := by
  simp [boundValues]

theorem isRaw_of_mem_boundValues {v : Value} {vs : List Value} (member : v ∈ boundValues vs) :
    v.isRaw = false := by
  have kept := (List.mem_filter.mp member).2
  simpa using kept

namespace Template

@[simp] theorem slots_nil : slots [] = [] := rfl

@[simp] theorem slots_text (s : String) (t : Template) : slots (.text s :: t) = slots t := rfl

@[simp] theorem slots_slot (v : Value) (t : Template) : slots (.slot v :: t) = v :: slots t := rfl

@[simp] theorem slots_ofText (s : String) : slots (ofText s) = [] := rfl

@[simp] theorem slots_append (t u : Template) : slots (t ++ u) = slots t ++ slots u := List.filterMap_append

@[simp] theorem slots_ofValue (v : Value) (t : Template) :
    slots (Piece.ofValue v :: t) = boundValues [v] ++ slots t := by
  cases v with
  | raw sql => rfl
  | _ => rfl

/-- Texts between templates add no slot. -/
theorem slots_joined (between : String) (ts : List Template) : slots (joined between ts) = ts.flatMap slots := by
  induction ts with
  | nil => rfl
  | cons t rest ih =>
    cases rest with
    | nil => simp [joined]
    | cons u more =>
      rw [joined, slots_append, slots_text, ih]
      · rfl
      · simp

theorem slots_ofValues (vs : List Value) : slots (ofValues vs) = boundValues vs := by
  rw [ofValues, slots_joined]
  induction vs with
  | nil => rfl
  | cons v rest ih =>
    rw [List.map_cons, List.flatMap_cons, ih, slots_ofValue, boundValues_cons v rest]
    simp

end Template

open Template

/-! ## Clauses -/

theorem Predicate.slots_template (p : Predicate) : slots p.template = boundValues p.values := by
  cases p with
  | raw sql => rfl
  | compare column op v => simp [Predicate.template, Predicate.values]
  | between column low high =>
    simp only [Predicate.template, Predicate.values, slots_text, slots_ofValue, slots_nil, List.append_nil]
    exact (boundValues_append [low] [high]).symm
  | isIn column vs negated =>
    cases vs with
    | nil => rfl
    | cons v rest => simp [Predicate.template, Predicate.values, slots_ofValues]

namespace Clauses

/-- The values of the conditions, in the order in which a statement names them. -/
def conditionValues (c : Clauses) : List Value := c.conditions.flatMap (·.predicate.values)

theorem slots_furtherConditions (cs : List Condition) :
    slots (furtherConditions cs) = boundValues (cs.flatMap (·.predicate.values)) := by
  induction cs with
  | nil => rfl
  | cons c rest ih => simp [furtherConditions, Predicate.slots_template, ih]

theorem slots_whereTemplates (c : Clauses) : c.whereTemplates.flatMap slots = boundValues c.conditionValues := by
  rw [whereTemplates, conditionValues]
  cases c.conditions with
  | nil => rfl
  | cons first rest => simp [Predicate.slots_template, slots_furtherConditions]

/-- Joins compare columns and bind nothing. -/
theorem slots_joinTemplates (c : Clauses) : c.joinTemplates.flatMap slots = [] := by
  rw [joinTemplates]
  split
  · rfl
  · rfl

theorem slots_tailTemplates (c : Clauses) : c.tailTemplates.flatMap slots = [] := by
  simp only [tailTemplates, List.flatMap_append, List.append_eq_nil_iff]
  refine ⟨⟨⟨?_, ?_⟩, ?_⟩, ?_⟩
  · split <;> rfl
  · split <;> rfl
  · cases c.limit <;> rfl
  · cases c.offset <;> rfl

end Clauses

/-! ## Statements -/

/-- A query has slots for the values of its conditions. -/
theorem Selection.slots_template {s : Selection} {t : Template} (ok : s.template = .ok t) :
    slots t = boundValues s.clauses.conditionValues := by
  obtain ⟨table, _, rfl⟩ := Selection.template_eq_ok ok
  simp [slots_joined, Clauses.slots_joinTemplates, Clauses.slots_whereTemplates, Clauses.slots_tailTemplates]

/-- The values that an insert from this source names: rows one after the other, or the values of a
query's conditions. -/
def InsertSource.named : InsertSource → List Value
  | .rows _ groups => groups.flatten
  | .query _ selection => selection.clauses.conditionValues

/-- What a statement names as values to insert. -/
def Purpose.inserted : Purpose → List Value
  | .insert source => source.named
  | _ => []

/-- What a statement names as values to assign. -/
def Purpose.assigned : Purpose → List Value
  | .update assignments => assignments.values
  | _ => []

namespace Draft

/-- All values that a draft's statement names: those it inserts, those it assigns, and those of its
conditions. -/
def named (d : Draft) : List Value := d.purpose.inserted ++ d.purpose.assigned ++ d.clauses.conditionValues

theorem slots_groupTemplate (vs : List Value) : slots (groupTemplate vs) = boundValues vs := by
  simp [groupTemplate, slots_ofValues]

theorem slots_assignmentTemplate (e : String × Value) : slots (assignmentTemplate e) = boundValues [e.2] := by
  simp [assignmentTemplate]

theorem slots_groups (rows : List (List Value)) :
    (rows.map groupTemplate).flatMap slots = boundValues rows.flatten := by
  induction rows with
  | nil => rfl
  | cons row rest ih =>
    rw [List.map_cons, List.flatMap_cons, ih, slots_groupTemplate, List.flatten_cons, boundValues_append]

theorem slots_insertTemplate {c : Clauses} {source : InsertSource} {t : Template}
    (ok : insertTemplate c source = .ok t) : c.conditions = [] ∧ slots t = boundValues source.named := by
  obtain ⟨table, _, noConditions, ⟨columns, rows, rfl, rfl⟩ | ⟨columns, selection, query, rfl, made, rfl⟩⟩ :=
    insertTemplate_eq_ok ok
  · refine ⟨noConditions, ?_⟩
    rw [slots_text, slots_joined, InsertSource.named, slots_groups]
  · refine ⟨noConditions, ?_⟩
    rw [slots_text]
    exact Selection.slots_template made

theorem slots_updateTemplate {c : Clauses} {assignments : Record} {t : Template}
    (ok : updateTemplate c assignments = .ok t) :
    slots t = boundValues (assignments.values ++ c.conditionValues) := by
  obtain ⟨table, _, rfl⟩ := updateTemplate_eq_ok ok
  have assigned : (assignments.entries.map assignmentTemplate).flatMap slots = boundValues assignments.values := by
    rw [Record.values]
    induction assignments.entries with
    | nil => rfl
    | cons e rest ih =>
      rw [List.map_cons, List.map_cons, List.flatMap_cons, ih, slots_assignmentTemplate, ← boundValues_cons]
  simp [slots_joined, Clauses.slots_joinTemplates, Clauses.slots_whereTemplates, assigned]

theorem slots_deleteTemplate {c : Clauses} {t : Template} (ok : deleteTemplate c = .ok t) :
    slots t = boundValues c.conditionValues := by
  obtain ⟨table, _, rfl⟩ := deleteTemplate_eq_ok ok
  simp [slots_joined, Clauses.slots_joinTemplates, Clauses.slots_whereTemplates]

/-- A statement has slots for what its draft names, in the same order. -/
theorem slots_template {d : Draft} {t : Template} (ok : d.template = .ok t) : slots t = boundValues d.named := by
  obtain ⟨_, shape⟩ := template_eq_ok ok
  rw [named]
  cases purpose : d.purpose with
  | select aggregate =>
    rw [purpose] at shape
    exact Selection.slots_template shape
  | insert source =>
    rw [purpose] at shape
    obtain ⟨noConditions, values⟩ := slots_insertTemplate shape
    simp [values, Purpose.inserted, Purpose.assigned, Clauses.conditionValues, noConditions]
  | update assignments =>
    rw [purpose] at shape
    exact slots_updateTemplate shape
  | delete =>
    rw [purpose] at shape
    exact slots_deleteTemplate shape

end Draft
end SqlDraft
