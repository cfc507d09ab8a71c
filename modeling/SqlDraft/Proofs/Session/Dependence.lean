import SqlDraft.Proofs.Session.Upsert

/-!
# What a statement depends on

Each kind of statement uses some clauses of a draft and ignores the others: two drafts that agree on the
clauses it uses become the same statement, with the same values, or are refused for the same reason
(`unused_ignored`). An update or a deletion ignores what only queries have, an insert ignores all clauses but its
table and that there must be no condition, and an aggregate ignores the columns that it replaces.
-/

namespace SqlDraft

/-! ## Templates -/

namespace Clauses

variable {c c' : Clauses}

theorem joinTemplates_congr (joins : c.joins = c'.joins) : c.joinTemplates = c'.joinTemplates := by
  rw [joinTemplates, joinTemplates, joins]

theorem whereTemplates_congr (conditions : c.conditions = c'.conditions) :
    c.whereTemplates = c'.whereTemplates := by
  rw [whereTemplates, whereTemplates, conditions]

end Clauses

namespace Draft

theorem updateTemplate_congr {c c' : Clauses} (table : c.table = c'.table) (joins : c.joins = c'.joins)
    (conditions : c.conditions = c'.conditions) (r : Record) : updateTemplate c r = updateTemplate c' r := by
  rw [updateTemplate, updateTemplate, table, Clauses.joinTemplates_congr joins,
    Clauses.whereTemplates_congr conditions]

theorem deleteTemplate_congr {c c' : Clauses} (table : c.table = c'.table) (joins : c.joins = c'.joins)
    (conditions : c.conditions = c'.conditions) : deleteTemplate c = deleteTemplate c' := by
  rw [deleteTemplate, deleteTemplate, table, Clauses.joinTemplates_congr joins,
    Clauses.whereTemplates_congr conditions]

theorem insertTemplate_congr {c c' : Clauses} (table : c.table = c'.table)
    (conditions : c.conditions = [] ↔ c'.conditions = []) (source : InsertSource) :
    insertTemplate c source = insertTemplate c' source := by
  have empty : c.conditions.isEmpty = c'.conditions.isEmpty := by
    rw [Bool.eq_iff_iff, List.isEmpty_iff, List.isEmpty_iff, conditions]
  rw [insertTemplate, insertTemplate, table, empty]

/-- What was made, unless an operator was refused before. -/
def unlessRefused {α : Type} (rejection : Option Rejection) (made : Except UsageError α) : Except UsageError α :=
  match rejection with
  | some cause => .error (.rejected cause)
  | none => made

def purposeTemplate (c : Clauses) : Purpose → Except UsageError Template
  | .select aggregate => Selection.template ⟨c, aggregate⟩
  | .insert source => insertTemplate c source
  | .update assignments => updateTemplate c assignments
  | .delete => deleteTemplate c

theorem template_eq (d : Draft) : d.template = unlessRefused d.rejection (purposeTemplate d.clauses d.purpose) := by
  rw [template]
  cases d.rejection with
  | some cause => rfl
  | none => cases d.purpose <;> rfl

variable {d d' : Draft}

/-- A draft that reads rows has no values to lose when it is turned to another purpose. -/
theorem turnTo_of_reads (reads : d.ReadsOnly) (purpose : Purpose) : d.turnTo purpose = { d with purpose } := by
  have cleared : (d.bindings.clear .insert).clear .assign = d.bindings := by
    obtain ⟨_, inserts, assigns⟩ := reads
    cases bindings : d.bindings
    simp_all [Bindings.of, Bindings.clear, Bindings.modify]
  rw [turnTo, cleared]
  split <;> rfl

/-! ## Updates and deletions -/

/-- Two drafts agree on what an update or a deletion uses. -/
structure AgreeToChange (d d' : Draft) : Prop where
  rejection : d.rejection = d'.rejection
  table : d.clauses.table = d'.clauses.table
  joins : d.clauses.joins = d'.clauses.joins
  conditions : d.clauses.conditions = d'.clauses.conditions
  bindings : d.bindings = d'.bindings

theorem updateStatement_of_reads (reads : d.ReadsOnly) (r : Record) :
    d.updateStatement r = (unlessRefused d.rejection (updateTemplate d.clauses r)).map fun t =>
      ⟨t.sql, boundValues r.values ++ d.bindings.toList⟩ := by
  have params := params_stageUpdate reads r
  rw [stageUpdate, turnTo_of_reads reads] at params
  rw [updateStatement, stageUpdate, turnTo_of_reads reads, build_eq, params, template_eq]
  rfl

theorem deleteStatement_of_reads (reads : d.ReadsOnly) :
    d.deleteStatement = (unlessRefused d.rejection (deleteTemplate d.clauses)).map fun t =>
      ⟨t.sql, d.bindings.toList⟩ := by
  rw [deleteStatement, stageDelete, turnTo_of_reads reads, build_eq, template_eq]
  rfl

theorem updateStatement_congr (reads : d.ReadsOnly) (reads' : d'.ReadsOnly) (agree : d.AgreeToChange d')
    (r : Record) : d.updateStatement r = d'.updateStatement r := by
  rw [updateStatement_of_reads reads, updateStatement_of_reads reads', agree.rejection, agree.bindings,
    updateTemplate_congr agree.table agree.joins agree.conditions]

theorem deleteStatement_congr (reads : d.ReadsOnly) (reads' : d'.ReadsOnly) (agree : d.AgreeToChange d') :
    d.deleteStatement = d'.deleteStatement := by
  rw [deleteStatement_of_reads reads, deleteStatement_of_reads reads', agree.rejection, agree.bindings,
    deleteTemplate_congr agree.table agree.joins agree.conditions]

/-! ## Inserts -/

/-- Two drafts agree on what an insert uses. -/
structure AgreeToInsert (d d' : Draft) : Prop where
  rejection : d.rejection = d'.rejection
  table : d.clauses.table = d'.clauses.table
  conditions : d.clauses.conditions = [] ↔ d'.clauses.conditions = []

theorem stageInsert_of_reads (reads : d.ReadsOnly) (payload : InsertPayload) :
    d.stageInsert payload = (insertSource payload).map fun written =>
      { d with
        purpose := .insert written.1
        bindings := (d.bindings.clear .insert).addAll .insert written.2 } := by
  rw [stageInsert]
  cases insertSource payload with
  | error e => rfl
  | ok written =>
    have turned := turnTo_of_reads reads (.insert written.1)
    change Except.ok { d.turnTo (.insert written.1) with
      bindings := ((d.turnTo (.insert written.1)).bindings.clear .insert).addAll .insert written.2 } = _
    rw [turned]
    rfl

/-- An insert binds what it writes and then what the conditions bind. -/
theorem insertStatement_of_reads (reads : d.ReadsOnly) (payload : InsertPayload) :
    d.insertStatement payload = insertSource payload >>= fun written =>
      (unlessRefused d.rejection (insertTemplate d.clauses written.1)).map fun t =>
        ⟨t.sql, boundValues written.2 ++ d.bindings.of .filter⟩ := by
  rw [insertStatement, stageInsert_of_reads reads]
  cases insertSource payload with
  | error e => rfl
  | ok written =>
    have assigns : (d.bindings.clear .insert).of .assign = [] := (Bindings.of_clear _ _ _).trans reads.assigns
    have filter : (d.bindings.clear .insert).of .filter = d.bindings.of .filter := Bindings.of_clear _ _ _
    refine (build_eq _).trans ?_
    rw [template_eq, params_eq, Bindings.of_refill, Bindings.of_addAll_other _ (by decide),
      Bindings.of_addAll_other _ (by decide), assigns, filter, List.append_nil]
    rfl

/-- No values are bound for conditions that are not there. -/
def Unfiltered (d : Draft) : Prop := d.clauses.conditions = [] → d.bindings.of .filter = []

theorem unfiltered_addCondition (d : Draft) (connective : Connective) (predicate : Predicate) :
    (d.addCondition connective predicate).Unfiltered := by
  intro none
  simp [addCondition, withClauses] at none

theorem unfiltered_apply (unfiltered : d.Unfiltered) (s : Setter) : (d.apply s).Unfiltered := by
  rcases d.apply_cases s with ⟨connective, predicate, added⟩ | rfl | ⟨conditions, bindings⟩
  · rw [added]
    exact unfiltered_addCondition d connective predicate
  · exact fun _ => rfl
  · rw [Unfiltered, conditions, bindings]
    exact unfiltered

theorem unfiltered_applyAll (unfiltered : d.Unfiltered) (setters : List Setter) : (d.applyAll setters).Unfiltered :=
  applyAll_keeps unfiltered fun _ unfiltered s _ => unfiltered_apply unfiltered s

/-- With conditions both inserts are refused, and without them neither draft binds anything of its own. -/
theorem insertStatement_congr (reads : d.ReadsOnly) (reads' : d'.ReadsOnly) (unfiltered : d.Unfiltered)
    (unfiltered' : d'.Unfiltered) (agree : d.AgreeToInsert d') (payload : InsertPayload) :
    d.insertStatement payload = d'.insertStatement payload := by
  rw [insertStatement_of_reads reads, insertStatement_of_reads reads', agree.rejection]
  refine bind_congr fun written => ?_
  rw [insertTemplate_congr agree.table agree.conditions written.1]
  cases made : insertTemplate d'.clauses written.1 with
  | error e =>
    cases d'.rejection with
    | none => rfl
    | some cause => rfl
  | ok t =>
    obtain ⟨_, _, none, _⟩ := insertTemplate_eq_ok made
    rw [unfiltered (agree.conditions.mpr none), unfiltered' none]

/-! ## Aggregates -/

/-- Two drafts agree on everything but the columns to read. -/
structure AgreeButColumns (d d' : Draft) : Prop where
  rejection : d.rejection = d'.rejection
  clauses : { d.clauses with columns := [] } = { d'.clauses with columns := [] }
  bindings : d.bindings = d'.bindings

theorem template_withColumns (c : Clauses) (columns : List String) (a : Aggregate) :
    Selection.template ⟨{ c with columns }, some a⟩ = Selection.template ⟨c, some a⟩ := rfl

theorem aggregateStatement_of_reads (reads : d.ReadsOnly) (function : AggregateFunction) (column : String) :
    d.aggregateStatement function column =
      (unlessRefused d.rejection (Selection.template ⟨d.clauses, some ⟨function, column⟩⟩)).map fun t =>
        ⟨t.sql, d.bindings.toList⟩ := by
  rw [aggregateStatement, stageAggregate, turnTo_of_reads reads, build_eq, template_eq]
  rfl

theorem aggregateStatement_congr (reads : d.ReadsOnly) (reads' : d'.ReadsOnly) (agree : d.AgreeButColumns d')
    (function : AggregateFunction) (column : String) :
    d.aggregateStatement function column = d'.aggregateStatement function column := by
  have template : Selection.template ⟨d.clauses, some ⟨function, column⟩⟩ =
      Selection.template ⟨d'.clauses, some ⟨function, column⟩⟩ := by
    rw [← template_withColumns d.clauses [], agree.clauses]
    exact template_withColumns d'.clauses [] _
  rw [aggregateStatement_of_reads reads, aggregateStatement_of_reads reads', agree.rejection, agree.bindings,
    template]

end Draft

namespace Query

variable {σ : Type}

/-- Whatever setters made two drafts: if they agree on what an update and a deletion use, they become the same
updates and the same deletion; if they agree on what an insert uses and stand on the same connection, on which the
query may be made that gives the rows, the same inserts; and if they agree on everything but the columns to
read, the same aggregates. Where one is refused, the other is refused for the same reason. -/
theorem unused_ignored (session session' : Option (Session σ)) (setters setters' : List Setter) :
    let q : Query σ := ⟨session, Draft.empty.applyAll setters⟩
    let q' : Query σ := ⟨session', Draft.empty.applyAll setters'⟩
    (q.draft.AgreeToChange q'.draft →
        (∀ assignments, q.draft.updateStatement assignments = q'.draft.updateStatement assignments) ∧
          q.draft.deleteStatement = q'.draft.deleteStatement) ∧
      (q.session = q'.session → q.draft.AgreeToInsert q'.draft →
        ∀ payload : Option (Session σ) → InsertPayload,
          q.draft.insertStatement (payload q.session) = q'.draft.insertStatement (payload q'.session)) ∧
      (q.draft.AgreeButColumns q'.draft → ∀ function column,
        q.draft.aggregateStatement function column = q'.draft.aggregateStatement function column) := by
  intro q q'
  have reads : q.draft.ReadsOnly := Draft.reads_applyAll setters
  have reads' : q'.draft.ReadsOnly := Draft.reads_applyAll setters'
  refine ⟨fun agree => ⟨?_, ?_⟩, fun same agree payload => ?_, fun agree => ?_⟩
  · exact Draft.updateStatement_congr reads reads' agree
  · exact Draft.deleteStatement_congr reads reads' agree
  · have unfiltered : q.draft.Unfiltered := Draft.unfiltered_applyAll (fun _ => rfl) setters
    have unfiltered' : q'.draft.Unfiltered := Draft.unfiltered_applyAll (fun _ => rfl) setters'
    rw [same]
    exact Draft.insertStatement_congr reads reads' unfiltered unfiltered' agree (payload q'.session)
  · exact Draft.aggregateStatement_congr reads reads' agree

/-- Clauses that only queries have, behind what an update uses; joins and dropped values that an insert does not look
at; and other columns to read. -/
theorem unused_ignored_differing :
    let changed : List Setter := [.table "t", .join .left "u" "t.a" "=" "u.a", .compare .and "b" "<" (.int 1)]
    let asked : List Setter := changed ++
      [.selectDistinct ["a"], .source "v", .groupBy ["a"], .orderBy "a" .descending, .limit 1, .offset 2]
    let bare : List Setter := [.table "t"]
    let joined : List Setter := [.table "t", .joinRaw .inner "u", .limit 3]
    let d := Draft.empty.applyAll changed
    let d' := Draft.empty.applyAll asked
    let e := Draft.empty.applyAll bare
    let e' := Draft.empty.applyAll joined
    let f := Draft.empty.applyAll (joined ++ [.select ["a", "b"]])
    let assignments : Record := .ofList [("b", .int 2)]
    let rows : InsertPayload := .query ["a"] fun sub => (sub.table "u").equals "a" (.int 5)
    (d.AgreeToChange d' ∧ d ≠ d' ∧ d.updateStatement assignments = d'.updateStatement assignments ∧
        d.deleteStatement = d'.deleteStatement ∧
        ∃ st, d'.updateStatement assignments = .ok st ∧ st.params = [.int 2, .int 1]) ∧
      (e.AgreeToInsert e' ∧ e ≠ e' ∧ e.insertStatement rows = e'.insertStatement rows ∧
        ∃ st, e'.insertStatement rows = .ok st ∧ st.params = [.int 5]) ∧
      (e'.AgreeButColumns f ∧ e' ≠ f ∧ e'.aggregateStatement .sum "a" = f.aggregateStatement .sum "a") := by
  intro changed asked bare joined d d' e e' f assignments rows
  let session : Option (Session Unit) := none
  have change : d.AgreeToChange d' := ⟨rfl, rfl, rfl, rfl, rfl⟩
  have insert : e.AgreeToInsert e' := ⟨rfl, rfl, Iff.rfl⟩
  have aggregate : e'.AgreeButColumns f := ⟨rfl, rfl, rfl⟩
  obtain ⟨updates, deletes⟩ := (unused_ignored session session changed asked).1 change
  have inserts := (unused_ignored session session bare joined).2.1 rfl insert
  have aggregates := (unused_ignored session session joined (joined ++ [.select ["a", "b"]])).2.2 aggregate
  refine ⟨⟨change, by decide, updates assignments, deletes, ?_⟩, ⟨insert, by decide, inserts fun _ => rows, ?_⟩,
    aggregate, by decide, aggregates .sum "a"⟩
  · exact ⟨_, by rfl, by rfl⟩
  · exact ⟨_, by rfl, by rfl⟩

end Query
end SqlDraft
