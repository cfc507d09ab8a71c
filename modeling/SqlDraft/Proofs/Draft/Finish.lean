import SqlDraft.Proofs.Draft.Coherence
import SqlDraft.Proofs.Draft.Rows

/-!
# Finishing a draft

The ways in which a draft becomes a statement, as data, and what the draft is turned to on the way: a
coherent draft whose texts are the caller's (`coherent_staged`, `spelled_staged`) and which names the
values written first and those of its conditions behind them (`named_staged`).
-/

namespace SqlDraft

/-! ## Turning to another purpose -/

/-- How a draft becomes a statement: as it is, or turned to an aggregate, an insert, an update or a
deletion first. -/
inductive Finish
  | build
  | aggregate (function : AggregateFunction) (column : String)
  | insert (payload : InsertPayload)
  | update (assignments : Record)
  | delete

namespace Draft

/-- What the draft is turned to. -/
def staged (d : Draft) : Finish → Except UsageError Draft
  | .build => .ok d
  | .aggregate function column => .ok (d.stageAggregate function column)
  | .insert payload => d.stageInsert payload
  | .update assignments => .ok (d.stageUpdate assignments)
  | .delete => .ok d.stageDelete

/-- The statement that the draft becomes. -/
def statement (d : Draft) : Finish → Except UsageError Statement
  | .build => d.build
  | .aggregate function column => d.aggregateStatement function column
  | .insert payload => d.insertStatement payload
  | .update assignments => d.updateStatement assignments
  | .delete => d.deleteStatement

theorem statement_eq (d : Draft) (f : Finish) : d.statement f = d.staged f >>= Draft.build := by
  cases f <;> rfl

theorem clauses_turnTo (d : Draft) (purpose : Purpose) : (d.turnTo purpose).clauses = d.clauses := by
  rw [turnTo]
  split
  · rfl
  · rfl

theorem purpose_turnTo (d : Draft) (purpose : Purpose) : (d.turnTo purpose).purpose = purpose := by
  rw [turnTo]
  split
  · rfl
  · rfl

theorem filter_turnTo (d : Draft) (purpose : Purpose) :
    (d.turnTo purpose).bindings.of .filter = d.bindings.of .filter := by
  rw [turnTo]
  split
  · rfl
  · rfl

theorem rejection_turnTo (d : Draft) (purpose : Purpose) : (d.turnTo purpose).rejection = d.rejection := by
  rw [turnTo]
  split
  · rfl
  · rfl

theorem inserted_of_verb {purpose : Purpose} (other : purpose.verb ≠ .insert) : purpose.inserted = [] := by
  cases purpose with
  | insert source => exact absurd rfl other
  | _ => rfl

theorem assigned_of_verb {purpose : Purpose} (other : purpose.verb ≠ .update) : purpose.assigned = [] := by
  cases purpose with
  | update assignments => exact absurd rfl other
  | _ => rfl

/-- A coherent draft that is turned to something other than an insert has no values to insert left. -/
theorem insert_turnTo {d : Draft} (coherent : d.Coherent) {purpose : Purpose} (other : purpose.verb ≠ .insert) :
    (d.turnTo purpose).bindings.of .insert = [] := by
  rw [turnTo]
  split
  · next same =>
    rw [coherent.insert, inserted_of_verb]
    · rfl
    · intro inserting
      exact other (same.symm.trans inserting)
  · rfl

theorem assign_turnTo {d : Draft} (coherent : d.Coherent) {purpose : Purpose} (other : purpose.verb ≠ .update) :
    (d.turnTo purpose).bindings.of .assign = [] := by
  rw [turnTo]
  split
  · next same =>
    rw [coherent.assign, assigned_of_verb]
    · rfl
    · intro updating
      exact other (same.symm.trans updating)
  · rfl

/-- Turning to a purpose that writes no values keeps a draft coherent. -/
theorem coherent_turnTo {d : Draft} (coherent : d.Coherent) {purpose : Purpose}
    (noInsert : purpose.verb ≠ .insert) (noUpdate : purpose.verb ≠ .update) :
    (d.turnTo purpose).Coherent := by
  refine ⟨?_, ?_, ?_⟩
  · rw [insert_turnTo coherent noInsert, purpose_turnTo, inserted_of_verb noInsert]
    rfl
  · rw [assign_turnTo coherent noUpdate, purpose_turnTo, assigned_of_verb noUpdate]
    rfl
  · rw [filter_turnTo, clauses_turnTo]
    exact coherent.filter

theorem clauses_stageUpdate (d : Draft) (assignments : Record) : (d.stageUpdate assignments).clauses = d.clauses :=
  clauses_turnTo d _

theorem insert_stageUpdate (d : Draft) (assignments : Record) :
    (d.stageUpdate assignments).bindings.of .insert = (d.turnTo (.update assignments)).bindings.of .insert := by
  rw [stageUpdate, Bindings.of_addAll_other _ (by decide), Bindings.of_clear]
  rfl

theorem assign_stageUpdate (d : Draft) (assignments : Record) :
    (d.stageUpdate assignments).bindings.of .assign = boundValues assignments.values :=
  Bindings.of_refill _ .assign _

theorem filter_stageUpdate (d : Draft) (assignments : Record) :
    (d.stageUpdate assignments).bindings.of .filter = d.bindings.of .filter := by
  rw [stageUpdate, Bindings.of_addAll_other _ (by decide), Bindings.of_clear]
  exact filter_turnTo d _

theorem coherent_stageUpdate {d : Draft} (coherent : d.Coherent) (assignments : Record) :
    (d.stageUpdate assignments).Coherent := by
  have purpose : (d.stageUpdate assignments).purpose = .update assignments := purpose_turnTo d _
  refine ⟨?_, ?_, ?_⟩
  · rw [purpose, insert_stageUpdate]
    exact insert_turnTo coherent (by intro same; cases same)
  · rw [purpose, assign_stageUpdate]
    rfl
  · rw [clauses_stageUpdate, filter_stageUpdate]
    exact coherent.filter

/-- What an insert takes its values from, and which values it binds for them. -/
theorem insertSource_eq_ok {payload : InsertPayload} {source : InsertSource} {values : List Value}
    (ok : insertSource payload = .ok (source, values)) :
    match payload with
    | .row r => InsertSource.ofRecords [r] = .ok source ∧ values = source.values
    | .rows records => InsertSource.ofRecords records = .ok source ∧ values = source.values
    | .query columns make =>
      (make .empty).rejection = none ∧
        ∃ aggregate, (make .empty).purpose = .select aggregate ∧
          source = .query columns ⟨(make .empty).clauses, aggregate⟩ ∧ values = (make .empty).params := by
  cases payload with
  | row r =>
    obtain ⟨made, found, same⟩ := map_eq_ok.mp ok
    cases same
    exact ⟨found, rfl⟩
  | rows records =>
    obtain ⟨made, found, same⟩ := map_eq_ok.mp ok
    cases same
    exact ⟨found, rfl⟩
  | query columns make =>
    simp only [insertSource] at ok
    cases refused : (make .empty).rejection with
    | some cause => simp [refused] at ok
    | none =>
      cases purpose : (make .empty).purpose with
      | select aggregate =>
        simp only [refused, purpose] at ok
        cases ok
        exact ⟨refused, aggregate, purpose, rfl, rfl⟩
      | _ => simp [refused, purpose] at ok

end Draft

/-! ## Drafts as callers make them -/

/-- A draft that setters made of the empty one. No setter drops bound values, and every text that one
gives has the property. -/
def Draft.MadeFrom (P : String → Prop) (d : Draft) : Prop :=
  ∃ setters : List Setter, (∀ s ∈ setters, s ≠ .clearParams ∧ ∀ x ∈ s.texts, P x) ∧
    d = Draft.empty.applyAll setters

/-- Every text of what is inserted has the property, and a query is made by setters alone. -/
def InsertPayload.Given (P : String → Prop) : InsertPayload → Prop
  | .row r => ∀ x ∈ r.texts, P x
  | .rows records => ∀ r ∈ records, ∀ x ∈ r.texts, P x
  | .query columns make => (∀ x ∈ columns, P x) ∧ (make .empty).MadeFrom P

/-- Every text that is given on the way to a statement has the property. -/
def Finish.Given (P : String → Prop) : Finish → Prop
  | .build | .delete => True
  | .aggregate _ column => P column
  | .insert payload => payload.Given P
  | .update assignments => ∀ x ∈ assignments.texts, P x

/-- The values that are inserted, expressions included: rows one after the other, each in the order of the
first one's columns, or the values of a query's conditions. -/
def InsertPayload.values : InsertPayload → List Value
  | .row r => r.values
  | .rows [] => []
  | .rows (first :: rest) => (first :: rest).flatMap (Record.inOrder first.columns)
  | .query _ make => (make .empty).clauses.conditionValues

/-- The values that are written, expressions included. -/
def Finish.written : Finish → List Value
  | .insert payload => payload.values
  | .update assignments => assignments.values
  | _ => []

namespace Draft

variable {P : String → Prop} {d : Draft}

theorem coherent_applyAll {setters : List Setter} (coherent : d.Coherent)
    (keep : ∀ s ∈ setters, s ≠ .clearParams) : (d.applyAll setters).Coherent :=
  applyAll_keeps coherent fun _ coherent s member => coherent_apply coherent (keep s member)

theorem spelled_applyAll {setters : List Setter} (spelled : d.Spelled P)
    (given : ∀ s ∈ setters, ∀ x ∈ s.texts, P x) : (d.applyAll setters).Spelled P :=
  applyAll_keeps spelled fun _ spelled s member => spelled_apply spelled (given s member)

theorem coherent_made (made : d.MadeFrom P) : d.Coherent := by
  obtain ⟨setters, all, rfl⟩ := made
  exact coherent_applyAll coherent_empty fun s member => (all s member).1

theorem spelled_made (made : d.MadeFrom P) : d.Spelled P := by
  obtain ⟨setters, all, rfl⟩ := made
  exact spelled_applyAll spelled_empty fun s member => (all s member).2

theorem purpose_made (made : d.MadeFrom P) : d.purpose = .select none := by
  obtain ⟨setters, _, rfl⟩ := made
  exact purpose_applyAll .empty setters

/-! ## What is inserted -/

/-- Rows name the values that they bind. -/
theorem rows_eq_ok {records : List Record} {source : InsertSource}
    (ok : InsertSource.ofRecords records = .ok source) (given : ∀ r ∈ records, ∀ x ∈ r.texts, P x) :
    source.values = source.named ∧ source.named = (InsertPayload.rows records).values ∧
      (Purpose.insert source).Spelled P := by
  obtain ⟨first, rest, rfl, rfl⟩ := ofRecords_eq_ok ok
  refine ⟨rfl, ?_, ?_, ?_⟩
  · rw [InsertSource.named, InsertPayload.values, List.flatMap_def]
  · exact Record.spelled_columns (given first List.mem_cons_self)
  · intro row member
    obtain ⟨r, inside, rfl⟩ := List.mem_map.mp member
    exact Record.spelled_inOrder (given r inside) first.columns

theorem values_row (r : Record) : (InsertPayload.rows [r]).values = (InsertPayload.row r).values := by
  rw [InsertPayload.values, InsertPayload.values, List.flatMap_singleton, Record.inOrder_columns]

/-- An insert binds what its rows or its query name. -/
theorem source_eq_ok {payload : InsertPayload} {source : InsertSource} {values : List Value}
    (ok : insertSource payload = .ok (source, values)) (given : payload.Given P) :
    boundValues values = boundValues source.named ∧ source.named = payload.values ∧
      (Purpose.insert source).Spelled P := by
  have shape := insertSource_eq_ok ok
  cases payload with
  | row r =>
    obtain ⟨found, rfl⟩ := shape
    have all : ∀ other ∈ [r], ∀ x ∈ other.texts, P x := by
      intro other member
      rw [List.mem_singleton] at member
      exact member ▸ given
    obtain ⟨bound, named, spelled⟩ := rows_eq_ok found all
    exact ⟨congrArg boundValues bound, named.trans (values_row r), spelled⟩
  | rows records =>
    obtain ⟨found, rfl⟩ := shape
    obtain ⟨bound, named, spelled⟩ := rows_eq_ok found given
    exact ⟨congrArg boundValues bound, named, spelled⟩
  | query columns make =>
    obtain ⟨_, aggregate, purpose, rfl, rfl⟩ := shape
    obtain ⟨names, made⟩ := given
    have sub := params_of_coherent (coherent_made made)
    have spelled := spelled_made made
    have aggregated := spelled.purpose
    rw [purpose] at aggregated
    rw [named, purpose] at sub
    -- The sub-query bound its values already, so expressions are not among them: filtering again is harmless.
    refine ⟨?_, rfl, names, spelled.clauses, aggregated⟩
    rw [sub, boundValues_boundValues]
    rfl

theorem coherent_stageInsert {payload : InsertPayload} {staged : Draft} (coherent : d.Coherent)
    (given : payload.Given P) (ok : d.stageInsert payload = .ok staged) : staged.Coherent := by
  obtain ⟨⟨source, values⟩, found, same⟩ := bind_eq_ok.mp ok
  cases same
  obtain ⟨bound, _, _⟩ := source_eq_ok found given
  refine ⟨?_, ?_, ?_⟩
  · rw [Bindings.of_refill, bound, purpose_turnTo]
    rfl
  · rw [Bindings.of_addAll_other _ (by decide), Bindings.of_clear, purpose_turnTo]
    exact assign_turnTo coherent (by intro same; cases same)
  · rw [Bindings.of_addAll_other _ (by decide), Bindings.of_clear, clauses_turnTo]
    exact (filter_turnTo d _).trans coherent.filter

/-! ## What a draft is turned to -/

theorem coherent_staged {f : Finish} {staged : Draft} (coherent : d.Coherent) (given : f.Given P)
    (ok : d.staged f = .ok staged) : staged.Coherent := by
  cases f with
  | build => cases ok; exact coherent
  | aggregate function column =>
    cases ok
    exact coherent_turnTo coherent (by intro same; cases same) (by intro same; cases same)
  | insert payload => exact coherent_stageInsert coherent given ok
  | update assignments => cases ok; exact coherent_stageUpdate coherent assignments
  | delete =>
    cases ok
    exact coherent_turnTo coherent (by intro same; cases same) (by intro same; cases same)

/-- Turning a draft to a purpose leaves its clauses alone. -/
theorem clauses_staged {f : Finish} {staged : Draft} (ok : d.staged f = .ok staged) :
    staged.clauses = d.clauses := by
  cases f with
  | build => cases ok; rfl
  | aggregate function column => cases ok; exact clauses_turnTo d _
  | insert payload =>
    obtain ⟨⟨source, values⟩, _, same⟩ := bind_eq_ok.mp ok
    cases same
    exact clauses_turnTo d _
  | update assignments => cases ok; exact clauses_turnTo d _
  | delete => cases ok; exact clauses_turnTo d _

theorem purpose_staged {f : Finish} {staged : Draft} (ok : d.staged f = .ok staged) :
    match f with
    | .build => staged.purpose = d.purpose
    | .aggregate function column => staged.purpose = .select (some ⟨function, column⟩)
    | .insert payload => ∃ source values, insertSource payload = .ok (source, values) ∧
      staged.purpose = .insert source
    | .update assignments => staged.purpose = .update assignments
    | .delete => staged.purpose = .delete := by
  cases f with
  | build => cases ok; rfl
  | aggregate function column => cases ok; exact purpose_turnTo d _
  | insert payload =>
    obtain ⟨⟨source, values⟩, found, same⟩ := bind_eq_ok.mp ok
    cases same
    exact ⟨source, values, found, purpose_turnTo d _⟩
  | update assignments => cases ok; exact purpose_turnTo d _
  | delete => cases ok; exact purpose_turnTo d _

theorem spelled_staged {f : Finish} {staged : Draft} (spelled : d.Spelled P) (given : f.Given P)
    (ok : d.staged f = .ok staged) : staged.Spelled P := by
  refine ⟨clauses_staged ok ▸ spelled.clauses, ?_⟩
  have purpose := purpose_staged ok
  cases f with
  | build => rw [purpose]; exact spelled.purpose
  | aggregate function column =>
    rw [purpose]
    intro a same
    cases same
    exact given
  | insert payload =>
    obtain ⟨source, values, found, turned⟩ := purpose
    rw [turned]
    exact (source_eq_ok found given).2.2
  | update assignments => rw [purpose]; exact given
  | delete => rw [purpose]; trivial

/-- The values that a finished draft names are those it writes and then those of its conditions. -/
theorem named_staged {f : Finish} {staged : Draft} (made : d.MadeFrom P) (given : f.Given P)
    (ok : d.staged f = .ok staged) : staged.named = f.written ++ d.clauses.conditionValues := by
  rw [named, clauses_staged ok]
  have purpose := purpose_staged ok
  cases f with
  | build => rw [purpose, purpose_made made]; rfl
  | aggregate function column => rw [purpose]; rfl
  | insert payload =>
    obtain ⟨source, values, found, turned⟩ := purpose
    rw [turned, Purpose.inserted, (source_eq_ok found given).2.1]
    exact congrArg (· ++ d.clauses.conditionValues) (List.append_nil payload.values)
  | update assignments => rw [purpose]; rfl
  | delete => rw [purpose]; rfl

end Draft
end SqlDraft
