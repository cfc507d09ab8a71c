import SqlDraft.Proofs.Draft.Finish

/-!
# Sheets

A draft holds what its purpose needs and nothing else, so there is nothing in it that a former purpose could
have left behind. A sheet is a statement under construction as a form to fill in: it has a place each for
an aggregate, for what is inserted and for what is assigned, whatever kind of statement it is, and these
places are emptied when the kind changes and only then. Whatever was done to a sheet, its places are those
of its kind and it binds what stands in them (`follow_tidy`); and it is the draft that the same steps
make, in another layout (`draft_follow`).
-/

namespace SqlDraft

/-! ## Steps -/

/-- What is done to a statement under construction: a setter, or a turn to another purpose. -/
inductive Draft.Step
  | set (s : Setter)
  | turn (f : Finish)

namespace Draft

def step (d : Draft) : Step → Except UsageError Draft
  | .set s => .ok (d.apply s)
  | .turn f => d.staged f

/-- Takes steps one after the other; a turn that is refused ends them. -/
def follow (d : Draft) (steps : List Step) : Except UsageError Draft := steps.foldlM step d

end Draft

/-- The aggregate that a query asks for. -/
def Purpose.aggregate? : Purpose → Option Aggregate
  | .select aggregate => aggregate
  | _ => none

/-- What a sheet inserts: rows, or the rows of a query, which is kept as it was drafted. -/
inductive Sheet.Source
  | rows (columns : List String) (groups : List (List Value))
  | query (columns : List String) (sub : Draft)

structure Sheet where
  verb : Verb := .select
  clauses : Clauses := {}
  aggregate : Option Aggregate := none
  insert : Option Sheet.Source := none
  update : Option Record := none
  bindings : Bindings := {}
  rejection : Option Rejection := none

namespace Sheet

def blank : Sheet := {}

/-! ## What is inserted -/

/-- The values that are inserted: row by row, or those that the query binds. -/
def Source.values : Source → List Value
  | rows _ groups => groups.flatten
  | query _ sub => sub.params

/-- What a draft keeps of it. -/
def Source.kept : Source → InsertSource
  | rows columns groups => .rows columns groups
  | query columns sub => .query columns ⟨sub.clauses, sub.purpose.aggregate?⟩

/-- What a draft inserts, as a sheet has it. What a draft keeps of a query binds nothing. -/
def Source.ofKept : InsertSource → Source
  | .rows columns groups => rows columns groups
  | .query columns selection => query columns { clauses := selection.clauses, purpose := .select selection.aggregate }

def Source.ofRecords (records : List Record) : Except UsageError Source :=
  (InsertSource.ofRecords records).map ofKept

def Source.ofPayload : InsertPayload → Except UsageError Source
  | .row r => ofRecords [r]
  | .rows records => ofRecords records
  | .query columns make =>
    let sub := make .empty
    match sub.rejection with
    | some cause => .error (.subqueryRejected cause)
    | none => if sub.verb = .select then .ok (.query columns sub) else .error .subqueryNotSelect

theorem Source.kept_ofKept (source : InsertSource) : (ofKept source).kept = source := by
  cases source with
  | rows columns groups => rfl
  | query columns selection => rfl

theorem Source.values_ofKept (source : InsertSource) : (ofKept source).values = source.values := by
  cases source with
  | rows columns groups => rfl
  | query columns selection => rfl

theorem Source.kept_ofRecords (records : List Record) :
    (ofRecords records).map (fun source => (source.kept, source.values)) =
      (InsertSource.ofRecords records).map fun source => (source, source.values) := by
  rw [ofRecords]
  cases InsertSource.ofRecords records with
  | error e => rfl
  | ok source => exact congrArg Except.ok (Prod.ext (kept_ofKept source) (values_ofKept source))

/-- A sheet and a draft refuse the same inserts for the same reason, and bind the same values for the others. -/
theorem Source.kept_ofPayload (payload : InsertPayload) :
    (ofPayload payload).map (fun source => (source.kept, source.values)) = Draft.insertSource payload := by
  cases payload with
  | row r => exact kept_ofRecords [r]
  | rows records => exact kept_ofRecords records
  | query columns make =>
    rw [ofPayload, Draft.insertSource]
    cases (make .empty).rejection with
    | some cause => rfl
    | none =>
      cases purpose : (make .empty).purpose with
      | select aggregate => simp [Draft.verb, purpose, Purpose.verb, Except.map, kept, values, Purpose.aggregate?]
      | _ => simp [Draft.verb, purpose, Purpose.verb, Except.map]

/-! ## Turning a sheet -/

/-- Turns to a kind of statement. If it is another one than before, the places to fill in are emptied
and the values to write dropped. -/
def turnTo (s : Sheet) (verb : Verb) : Sheet :=
  if s.verb = verb then s
  else
    { s with
      verb
      aggregate := none
      insert := none
      update := none
      bindings := (s.bindings.clear .insert).clear .assign }

def stageAggregate (s : Sheet) (function : AggregateFunction) (column : String) : Sheet :=
  { s.turnTo .select with aggregate := some ⟨function, column⟩ }

def stageInsert (s : Sheet) (payload : InsertPayload) : Except UsageError Sheet := do
  let turned := s.turnTo .insert
  let source ← Source.ofPayload payload
  return { turned with
    insert := some source
    bindings := (turned.bindings.clear .insert).addAll .insert source.values }

def stageUpdate (s : Sheet) (assignments : Record) : Sheet :=
  let turned := s.turnTo .update
  { turned with
    update := some assignments
    bindings := (turned.bindings.clear .assign).addAll .assign assignments.values }

def stageDelete (s : Sheet) : Sheet := s.turnTo .delete

def staged (s : Sheet) : Finish → Except UsageError Sheet
  | .build => .ok s
  | .aggregate function column => .ok (s.stageAggregate function column)
  | .insert payload => s.stageInsert payload
  | .update assignments => .ok (s.stageUpdate assignments)
  | .delete => .ok s.stageDelete

theorem verb_turnTo (s : Sheet) (verb : Verb) : (s.turnTo verb).verb = verb := by
  rw [turnTo]
  split
  · next same => exact same
  · rfl

theorem clauses_turnTo (s : Sheet) (verb : Verb) : (s.turnTo verb).clauses = s.clauses := by
  rw [turnTo]
  split
  · rfl
  · rfl

theorem rejection_turnTo (s : Sheet) (verb : Verb) : (s.turnTo verb).rejection = s.rejection := by
  rw [turnTo]
  split
  · rfl
  · rfl

/-! ## The draft on a sheet -/

def purpose (s : Sheet) : Purpose :=
  match s.verb with
  | .select => .select s.aggregate
  | .insert => .insert ((s.insert.map Source.kept).getD (.rows [] []))
  | .update => .update (s.update.getD .empty)
  | .delete => .delete

/-- The draft on a sheet, read off the place that belongs to its kind. -/
def draft (s : Sheet) : Draft := ⟨s.clauses, s.purpose, s.bindings, s.rejection⟩

/-- A setter changes a sheet as it does the draft on it. -/
def apply (s : Sheet) (x : Setter) : Sheet :=
  let d := s.draft.apply x
  { s with clauses := d.clauses, bindings := d.bindings, rejection := d.rejection }

def step (s : Sheet) : Draft.Step → Except UsageError Sheet
  | .set x => .ok (s.apply x)
  | .turn f => s.staged f

def follow (s : Sheet) (steps : List Draft.Step) : Except UsageError Sheet := steps.foldlM step s

theorem verb_draft (s : Sheet) : s.draft.verb = s.verb := by
  rw [draft, Draft.verb, purpose]
  cases s.verb with
  | _ => rfl

theorem draft_apply (s : Sheet) (x : Setter) : (s.apply x).draft = s.draft.apply x := by
  have same : (s.apply x).draft = { s.draft.apply x with purpose := s.draft.purpose } := rfl
  rw [same, ← Draft.purpose_apply s.draft x]

theorem draft_turnTo (s : Sheet) {verb : Verb} {purpose : Purpose} (same : purpose.verb = verb) :
    { (s.turnTo verb).draft with purpose } = s.draft.turnTo purpose := by
  rw [turnTo, Draft.turnTo, verb_draft, same]
  split
  · rfl
  · rfl

theorem draft_of_purpose {s : Sheet} {purpose : Purpose} (read : s.purpose = purpose) :
    s.draft = { s.draft with purpose } := by
  rw [← read]
  rfl

theorem draft_stageAggregate (s : Sheet) (function : AggregateFunction) (column : String) :
    (s.stageAggregate function column).draft = s.draft.stageAggregate function column := by
  have read : (s.stageAggregate function column).purpose = .select (some ⟨function, column⟩) := by
    rw [purpose, stageAggregate, verb_turnTo]
  rw [draft_of_purpose read, Draft.stageAggregate, ← s.draft_turnTo rfl]
  rfl

theorem draft_stageUpdate (s : Sheet) (assignments : Record) :
    (s.stageUpdate assignments).draft = s.draft.stageUpdate assignments := by
  have read : (s.stageUpdate assignments).purpose = .update assignments := by
    rw [purpose, stageUpdate, verb_turnTo]
    rfl
  rw [draft_of_purpose read, Draft.stageUpdate, ← s.draft_turnTo rfl]
  rfl

theorem draft_stageDelete (s : Sheet) : s.stageDelete.draft = s.draft.stageDelete := by
  have read : s.stageDelete.purpose = .delete := by rw [purpose, stageDelete, verb_turnTo]
  rw [draft_of_purpose read, Draft.stageDelete, ← s.draft_turnTo rfl]
  rfl

theorem draft_stageInsert (s : Sheet) (payload : InsertPayload) :
    (s.stageInsert payload).map draft = s.draft.stageInsert payload := by
  rw [stageInsert, Draft.stageInsert, ← Source.kept_ofPayload]
  cases Source.ofPayload payload with
  | error e => rfl
  | ok source =>
    refine congrArg Except.ok ?_
    have read : purpose { s.turnTo .insert with
        insert := some source
        bindings := ((s.turnTo .insert).bindings.clear .insert).addAll .insert source.values } =
          .insert source.kept := by
      rw [purpose, verb_turnTo]
      rfl
    rw [draft_of_purpose read, ← s.draft_turnTo rfl]
    rfl

theorem draft_step (s : Sheet) (step : Draft.Step) : (s.step step).map draft = s.draft.step step := by
  cases step with
  | set x => exact congrArg Except.ok (s.draft_apply x)
  | turn f =>
    cases f with
    | build => rfl
    | aggregate function column => exact congrArg Except.ok (s.draft_stageAggregate function column)
    | insert payload => exact s.draft_stageInsert payload
    | update assignments => exact congrArg Except.ok (s.draft_stageUpdate assignments)
    | delete => exact congrArg Except.ok s.draft_stageDelete

/-- Steps on a sheet and on the draft on it go together. -/
theorem draft_follow (s : Sheet) (steps : List Draft.Step) : (s.follow steps).map draft = s.draft.follow steps := by
  induction steps generalizing s with
  | nil => rfl
  | cons step rest ih =>
    rw [follow, Draft.follow, List.foldlM_cons, List.foldlM_cons, ← s.draft_step step]
    cases s.step step with
    | error e => rfl
    | ok s' => exact ih s'

/-! ## Tidy sheets -/

/-- Every place that is filled in belongs to the kind of statement, and the bound values are those of what
stands in the places and those of the conditions. -/
structure Tidy (s : Sheet) : Prop where
  aggregate : s.aggregate.isSome → s.verb = .select
  insert : s.insert.isSome → s.verb = .insert
  update : s.update.isSome → s.verb = .update
  inserted : s.bindings.of .insert = boundValues (s.insert.elim [] Source.values)
  assigned : s.bindings.of .assign = boundValues (s.update.elim [] Record.values)
  filter : s.bindings.of .filter = boundValues s.clauses.conditionValues

/-- What an insert or an update is to write is filled in. -/
structure Filled (s : Sheet) : Prop where
  insert : s.verb = .insert → s.insert.isSome
  update : s.verb = .update → s.update.isSome

/-- What a turn to another kind does not touch: the clauses, and the operator that was refused, if any. -/
structure Keeps (s s' : Sheet) : Prop where
  clauses : s'.clauses = s.clauses
  rejection : s'.rejection = s.rejection

theorem tidy_blank : blank.Tidy := by
  refine ⟨?_, ?_, ?_, rfl, rfl, rfl⟩
  all_goals
    intro filled
    cases filled

theorem filled_blank : blank.Filled := by
  constructor
  all_goals
    intro kind
    cases kind

variable {s : Sheet}

theorem tidy_apply (tidy : s.Tidy) {x : Setter} (keeps : x ≠ .clearParams) : (s.apply x).Tidy := by
  obtain ⟨aggregate, insert, update, inserted, assigned, filter⟩ := tidy
  refine ⟨aggregate, insert, update, ?_, ?_, ?_⟩
  · exact (Draft.of_apply keeps s.draft (by decide)).trans inserted
  · exact (Draft.of_apply keeps s.draft (by decide)).trans assigned
  · exact Draft.filter_apply (d := s.draft) filter keeps

theorem tidy_turnTo (tidy : s.Tidy) (verb : Verb) : (s.turnTo verb).Tidy := by
  rw [turnTo]
  split
  · exact tidy
  · refine ⟨?_, ?_, ?_, rfl, rfl, ?_⟩
    · intro filled
      cases filled
    · intro filled
      cases filled
    · intro filled
      cases filled
    · exact tidy.filter

theorem tidy_stageAggregate (tidy : s.Tidy) (function : AggregateFunction) (column : String) :
    (s.stageAggregate function column).Tidy := by
  obtain ⟨_, insert, update, inserted, assigned, filter⟩ := tidy_turnTo tidy .select
  refine ⟨?_, insert, update, inserted, assigned, filter⟩
  intro _
  exact verb_turnTo s .select

/-- Emptying the values to assign and filling them in anew leaves one update's values, also where the sheet
was an update before and `turnTo` did nothing. -/
theorem tidy_stageUpdate (tidy : s.Tidy) (assignments : Record) : (s.stageUpdate assignments).Tidy := by
  obtain ⟨aggregate, insert, _, inserted, _, filter⟩ := tidy_turnTo tidy .update
  refine ⟨aggregate, insert, ?_, ?_, ?_, ?_⟩
  · intro _
    exact verb_turnTo s .update
  · rw [stageUpdate, Bindings.of_addAll_other _ (by decide), Bindings.of_clear]
    exact inserted
  · exact Bindings.of_refill (s.turnTo .update).bindings .assign assignments.values
  · rw [stageUpdate, Bindings.of_addAll_other _ (by decide), Bindings.of_clear]
    exact filter

theorem stageInsert_eq_ok {payload : InsertPayload} {s' : Sheet} (ok : s.stageInsert payload = .ok s') :
    ∃ source, Source.ofPayload payload = .ok source ∧
      s' = { s.turnTo .insert with
        insert := some source
        bindings := ((s.turnTo .insert).bindings.clear .insert).addAll .insert source.values } := by
  obtain ⟨source, made, same⟩ := bind_eq_ok.mp ok
  cases same
  exact ⟨source, made, rfl⟩

theorem tidy_stageInsert (tidy : s.Tidy) {payload : InsertPayload} {s' : Sheet}
    (ok : s.stageInsert payload = .ok s') : s'.Tidy := by
  obtain ⟨source, _, rfl⟩ := stageInsert_eq_ok ok
  obtain ⟨aggregate, _, update, _, assigned, filter⟩ := tidy_turnTo tidy .insert
  refine ⟨aggregate, ?_, update, ?_, ?_, ?_⟩
  · intro _
    exact verb_turnTo s .insert
  · exact Bindings.of_refill (s.turnTo .insert).bindings .insert source.values
  · rw [Bindings.of_addAll_other _ (by decide), Bindings.of_clear]
    exact assigned
  · rw [Bindings.of_addAll_other _ (by decide), Bindings.of_clear]
    exact filter

theorem tidy_staged (tidy : s.Tidy) {f : Finish} {s' : Sheet} (ok : s.staged f = .ok s') : s'.Tidy := by
  cases f with
  | build => cases ok; exact tidy
  | aggregate function column => cases ok; exact tidy_stageAggregate tidy function column
  | insert payload => exact tidy_stageInsert tidy ok
  | update assignments => cases ok; exact tidy_stageUpdate tidy assignments
  | delete => cases ok; exact tidy_turnTo tidy .delete

theorem filled_of_verb {verb : Verb} (kind : s.verb = verb) (noInsert : verb ≠ .insert) (noUpdate : verb ≠ .update) :
    s.Filled := by
  constructor
  · intro inserting
    exact absurd (kind.symm.trans inserting) noInsert
  · intro updating
    exact absurd (kind.symm.trans updating) noUpdate

theorem filled_staged (filled : s.Filled) {f : Finish} {s' : Sheet} (ok : s.staged f = .ok s') : s'.Filled := by
  cases f with
  | build => cases ok; exact filled
  | aggregate function column => cases ok; exact filled_of_verb (verb_turnTo s .select) (by decide) (by decide)
  | insert payload =>
    obtain ⟨source, _, rfl⟩ := stageInsert_eq_ok ok
    refine ⟨fun _ => rfl, ?_⟩
    intro updating
    rw [verb_turnTo] at updating
    cases updating
  | update assignments =>
    cases ok
    refine ⟨?_, fun _ => rfl⟩
    intro inserting
    rw [stageUpdate, verb_turnTo] at inserting
    cases inserting
  | delete => cases ok; exact filled_of_verb (verb_turnTo s .delete) (by decide) (by decide)

theorem keeps_staged {f : Finish} {s' : Sheet} (ok : s.staged f = .ok s') : s.Keeps s' := by
  have turned (verb : Verb) : s.Keeps (s.turnTo verb) := ⟨clauses_turnTo s verb, rejection_turnTo s verb⟩
  cases f with
  | build => cases ok; exact ⟨rfl, rfl⟩
  | aggregate function column => cases ok; exact ⟨(turned .select).clauses, (turned .select).rejection⟩
  | insert payload =>
    obtain ⟨source, _, rfl⟩ := stageInsert_eq_ok ok
    exact ⟨(turned .insert).clauses, (turned .insert).rejection⟩
  | update assignments => cases ok; exact ⟨(turned .update).clauses, (turned .update).rejection⟩
  | delete => cases ok; exact turned .delete

/-- What one step keeps, whole runs keep. -/
theorem tidy_steps (tidy : s.Tidy) (filled : s.Filled) {steps : List Draft.Step}
    (keeps : .set .clearParams ∉ steps) {s' : Sheet} (ok : s.follow steps = .ok s') : s'.Tidy ∧ s'.Filled := by
  induction steps generalizing s with
  | nil => cases ok; exact ⟨tidy, filled⟩
  | cons step rest ih =>
    rw [follow, List.foldlM_cons] at ok
    obtain ⟨next, first, later⟩ := bind_eq_ok.mp ok
    have keepsRest : .set .clearParams ∉ rest := fun member => keeps (List.mem_cons_of_mem step member)
    cases step with
    | set x =>
      cases first
      have bound : x ≠ .clearParams := by
        rintro rfl
        exact keeps List.mem_cons_self
      exact ih (tidy_apply tidy bound) ⟨filled.insert, filled.update⟩ keepsRest later
    | turn f => exact ih (tidy_staged tidy first) (filled_staged filled first) keepsRest later

/-- From a blank sheet, whatever setters and turns were made in whatever order, only the places of the sheet's
kind are filled in, and it binds what stands in them and in its conditions; a further turn leaves
the clauses and the refused operator alone. The sheet is the draft that the same steps make, and where they
are refused, both are refused for the same reason. -/
theorem follow_tidy {steps : List Draft.Step} (keeps : .set .clearParams ∉ steps) :
    (blank.follow steps).map draft = Draft.empty.follow steps ∧
      ∀ s, blank.follow steps = .ok s → s.Tidy ∧ s.Filled ∧ ∀ f s', s.staged f = .ok s' → s.Keeps s' := by
  refine ⟨blank.draft_follow steps, ?_⟩
  intro s ok
  obtain ⟨tidy, filled⟩ := tidy_steps tidy_blank filled_blank keeps ok
  exact ⟨tidy, filled, fun f s' turned => keeps_staged turned⟩

/-- Two inserts and two updates of a sheet that was an aggregate before: the sub-query of the second insert drops
its bound values and so binds none, and of the updates the later one counts. -/
theorem follow_tidy_repeated :
    let steps : List Draft.Step :=
      [.set (.table "t"), .turn (.aggregate .count "*"), .turn (.insert (.row (.ofList [("a", .int 1)]))),
        .turn (.insert (.query ["a"] fun d => ((d.table "u").equals "b" (.int 2)).clearParams)),
        .set (.compare .and "c" "=" (.int 3)), .turn (.update (.ofList [("a", .int 4), ("b", .raw "b + 1")])),
        .turn (.update (.ofList [("a", .raw "a + 1"), ("b", .int 5)]))]
    .set .clearParams ∉ steps ∧
      ∃ s, blank.follow steps = .ok s ∧ s.verb = .update ∧ s.aggregate = none ∧ s.insert = none ∧
        s.bindings = ⟨[], [.int 5], [.int 3]⟩ ∧ s.Tidy := by
  intro steps
  have keeps : .set .clearParams ∉ steps := by simp [steps]
  exact ⟨keeps, _, rfl, rfl, rfl, rfl, rfl, ((follow_tidy keeps).2 _ rfl).1⟩

end Sheet
end SqlDraft
