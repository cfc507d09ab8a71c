import SqlDraft.Backend.Scripted
import SqlDraft.Proofs.Draft.Finish
import SqlDraft.Proofs.Session.Terminals
import SqlDraft.Proofs.Template.Alternatives

/-!
# Searching

What the statements ask of a row that a search sends. The equalities of a search are added behind the
conditions of a query, with AND and without parentheses, so they are asked of every row just if there
is no OR among those conditions (`search_enforced_iff`).
-/

namespace SqlDraft

variable {σ α β : Type}

/-! ## The equalities of a search -/

/-- The condition that a column has a value. -/
def equality (e : String × Value) : Condition := ⟨.and, .compare e.1 .equal e.2⟩

namespace Draft

/-- The draft with further conditions, that columns have values, and these values bound. -/
def narrowed (d : Draft) (entries : List (String × Value)) : Draft :=
  { d with
    clauses := { d.clauses with conditions := d.clauses.conditions ++ entries.map equality }
    bindings := d.bindings.addAll .filter (entries.map Prod.snd) }

theorem equals_eq (d : Draft) (column : String) (v : Value) : d.equals column v = d.narrowed [(column, v)] := by
  have known : Comparison.read? "=" = some .equal := by decide
  rw [equals, compare, known]
  rfl

theorem foldl_equals (d : Draft) (entries : List (String × Value)) :
    entries.foldl (fun d e => d.equals e.1 e.2) d = d.narrowed entries := by
  induction entries generalizing d with
  | nil => rw [List.foldl_nil, narrowed, List.map_nil, List.append_nil]; rfl
  | cons e rest ih => rw [List.foldl_cons, ih, equals_eq, narrowed, narrowed, List.append_assoc]; rfl

theorem conditions_equals (d : Draft) (column : String) (v : Value) :
    (d.equals column v).clauses.conditions = d.clauses.conditions ++ [equality (column, v)] := by
  rw [equals_eq]
  rfl

/-- A draft asks for further conditions behind some prior ones. Its statement has all of them behind
`WHERE`, as their alternatives, and the further ones are asked of every row just if no prior one but
the first is tied with OR. -/
structure Narrows (d : Draft) (prior further : List Condition) : Prop where
  conditions : d.clauses.conditions = prior ++ further
  written : ∀ st, d.build = .ok st →
    ∃ (head : String) (tail : List Template), (tail = [] ∨ tail = d.clauses.tailTemplates) ∧
      st.sql = head ++ ("WHERE " ++ (writtenAlternatives (alternatives d.clauses.occurrences)).sql) ++
        String.join (tail.map fun u : Template => " " ++ u.sql)
  enforced : d.clauses.Enforces prior.length ↔ ∀ x ∈ prior.tail, x.connective = .and

theorem narrows_of_equalities {d : Draft} {prior : List Condition} {entries : List (String × Value)}
    (conditions : d.clauses.conditions = prior ++ entries.map equality) (nonempty : entries ≠ []) :
    d.Narrows prior (entries.map equality) := by
  have added : entries.map equality ≠ [] := by
    intro none
    exact nonempty (List.map_eq_nil_iff.mp none)
  refine ⟨conditions, ?_, ?_⟩
  · intro st built
    obtain ⟨t, made, same⟩ := build_eq_ok built
    subst same
    refine where_of_template made ?_
    intro none
    rw [none] at conditions
    exact added (List.append_eq_nil_iff.mp conditions.symm).2
  · refine Clauses.enforces_iff conditions added ?_
    intro x member
    obtain ⟨e, _, same⟩ := List.mem_map.mp member
    subst same
    rfl

end Draft

/-! ## What a search sends -/

namespace Action

/-- On a connection whose state is not lent, an action prepares no text but those of some kind. -/
def Prepares (action : Action (Traced σ) α) (P : String → Prop) : Prop :=
  action.Calls fun _ made => ∀ sql ∈ preparedBy made, P sql

/-- An action that agrees with the making of a statement prepares no text but the statement's. -/
theorem AgreesWith.prepares {action : Action (Traced σ) α} {name : String}
    {made : Except UsageError Statement} {read after : List Request}
    (agrees : action.AgreesWith name made read after) (quiet : after.filterMap Request.prepared? = []) :
    action.Prepares fun sql => ∃ st, made = .ok st ∧ sql = st.sql := by
  cases made with
  | error e =>
    intro t
    refine ⟨_, t, [], agrees (some t), (List.append_nil t.calls).symm, ?_⟩
    intro sql member
    cases member
  | ok st =>
    refine agrees.idle.mono ?_
    rintro outcome made ⟨ran, behind, failure, split, sent, failed, finished⟩ sql member
    have nothing : preparedBy behind = [] := by
      cases failure with
      | some e => rw [(failed e rfl).2]; rfl
      | none => rw [preparedBy, finished rfl, quiet]
    rw [split, preparedBy_append, sent.prepared, nothing, List.append_nil] at member
    exact ⟨st, rfl, List.mem_singleton.mp member⟩

theorem Prepares.mono {action : Action (Traced σ) α} {P Q : String → Prop} (prepares : action.Prepares P)
    (weaker : ∀ sql, P sql → Q sql) : action.Prepares Q :=
  Calls.mono prepares fun _ _ all sql member => weaker sql (all sql member)

theorem Prepares.bind {action : Action (Traced σ) α} {f : α → Action (Traced σ) β} {P : String → Prop}
    (head : action.Prepares P) (next : ∀ a, (f a).Prepares P) : (action >>= f).Prepares P := by
  refine Calls.bind head (fun _ _ all => all) ?_
  intro a made all
  refine Calls.mono (next a) ?_
  intro outcome others allNext sql member
  rw [preparedBy_append] at member
  rcases List.mem_append.mp member with inMade | inOthers
  · exact all sql inMade
  · exact allNext sql inOthers

theorem Prepares.map {action : Action (Traced σ) α} {P : String → Prop} (prepares : action.Prepares P)
    (f : α → β) : (f <$> action).Prepares P := by
  rw [map_eq_pure_bind]
  refine prepares.bind fun a => calls_ofExcept (.ok (f a)) ?_
  intro sql member
  cases member

end Action

namespace Query

theorem draft_matching (s : Session σ) (d : Draft) (search : Record) :
    ((traced s d).matching search).draft = d.narrowed search.entries := d.foldl_equals search.entries

theorem conditions_matching (s : Session σ) (d : Draft) (search : Record) :
    ((traced s d).matching search).draft.clauses.conditions =
      d.clauses.conditions ++ search.entries.map equality := by
  rw [draft_matching]
  rfl

/-- An update that inserts where it finds nothing sends the lookup, the update of what is looked up, and
the insert, and nothing else. -/
theorem prepares_updateOrInsert (s : Session σ) (d : Draft) (search update : Record) :
    ((traced s d).updateOrInsert search update).Prepares fun sql => ∃ st, sql = st.sql ∧
      (((traced s d).matching search).draft.build = .ok st ∨
        ((traced s d).matching search).draft.updateStatement update = .ok st ∨
        ((traced s d).matching search).target.draft.insertStatement (.row (search.merge update)) = .ok st) := by
  have looks := (first_agrees (α := Row) s ((traced s d).matching search).draft).prepares rfl
  refine (looks.mono ?_).bind ?_
  · rintro sql ⟨st, made, same⟩
    exact ⟨st, same, .inl made⟩
  · intro found
    cases found with
    | some row =>
      have updates := (execute_agrees s (((traced s d).matching search).draft.stageUpdate update)).prepares rfl
      refine Action.Prepares.map (updates.mono ?_) _
      rintro sql ⟨st, made, same⟩
      exact ⟨st, same, .inr (.inl made)⟩
    | none =>
      have inserts := (insert_agrees s ((traced s d).matching search).target.draft
        (.row (search.merge update))).prepares rfl
      refine Action.Prepares.map (inserts.mono ?_) _
      rintro sql ⟨st, made, same⟩
      exact ⟨st, same, .inr (.inr made)⟩

/-- What is sent to look for rows, and to update the ones found, asks for the equalities of the search
behind the conditions that the query had before. They are asked of every row just if none of those but
the first is tied with OR; and so it is for finding a row by one value. -/
theorem search_enforced_iff (s : Session σ) (d : Draft) (search update : Record) (nonempty : search.entries ≠ []) :
    (((traced s d).updateOrInsert search update).Prepares fun sql => ∃ st, sql = st.sql ∧
      (((traced s d).matching search).draft.build = .ok st ∨
        ((traced s d).matching search).draft.updateStatement update = .ok st ∨
        ((traced s d).matching search).target.draft.insertStatement (.row (search.merge update)) = .ok st)) ∧
      ((traced s d).matching search).draft.Narrows d.clauses.conditions (search.entries.map equality) ∧
      (((traced s d).matching search).draft.stageUpdate update).Narrows d.clauses.conditions
        (search.entries.map equality) ∧
      ∀ column v,
        (((traced s d).find column v).Prepares fun sql => ∃ st, (d.equals column v).build = .ok st ∧ sql = st.sql) ∧
        (d.equals column v).Narrows d.clauses.conditions [equality (column, v)] := by
  refine ⟨prepares_updateOrInsert s d search update, ?_, ?_, ?_⟩
  · exact Draft.narrows_of_equalities (conditions_matching s d search) nonempty
  · refine Draft.narrows_of_equalities ?_ nonempty
    rw [Draft.clauses_stageUpdate]
    exact conditions_matching s d search
  · intro column v
    refine ⟨(first_agrees s (d.equals column v)).prepares rfl, ?_⟩
    have narrows : (d.equals column v).Narrows d.clauses.conditions ([(column, v)].map equality) :=
      Draft.narrows_of_equalities (d.conditions_equals column v) (List.cons_ne_nil _ _)
    exact narrows

theorem search_enforced_iff_and :
    (Record.ofList [("c", .int 3)]).entries ≠ [] ∧
      ((traced (Scripted.session "mock") (((Draft.empty.table "t").equals "a" (.int 1)).equals "b" (.int 2))).matching
        (.ofList [("c", .int 3)])).draft.clauses.Enforces 2 :=
  ⟨by decide, (search_enforced_iff (Scripted.session "mock")
    (((Draft.empty.table "t").equals "a" (.int 1)).equals "b" (.int 2)) (.ofList [("c", .int 3)])
    (.ofList [("d", .int 4)]) (by decide)).2.1.enforced.mpr (by decide)⟩

/-- Behind an OR a search is not enforced: the lookup, the update that is sent for the row it finds, and a
search for one value all let rows pass of which the first condition alone is true. -/
theorem search_not_enforced :
    let d := ((Draft.empty.table "t").equals "a" (.int 1)).compare .or "b" "=" (.int 2)
    let q := traced (Scripted.session "mock") d
    let search := Record.ofList [("c", .int 3)]
    let update := Record.ofList [("d", .int 4)]
    let store : Scripted := { rows := [⟨[("a", .int 1)]⟩], affected := 1 }
    (q.updateOrInsert search update (some { store })).2.map (fun t => preparedBy t.calls) =
        some ["SELECT * FROM t WHERE a = ? OR b = ? AND c = ?",
          "UPDATE t SET d = ? WHERE a = ? OR b = ? AND c = ?"] ∧
      ¬ (q.matching search).draft.clauses.Enforces 2 ∧
      ¬ ((q.matching search).draft.stageUpdate update).clauses.Enforces 2 ∧
      ¬ (d.equals "c" (.int 3)).clauses.Enforces 2 := by
  refine ⟨by rfl, ?_, ?_, ?_⟩
  all_goals
    intro enforces
    have passes := enforces (· == 0) (.inr ⟨_, List.mem_cons_self, by decide⟩) 2 (by decide) (by decide)
    exact absurd passes (by decide)

end Query
end SqlDraft
