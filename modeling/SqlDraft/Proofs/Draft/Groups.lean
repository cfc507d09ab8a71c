import SqlDraft.Proofs.Draft.Coherence
import SqlDraft.Proofs.Draft.Refusal
import SqlDraft.Session.Query

/-!
# Groups of setters

Each setter belongs to the group of the clause that it is about, and what it does to a draft depends on that
clause and changes nothing else (`agreeOn_apply`, `agreeOn_apply_other`). So a run of setters does to each
clause what the setters of its group do alone (`agreeOn_applyAll`), and two runs that differ only in how the
groups are shuffled make the same draft (`applyAll_shuffled`).
-/

namespace SqlDraft
namespace Draft

/-- Two drafts agree on the clause that a group of setters is about. The values that are bound go with the
conditions. -/
def AgreeOn (d d' : Draft) : Setter.Group → Prop
  | .projection => d.clauses.columns = d'.clauses.columns ∧ d.clauses.distinct = d'.clauses.distinct
  | .target => d.clauses.table = d'.clauses.table ∧ d.clauses.source = d'.clauses.source
  | .conditions => d.clauses.conditions = d'.clauses.conditions ∧ d.bindings = d'.bindings
  | .joins => d.clauses.joins = d'.clauses.joins
  | .groupBy => d.clauses.groupBy = d'.clauses.groupBy
  | .orderBy => d.clauses.orderBy = d'.clauses.orderBy
  | .limit => d.clauses.limit = d'.clauses.limit
  | .offset => d.clauses.offset = d'.clauses.offset

variable {d d' : Draft} {g : Setter.Group}

theorem AgreeOn.refl (d : Draft) (g : Setter.Group) : d.AgreeOn d g := by
  cases g <;> simp [AgreeOn]

theorem AgreeOn.trans {d'' : Draft} (first : d.AgreeOn d' g) (second : d'.AgreeOn d'' g) : d.AgreeOn d'' g := by
  cases g <;> simp_all [AgreeOn]

theorem AgreeOn.symm (agree : d.AgreeOn d' g) : d'.AgreeOn d g := by
  cases g <;> simp_all [AgreeOn]

/-- Clauses, purpose and bound values are all there is to a draft but the note of a refusal. -/
theorem pardoned_of_agreeOn (agree : ∀ g, d.AgreeOn d' g) (purpose : d.purpose = d'.purpose) :
    d.pardoned = d'.pardoned := by
  obtain ⟨columns, distinct⟩ := agree .projection
  obtain ⟨table, source⟩ := agree .target
  obtain ⟨conditions, bindings⟩ := agree .conditions
  have clauses : d.clauses = d'.clauses := by
    obtain ⟨c, _, _, _⟩ := d
    obtain ⟨c', _, _, _⟩ := d'
    cases c
    cases c'
    simp only [Clauses.mk.injEq]
    exact ⟨columns, distinct, table, source, agree .joins, conditions, agree .groupBy, agree .orderBy,
      agree .limit, agree .offset⟩
  rw [pardoned, pardoned, clauses, purpose, bindings]

/-! ## One setter -/

theorem agreeOn_addCondition_other (d : Draft) (connective : Connective) (predicate : Predicate)
    (apart : g ≠ .conditions) : (d.addCondition connective predicate).AgreeOn d g := by
  cases g with
  | conditions => exact absurd rfl apart
  | _ => simp [AgreeOn, addCondition, withClauses]

theorem agreeOn_addJoin_other (d : Draft) (join : Join) (apart : g ≠ .joins) : (d.addJoin join).AgreeOn d g := by
  cases g with
  | joins => exact absurd rfl apart
  | _ => simp [AgreeOn, addJoin, withClauses]

theorem agreeOn_apply_other (d : Draft) {s : Setter} (apart : g ≠ s.group) : (d.apply s).AgreeOn d g := by
  cases s with
  | compare connective column operator v =>
    simp only [apply, compare]
    split
    · exact d.agreeOn_addCondition_other connective _ apart
    · exact AgreeOn.refl d g
  | isIn connective column vs negated => exact d.agreeOn_addCondition_other connective _ apart
  | between connective column low high => exact d.agreeOn_addCondition_other connective _ apart
  | condition connective sql => exact d.agreeOn_addCondition_other connective _ apart
  | join side name left operator right =>
    simp only [apply, join]
    split
    · exact d.agreeOn_addJoin_other _ apart
    · exact AgreeOn.refl d g
  | joinRaw side sql => exact d.agreeOn_addJoin_other _ apart
  | _ => cases g <;> simp_all [AgreeOn, Setter.group, apply, select, selectAll, selectDistinct, distinct, table,
      source, groupBy, orderBy, limit, offset, clearParams, withClauses]

theorem agreeOn_addCondition (agree : d.AgreeOn d' .conditions) (connective : Connective) (predicate : Predicate) :
    (d.addCondition connective predicate).AgreeOn (d'.addCondition connective predicate) .conditions := by
  obtain ⟨conditions, bindings⟩ := agree
  simp [AgreeOn, addCondition, withClauses, conditions, bindings]

theorem agreeOn_addJoin (agree : d.AgreeOn d' .joins) (join : Join) :
    (d.addJoin join).AgreeOn (d'.addJoin join) .joins :=
  congrArg (· ++ [join]) agree

theorem agreeOn_apply (s : Setter) (agree : d.AgreeOn d' s.group) : (d.apply s).AgreeOn (d'.apply s) s.group := by
  cases s with
  | compare connective column operator v =>
    simp only [apply, compare]
    split
    · exact agreeOn_addCondition agree connective _
    · exact agree
  | isIn connective column vs negated => exact agreeOn_addCondition agree connective _
  | between connective column low high => exact agreeOn_addCondition agree connective _
  | condition connective sql => exact agreeOn_addCondition agree connective _
  | join side name left operator right =>
    simp only [apply, join]
    split
    · exact agreeOn_addJoin agree _
    · exact agree
  | joinRaw side sql => exact agreeOn_addJoin agree _
  | _ => simp_all [AgreeOn, Setter.group, apply, select, selectAll, selectDistinct, distinct, table, source,
      groupBy, orderBy, limit, offset, clearParams, withClauses]

/-! ## Runs of setters -/

theorem eq_of_pardoned (pardoned : d.pardoned = d'.pardoned) (rejection : d.rejection = d'.rejection) : d = d' := by
  cases d
  cases d'
  simp_all [Draft.pardoned]

theorem agreeOn_applyAll (agree : d.AgreeOn d' g) (setters : List Setter) :
    (d.applyAll setters).AgreeOn (d'.applyAll (setters.filter (·.group = g))) g := by
  induction setters generalizing d d' with
  | nil => exact agree
  | cons s rest ih =>
    by_cases own : s.group = g
    · subst own
      rw [applyAll_cons, List.filter_cons_of_pos (by simp), applyAll_cons]
      exact ih (agreeOn_apply s agree)
    · -- A setter of another group moves the draft, but not away from this one in the clause of the group.
      rw [applyAll_cons, List.filter_cons_of_neg (by simpa using own)]
      exact ih ((d.agreeOn_apply_other (Ne.symm own)).trans agree)

theorem pardoned_shuffled {first second : List Setter}
    (same : ∀ g, first.filter (·.group = g) = second.filter (·.group = g)) (d : Draft) :
    (d.applyAll first).pardoned = (d.applyAll second).pardoned := by
  refine pardoned_of_agreeOn (fun g => ?_) ?_
  · have alone := agreeOn_applyAll (AgreeOn.refl d g) first
    rw [same g] at alone
    exact alone.trans (agreeOn_applyAll (AgreeOn.refl d g) second).symm
  · rw [purpose_applyAll, purpose_applyAll]

theorem mem_of_shuffled {first second : List Setter}
    (same : ∀ g, first.filter (·.group = g) = second.filter (·.group = g)) {s : Setter} (member : s ∈ second) :
    s ∈ first := by
  have inGroup : s ∈ second.filter (·.group = s.group) := by simp [member]
  rw [← same s.group] at inGroup
  exact (List.mem_filter.mp inGroup).1

end Draft

namespace Query

variable {σ : Type}

/-- Two runs of setters that are the same group by group, in whatever order the groups are mixed, make the same
query of a query, and so whatever is read off it or run is the same. If a setter is refused, both runs end with
the note of a refusal, and but for that note the drafts are still the same. -/
theorem applyAll_shuffled (q : Query σ) {first second : List Setter}
    (same : ∀ g, first.filter (·.group = g) = second.filter (·.group = g)) :
    ((∀ s ∈ first, s.isRejected = false) →
        q.withDraft (·.applyAll first) = q.withDraft (·.applyAll second)) ∧
      ((∃ s ∈ first, s.isRejected = true) →
        (q.draft.applyAll first).rejection.isSome ∧ (q.draft.applyAll second).rejection.isSome) ∧
      (q.draft.applyAll first).pardoned = (q.draft.applyAll second).pardoned := by
  have pardoned := Draft.pardoned_shuffled same q.draft
  refine ⟨?_, ?_, pardoned⟩
  · intro accepted
    have rejection : (q.draft.applyAll first).rejection = (q.draft.applyAll second).rejection := by
      rw [Draft.rejection_of_accepted accepted,
        Draft.rejection_of_accepted fun s member => accepted s (Draft.mem_of_shuffled same member)]
    rw [withDraft, withDraft, Draft.eq_of_pardoned pardoned rejection]
  · rintro ⟨s, member, refused⟩
    have later : s ∈ second := Draft.mem_of_shuffled (fun g => (same g).symm) member
    rw [s.isRejected_eq] at refused
    rw [Draft.rejection_applyAll, Draft.rejection_applyAll, Option.isSome_or, Option.isSome_or,
      List.findSome?_isSome_iff.mpr ⟨s, member, refused⟩, List.findSome?_isSome_iff.mpr ⟨s, later, refused⟩]
    simp

/-- Every group has setters here, one of them is set twice, and values are bound, dropped and bound again. -/
theorem applyAll_shuffled_interleaved :
    let first : List Setter := [.select ["a"], .table "t", .compare .and "a" "=" (.int 1), .limit 9, .clearParams,
      .join .left "u" "t.a" "<" "u.a", .isIn .or "b" [.int 2, .raw "c"] false, .orderBy "a" .descending,
      .groupBy ["a"], .source "v", .distinct true, .limit 5, .offset 3]
    let second : List Setter := [.offset 3, .limit 9, .limit 5, .orderBy "a" .descending, .groupBy ["a"],
      .compare .and "a" "=" (.int 1), .table "t", .clearParams, .source "v", .select ["a"],
      .isIn .or "b" [.int 2, .raw "c"] false, .join .left "u" "t.a" "<" "u.a", .distinct true]
    let q : Query Unit := ⟨none, .empty⟩
    (∀ g, first.filter (·.group = g) = second.filter (·.group = g)) ∧ (∀ s ∈ first, s.isRejected = false) ∧
      q.withDraft (·.applyAll first) = q.withDraft (·.applyAll second) ∧
      (q.draft.applyAll first).bindings = ⟨[], [], [.int 2]⟩ := by
  intro first second q
  have same : ∀ g, first.filter (·.group = g) = second.filter (·.group = g) := by
    intro g
    cases g <;> decide
  have accepted : ∀ s ∈ first, s.isRejected = false := by decide
  exact ⟨same, accepted, (applyAll_shuffled q same).1 accepted, rfl⟩

end Query
end SqlDraft
