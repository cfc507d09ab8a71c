import SqlDraft.Proofs.Template.Shapes

/-!
# Conditions and their alternatives

How a statement's conditions are read: AND binds tighter than OR, so the conditions fall into
alternatives at every OR, and a row passes if all conditions of one alternative are true of it. The
text of a statement is written that way (`whereTemplates_eq`), and it says just what the conditions say
(`Draft.where_of_template`).
-/

namespace SqlDraft

/-! ## Alternatives -/

/-- A condition at its place among the conditions of a statement. -/
abbrev Occurrence := Condition × Nat

/-- The conditions up to the next OR, and the alternatives from there on. -/
def cut : List Occurrence → List Occurrence × List (List Occurrence)
  | [] => ([], [])
  | o :: rest =>
    match o.1.connective with
    | .and => (o :: (cut rest).1, (cut rest).2)
    | .or => ([], (o :: (cut rest).1) :: (cut rest).2)

/-- The conditions cut at every OR. The first one's connective has no effect. -/
def alternatives : List Occurrence → List (List Occurrence)
  | [] => []
  | first :: rest => (first :: (cut rest).1) :: (cut rest).2

theorem cut_and {o : Occurrence} (tied : o.1.connective = .and) (rest : List Occurrence) :
    cut (o :: rest) = (o :: (cut rest).1, (cut rest).2) := by
  rw [cut, tied]

theorem cut_or {o : Occurrence} (free : o.1.connective = .or) (rest : List Occurrence) :
    cut (o :: rest) = ([], alternatives (o :: rest)) := by
  rw [cut, free, alternatives]

/-- Without an OR there is one alternative. -/
theorem cut_of_and {os : List Occurrence} (tied : ∀ o ∈ os, o.1.connective = .and) : cut os = (os, []) := by
  induction os with
  | nil => rfl
  | cons o rest ih =>
    rw [cut_and (tied o List.mem_cons_self), ih fun o' member => tied o' (List.mem_cons_of_mem o member)]

/-- What stands behind an OR does not belong to the alternative before it. -/
theorem cut_append_of_or {os : List Occurrence} (free : ∃ o ∈ os, o.1.connective = .or)
    (behind : List Occurrence) : (cut (os ++ behind)).1 = (cut os).1 := by
  induction os with
  | nil =>
    obtain ⟨o, member, _⟩ := free
    cases member
  | cons o rest ih =>
    rw [List.cons_append]
    cases connective : o.1.connective with
    | or => rw [cut_or connective, cut_or connective]
    | and =>
      have later : ∃ o ∈ rest, o.1.connective = .or := by
        obtain ⟨o', member, isOr⟩ := free
        rcases List.mem_cons.mp member with same | inRest
        · subst same
          rw [connective] at isOr
          cases isOr
        · exact ⟨o', inRest, isOr⟩
      rw [cut_and connective, cut_and connective, ih later]

theorem mem_of_mem_cut {os : List Occurrence} {o : Occurrence} (member : o ∈ (cut os).1) : o ∈ os := by
  induction os with
  | nil => exact member
  | cons first rest ih =>
    cases connective : first.1.connective with
    | or =>
      rw [cut_or connective] at member
      cases member
    | and =>
      rw [cut_and connective] at member
      rcases List.mem_cons.mp member with same | inRest
      · exact List.mem_cons.mpr (.inl same)
      · exact List.mem_cons_of_mem first (ih inRest)

/-! ## Writing -/

namespace Template

theorem joined_cons_cons (between : String) (t u : Template) (rest : List Template) :
    joined between (t :: u :: rest) = t ++ .text between :: joined between (u :: rest) := rfl

/-- What stands before the first of some joined templates may as well be a part of it. -/
theorem joined_append_cons (between : String) (t u : Template) (rest : List Template) :
    joined between ((t ++ u) :: rest) = t ++ joined between (u :: rest) := by
  cases rest with
  | nil => rfl
  | cons next rest =>
    rw [joined_cons_cons, joined_cons_cons, List.append_assoc]

/-- Joined with a space, a template has the ones behind it behind a space each. -/
theorem sql_joined_cons (t : Template) (behind : List Template) :
    sql (joined " " (t :: behind)) = t.sql ++ String.join (behind.map fun u : Template => " " ++ u.sql) := by
  induction behind generalizing t with
  | nil =>
    rw [List.map_nil, String.join_nil, String.append_empty]
    rfl
  | cons u rest ih =>
    rw [joined_cons_cons, sql_append, sql_cons, ih, List.map_cons, String.join_cons, String.append_assoc]
    rfl

/-- A template among some that are joined with spaces: something stands before it, and behind it the
others. -/
theorem exists_sql_joined (before : List Template) (t : Template) (behind : List Template) :
    ∃ head : String, sql (joined " " (before ++ t :: behind)) =
      head ++ t.sql ++ String.join (behind.map fun u : Template => " " ++ u.sql) := by
  induction before with
  | nil =>
    refine ⟨"", ?_⟩
    rw [List.nil_append, sql_joined_cons, String.empty_append]
  | cons first rest ih =>
    obtain ⟨head, written⟩ := ih
    obtain ⟨next, others, shape⟩ : ∃ next others, rest ++ t :: behind = next :: others := by
      cases rest with
      | nil => exact ⟨t, behind, rfl⟩
      | cons next others => exact ⟨next, others ++ t :: behind, rfl⟩
    refine ⟨first.sql ++ (" " ++ head), ?_⟩
    rw [List.cons_append, shape, joined_cons_cons, sql_append, sql_cons, ← shape, written, Piece.sql]
    simp only [String.append_assoc]

end Template

/-- Alternatives as they are written: AND within each, OR between them. -/
def writtenAlternatives (groups : List (List Occurrence)) : Template :=
  Template.joined " OR " (groups.map fun group =>
    Template.joined " AND " (group.map (·.1.predicate.template)))

theorem writtenAlternatives_cons_cons (o next : Occurrence) (group : List Occurrence)
    (others : List (List Occurrence)) :
    writtenAlternatives ((o :: next :: group) :: others) =
      o.1.predicate.template ++ .text " AND " :: writtenAlternatives ((next :: group) :: others) := by
  have moved := Template.joined_append_cons " OR " (o.1.predicate.template ++ [.text " AND "])
    (Template.joined " AND " ((next :: group).map (·.1.predicate.template)))
    (others.map fun group => Template.joined " AND " (group.map (·.1.predicate.template)))
  rw [List.append_assoc, List.append_assoc] at moved
  exact moved

theorem writtenAlternatives_single (o : Occurrence) (next : List Occurrence) (others : List (List Occurrence)) :
    writtenAlternatives ([o] :: next :: others) =
      o.1.predicate.template ++ .text " OR " :: writtenAlternatives (next :: others) := rfl

/-- Conditions one after the other, each with its connective before it, are their alternatives. -/
theorem written_alternatives (first : Occurrence) (rest : List Occurrence) :
    first.1.predicate.template ++ Clauses.furtherConditions (rest.map Prod.fst) =
      writtenAlternatives (alternatives (first :: rest)) := by
  induction rest generalizing first with
  | nil => exact List.append_nil _
  | cons o rest ih =>
    rw [List.map_cons, Clauses.furtherConditions, ih o]
    -- Tied with AND, `first` joins the first alternative of the rest; before an OR it is one of its own.
    cases connective : o.1.connective with
    | and =>
      have shape : alternatives (first :: o :: rest) = (first :: o :: (cut rest).1) :: (cut rest).2 := by
        rw [alternatives, cut_and connective]
      rw [shape, writtenAlternatives_cons_cons]
      rfl
    | or =>
      have shape : alternatives (first :: o :: rest) = [first] :: alternatives (o :: rest) := by
        rw [alternatives, cut_or connective]
      rw [shape]
      exact (writtenAlternatives_single first (o :: (cut rest).1) (cut rest).2).symm

namespace Clauses

/-- The conditions, each at its place. -/
def occurrences (c : Clauses) : List Occurrence := c.conditions.zipIdx

/-- The conditions of a statement are written as their alternatives. -/
theorem whereTemplates_eq {c : Clauses} (nonempty : c.conditions ≠ []) :
    c.whereTemplates = [.text "WHERE " :: writtenAlternatives (alternatives c.occurrences)] := by
  rw [whereTemplates, occurrences]
  cases conditions : c.conditions with
  | nil => exact absurd conditions nonempty
  | cons first rest =>
    have written := written_alternatives (first, 0) (rest.zipIdx 1)
    rw [List.zipIdx_map_fst] at written
    rw [List.zipIdx_cons, ← written]

/-- Among other clauses, the conditions are behind `WHERE`. -/
theorem exists_sql_where {c : Clauses} (nonempty : c.conditions ≠ []) (before behind : List Template) :
    ∃ head : String, (Template.joined " " (before ++ c.whereTemplates ++ behind)).sql =
      head ++ ("WHERE " ++ (writtenAlternatives (alternatives c.occurrences)).sql) ++
        String.join (behind.map fun u : Template => " " ++ u.sql) := by
  obtain ⟨head, written⟩ := Template.exists_sql_joined before
    (.text "WHERE " :: writtenAlternatives (alternatives c.occurrences)) behind
  rw [Template.sql_cons] at written
  refine ⟨head, ?_⟩
  rw [whereTemplates_eq nonempty, List.append_assoc]
  exact written

end Clauses

/-- The statement of a draft with conditions has them behind `WHERE`, as their alternatives, and behind
them only the clauses for groups, order and size. -/
theorem Draft.where_of_template {d : Draft} {t : Template} (ok : d.template = .ok t)
    (nonempty : d.clauses.conditions ≠ []) :
    ∃ (head : String) (tail : List Template), (tail = [] ∨ tail = d.clauses.tailTemplates) ∧
      t.sql = head ++ ("WHERE " ++ (writtenAlternatives (alternatives d.clauses.occurrences)).sql) ++
        String.join (tail.map fun u : Template => " " ++ u.sql) := by
  obtain ⟨_, shape⟩ := template_eq_ok ok
  cases purpose : d.purpose with
  | select aggregate =>
    rw [purpose] at shape
    obtain ⟨table, _, same⟩ := Selection.template_eq_ok shape
    subst same
    obtain ⟨head, written⟩ := Clauses.exists_sql_where nonempty
      (.ofText ("SELECT " ++ Selection.projection ⟨d.clauses, aggregate⟩ ++ " FROM " ++ table) ::
        d.clauses.joinTemplates) d.clauses.tailTemplates
    exact ⟨head, _, .inr rfl, written⟩
  | insert source =>
    rw [purpose] at shape
    obtain ⟨_, _, none, _⟩ := insertTemplate_eq_ok shape
    exact absurd none nonempty
  | update assignments =>
    rw [purpose] at shape
    obtain ⟨table, _, same⟩ := updateTemplate_eq_ok shape
    subst same
    obtain ⟨head, written⟩ := Clauses.exists_sql_where nonempty
      (.ofText ("UPDATE " ++ table) :: (d.clauses.joinTemplates ++
        [.text "SET " :: Template.joined ", " (assignments.entries.map assignmentTemplate)])) []
    rw [List.append_nil] at written
    exact ⟨head, [], .inl rfl, written⟩
  | delete =>
    rw [purpose] at shape
    obtain ⟨table, _, same⟩ := deleteTemplate_eq_ok shape
    subst same
    obtain ⟨head, written⟩ := Clauses.exists_sql_where nonempty
      (.ofText ("DELETE FROM " ++ table) :: d.clauses.joinTemplates) []
    rw [List.append_nil] at written
    exact ⟨head, [], .inl rfl, written⟩

/-! ## Truth -/

namespace Clauses

/-- Whether a row passes, of which the conditions at some places are true. -/
def Passes (c : Clauses) (truth : Nat → Bool) : Prop :=
  c.conditions = [] ∨ ∃ group ∈ alternatives c.occurrences, ∀ o ∈ group, truth o.2 = true

/-- A row passes only if every condition from some place on is true of it. -/
def Enforces (c : Clauses) (place : Nat) : Prop :=
  ∀ truth, c.Passes truth → ∀ i, place ≤ i → i < c.conditions.length → truth i = true

/-- With AND between all conditions, all of them are enforced. -/
theorem enforces_of_and {c : Clauses} (tied : ∀ x ∈ c.conditions.tail, x.connective = .and) : c.Enforces 0 := by
  intro truth passes i _ inside
  rcases passes with none | ⟨group, member, holds⟩
  · rw [none] at inside
    cases inside
  · cases conditions : c.conditions with
    | nil =>
      rw [conditions] at inside
      cases inside
    | cons first rest =>
      rw [conditions, List.tail_cons] at tied
      have tiedRest : ∀ o ∈ rest.zipIdx 1, o.1.connective = .and := by
        intro o found
        exact tied o.1 (List.fst_mem_of_mem_zipIdx found)
      rw [occurrences, conditions, List.zipIdx_cons, alternatives, cut_of_and tiedRest,
        List.mem_singleton] at member
      subst member
      obtain ⟨x, at_i⟩ : ∃ x, c.conditions[i]? = some x := ⟨_, List.getElem?_eq_getElem inside⟩
      have found : (x, i) ∈ c.conditions.zipIdx := List.mem_zipIdx_iff_getElem?.mpr at_i
      rw [conditions, List.zipIdx_cons] at found
      exact holds _ found

/-- An OR lets rows pass of which nothing behind it is true: those of which all conditions before are. -/
theorem passes_of_or {c : Clauses} {prior behind : List Condition} (conditions : c.conditions = prior ++ behind)
    (free : ∃ x ∈ prior.tail, x.connective = .or) : c.Passes fun i => decide (i < prior.length) := by
  cases prior with
  | nil =>
    obtain ⟨x, member, _⟩ := free
    cases member
  | cons first rest =>
    obtain ⟨x, member, isOr⟩ := free
    refine .inr ⟨(first, 0) :: (cut (rest.zipIdx 1)).1, ?_, ?_⟩
    · have freeRest : ∃ o ∈ rest.zipIdx 1, o.1.connective = .or := by
        obtain ⟨i, at_i⟩ := List.mem_iff_getElem?.mp member
        exact ⟨(x, i + 1), List.mem_zipIdx_iff_le_and_getElem?_sub.mpr ⟨by omega, by simpa using at_i⟩, isOr⟩
      rw [occurrences, conditions, List.cons_append, List.zipIdx_cons, alternatives, List.zipIdx_append,
        cut_append_of_or freeRest]
      exact List.mem_cons_self
    · intro o member
      rcases List.mem_cons.mp member with same | inCut
      · subst same
        exact decide_eq_true (Nat.zero_lt_succ _)
      · have place := List.mem_zipIdx (mem_of_mem_cut inCut)
        rw [List.length_cons]
        exact decide_eq_true (by omega)

/-- Conditions that are added with AND are enforced just if there is no OR among those before them. -/
theorem enforces_iff {c : Clauses} {prior behind : List Condition} (conditions : c.conditions = prior ++ behind)
    (nonempty : behind ≠ []) (tied : ∀ x ∈ behind, x.connective = .and) :
    c.Enforces prior.length ↔ ∀ x ∈ prior.tail, x.connective = .and := by
  constructor
  · intro enforces x member
    cases connective : x.connective with
    | and => rfl
    | or =>
      -- Of this row the prior conditions are true and no others, so the one right behind them is not.
      have passes := passes_of_or conditions ⟨x, member, connective⟩
      have last := enforces _ passes prior.length (Nat.le_refl _) (by
        rw [conditions, List.length_append]
        have := List.length_pos_iff.mpr nonempty
        omega)
      exact absurd (of_decide_eq_true last) (Nat.lt_irrefl _)
  · intro tiedBefore truth passes i _ inside
    refine enforces_of_and ?_ truth passes i (Nat.zero_le i) inside
    intro x member
    rw [conditions] at member
    cases prior with
    | nil => exact tied x (List.mem_of_mem_tail member)
    | cons first rest =>
      rcases List.mem_append.mp member with inPrior | inBehind
      · exact tiedBefore x inPrior
      · exact tied x inBehind

end Clauses
end SqlDraft
