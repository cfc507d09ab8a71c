import SqlDraft.Proofs.Clause.Comparisons
import SqlDraft.Proofs.Draft.Groups
import SqlDraft.Proofs.Session.Dependence
import SqlDraft.Proofs.Template.Alternatives

/-!
# Operators in statements

The operator of a comparison or join is the one text of a caller that is looked at before it goes into a statement.
Where it names an operator, the clause is kept with the operator itself (`has_apply`) and no later setter drops it
(`has_applyAll`), so every statement that has conditions or joins shows the clause with the operator's own spelling
(`occurs_of_has`); where it names none, the draft is refused and nothing of the clause is kept (`discards_of_unknown`).
-/

namespace SqlDraft

/-! ## Texts in texts -/

/-- A text stands somewhere in another one. -/
def Occurs (part whole : String) : Prop := ∃ before behind, whole = before ++ part ++ behind

theorem occurs_self (text : String) : Occurs text text := ⟨"", "", by simp⟩

theorem Occurs.append {part whole : String} (occurs : Occurs part whole) (back : String) :
    Occurs part (whole ++ back) := by
  obtain ⟨before, behind, rfl⟩ := occurs
  exact ⟨before, behind ++ back, by simp [String.append_assoc]⟩

theorem Occurs.prepend {part whole : String} (occurs : Occurs part whole) (front : String) :
    Occurs part (front ++ whole) := by
  obtain ⟨before, behind, rfl⟩ := occurs
  exact ⟨front ++ before, behind, by simp [String.append_assoc]⟩

theorem Occurs.trans {part middle whole : String} (inner : Occurs part middle) (outer : Occurs middle whole) :
    Occurs part whole := by
  obtain ⟨before, behind, rfl⟩ := outer
  exact (inner.prepend before).append behind

theorem sql_compare (column : String) (op : Comparison) (v : Value) :
    Template.sql (Predicate.compare column op v).template =
      column ++ " " ++ op.sql ++ " " ++ (Piece.ofValue v).sql := by
  rw [Predicate.sql_eq_written, Predicate.written, Piece.sql_ofValue]

namespace Template

theorem occurs_joined {t : Template} {ts : List Template} (member : t ∈ ts) : Occurs t.sql (joined " " ts).sql := by
  obtain ⟨before, behind, rfl⟩ := List.append_of_mem member
  obtain ⟨head, written⟩ := exists_sql_joined before t behind
  exact ⟨head, _, written⟩

end Template

theorem occurs_intercalate {text between : String} {texts : List String} (member : text ∈ texts) :
    Occurs text (String.intercalate between texts) := by
  induction texts with
  | nil => cases member
  | cons first rest ih =>
    cases rest with
    | nil =>
      rw [List.mem_singleton.mp member, String.intercalate_singleton]
      exact occurs_self first
    | cons next more =>
      rw [String.intercalate_cons_cons]
      rcases List.mem_cons.mp member with rfl | later
      · exact ((occurs_self _).append _).append _
      · exact (ih later).prepend _

namespace Clauses

variable {c : Clauses}

theorem occurs_further {x : Condition} {xs : List Condition} (member : x ∈ xs) :
    Occurs (Template.sql x.predicate.template) (Template.sql (furtherConditions xs)) := by
  induction xs with
  | nil => cases member
  | cons first rest ih =>
    rw [furtherConditions, Template.sql_cons, Template.sql_append]
    rcases List.mem_cons.mp member with rfl | later
    · exact ((occurs_self _).append _).prepend _
    · exact ((ih later).prepend _).prepend _

/-- Every condition stands in the part of a statement that has the conditions. -/
theorem occurs_where {x : Condition} (member : x ∈ c.conditions) :
    ∃ t ∈ c.whereTemplates, Occurs (Template.sql x.predicate.template) t.sql := by
  rw [whereTemplates]
  cases conditions : c.conditions with
  | nil => simp [conditions] at member
  | cons first rest =>
    rw [conditions] at member
    refine ⟨_, List.mem_singleton_self _, ?_⟩
    rw [Template.sql_cons, Template.sql_append]
    rcases List.mem_cons.mp member with rfl | later
    · exact ((occurs_self _).append _).prepend _
    · exact ((occurs_further later).prepend _).prepend _

theorem occurs_joins {join : Join} (member : join ∈ c.joins) : ∃ t ∈ c.joinTemplates, Occurs join.sql t.sql := by
  have some : c.joins.isEmpty = false := List.isEmpty_eq_false_iff_exists_mem.mpr ⟨join, member⟩
  rw [joinTemplates, if_neg (by simp [some])]
  refine ⟨_, List.mem_singleton_self _, ?_⟩
  rw [Template.ofText, Template.sql_cons]
  exact (occurs_intercalate (List.mem_map_of_mem member)).append _

end Clauses

/-! ## Setters that name an operator -/

namespace Setter

/-- The operator that a setter names, as it is spelled there. -/
def operator? : Setter → Option String
  | compare _ _ operator _ | join _ _ _ operator _ => some operator
  | _ => none

/-- The setter with its operator spelled in another way. -/
def withOperator (operator : String) : Setter → Setter
  | compare connective column _ v => compare connective column operator v
  | join side name left _ right => join side name left operator right
  | s => s

/-- What a setter adds to a statement, with its operator spelled in some way. -/
def clauseText (operator : String) : Setter → String
  | compare _ column _ v => column ++ " " ++ operator ++ " " ++ (Piece.ofValue v).sql
  | join side name left _ right => side.sql ++ " " ++ name ++ " ON " ++ left ++ " " ++ operator ++ " " ++ right
  | _ => ""

theorem isRejected_of_operator {s : Setter} {operator : String} (named : s.operator? = some operator) :
    s.isRejected = (Comparison.read? operator).isNone := by
  cases s with
  | compare connective column operator v => cases named; rfl
  | join side name left operator right => cases named; rfl
  | _ => cases named

end Setter

/-- The clauses have what a setter adds, with an operator. -/
def Clauses.Has (c : Clauses) (op : Comparison) : Setter → Prop
  | .compare connective column _ v => ⟨connective, .compare column op v⟩ ∈ c.conditions
  | .join side name left _ right => .on side name left op right ∈ c.joins
  | _ => False

namespace Draft

variable {d : Draft} {s : Setter} {operator : String} {op : Comparison}

theorem has_apply (named : s.operator? = some operator) (found : Comparison.read? operator = some op) (d : Draft) :
    (d.apply s).clauses.Has op s := by
  cases s with
  | compare connective column operator v =>
    cases named
    rw [apply, compare, found]
    exact List.mem_append_right _ (List.mem_singleton_self _)
  | join side name left operator right =>
    cases named
    rw [apply, join, found]
    exact List.mem_append_right _ (List.mem_singleton_self _)
  | _ => cases named

theorem mem_conditions_apply {x : Condition} (member : x ∈ d.clauses.conditions) (t : Setter) :
    x ∈ (d.apply t).clauses.conditions := by
  rcases d.apply_cases t with ⟨connective, predicate, added⟩ | rfl | ⟨conditions, _⟩
  · rw [added]
    exact List.mem_append_left _ member
  · exact member
  · rw [conditions]
    exact member

theorem mem_joins_apply {join : Join} (member : join ∈ d.clauses.joins) (t : Setter) :
    join ∈ (d.apply t).clauses.joins := by
  by_cases own : t.group = .joins
  · cases t with
    | join side name left operator right =>
      simp only [apply, Draft.join]
      split
      · exact List.mem_append_left _ member
      · exact member
    | joinRaw side sql => exact List.mem_append_left _ member
    | _ => cases own
  · have same : (d.apply t).clauses.joins = d.clauses.joins := d.agreeOn_apply_other (g := .joins) (Ne.symm own)
    rw [same]
    exact member

/-- No setter drops a condition or a join. -/
theorem has_applyAll (has : d.clauses.Has op s) (later : List Setter) : (d.applyAll later).clauses.Has op s := by
  refine applyAll_keeps (P := fun d => d.clauses.Has op s) has fun d has t _ => ?_
  cases s with
  | compare connective column operator v => exact mem_conditions_apply has t
  | join side name left operator right => exact mem_joins_apply has t
  | _ => cases has

/-- A statement that is no insert has the joins and the conditions among its parts. -/
theorem parts_of_template {t : Template} (ok : d.template = .ok t) (kind : d.verb ≠ .insert) :
    ∃ parts, t = Template.joined " " parts ∧ d.clauses.joinTemplates ⊆ parts ∧ d.clauses.whereTemplates ⊆ parts := by
  obtain ⟨_, shape⟩ := template_eq_ok ok
  cases purpose : d.purpose with
  | select aggregate =>
    rw [purpose] at shape
    obtain ⟨table, _, rfl⟩ := Selection.template_eq_ok shape
    exact ⟨_, rfl, fun t member => by simp [member], fun t member => by simp [member]⟩
  | insert source => exact absurd (congrArg Purpose.verb purpose) kind
  | update assignments =>
    rw [purpose] at shape
    obtain ⟨table, _, rfl⟩ := updateTemplate_eq_ok shape
    exact ⟨_, rfl, fun t member => by simp [member], fun t member => by simp [member]⟩
  | delete =>
    rw [purpose] at shape
    obtain ⟨table, _, rfl⟩ := deleteTemplate_eq_ok shape
    exact ⟨_, rfl, fun t member => by simp [member], fun t member => by simp [member]⟩

theorem occurs_of_has (has : d.clauses.Has op s) {sql : String} (made : d.toSql = .ok sql) (kind : d.verb ≠ .insert) :
    Occurs (s.clauseText op.sql) sql := by
  obtain ⟨t, ok, rfl⟩ := map_eq_ok.mp made
  obtain ⟨parts, rfl, joins, conditions⟩ := parts_of_template ok kind
  cases s with
  | compare connective column operator v =>
    obtain ⟨t, member, occurs⟩ := Clauses.occurs_where has
    rw [sql_compare] at occurs
    exact occurs.trans (Template.occurs_joined (conditions member))
  | join side name left operator right =>
    obtain ⟨t, member, occurs⟩ := Clauses.occurs_joins has
    exact occurs.trans (Template.occurs_joined (joins member))
  | _ => cases has

/-! ## Complaints -/

/-- Of two computations in two steps with the same first step, one fails as the other does if its second step does. -/
theorem bind_error_of {ε α β : Type} {x : Except ε α} {f g : α → Except ε β} {e : ε}
    (fails : ∀ a, f a = .error e → g a = .error e) (failed : x >>= f = .error e) : x >>= g = .error e := by
  cases x with
  | error cause => exact failed
  | ok a => exact fails a failed

/-- What is complained of depends on the tables and the purpose alone. -/
theorem purposeTemplate_error {c c' : Clauses} (table : c.table = c'.table) (source : c.source = c'.source)
    {purpose : Purpose} (kind : purpose.verb ≠ .insert) {e : UsageError}
    (complains : purposeTemplate c purpose = .error e) : purposeTemplate c' purpose = .error e := by
  cases purpose with
  | select aggregate =>
    simp only [purposeTemplate, Selection.template, table, source] at complains ⊢
    exact bind_error_of (fun _ made => by cases made) complains
  | insert written => exact absurd rfl kind
  | update assignments =>
    simp only [purposeTemplate, updateTemplate, table] at complains ⊢
    refine bind_error_of (fun _ failed => ?_) complains
    by_cases blank : assignments.isEmpty
    · simp only [blank, if_true] at failed ⊢
      exact failed
    · simp only [blank] at failed
      cases failed
  | delete =>
    simp only [purposeTemplate, deleteTemplate, table] at complains ⊢
    exact bind_error_of (fun _ made => by cases made) complains

theorem toSql_turnTo (d : Draft) (purpose : Purpose) :
    (d.turnTo purpose).toSql =
      (unlessRefused d.rejection (purposeTemplate d.clauses purpose)).map Template.sql := by
  rw [toSql, template_eq, rejection_turnTo, clauses_turnTo, purpose_turnTo]

theorem complains_of_agree {d' : Draft} (rejection : d.rejection = d'.rejection) (target : d.AgreeOn d' .target)
    {purpose : Purpose} (kind : purpose.verb ≠ .insert) {e : UsageError}
    (complains : (d.turnTo purpose).toSql = .error e) : (d'.turnTo purpose).toSql = .error e := by
  rw [toSql_turnTo, rejection] at complains
  rw [toSql_turnTo]
  cases refused : d'.rejection with
  | some cause =>
    rw [refused] at complains
    exact complains
  | none =>
    rw [refused] at complains
    cases made : purposeTemplate d.clauses purpose with
    | ok t => rw [made] at complains; cases complains
    | error cause =>
      rw [made] at complains
      rw [purposeTemplate_error target.1 target.2 kind made]
      exact complains

/-! ## Statements with and without a setter -/

/-- A setter makes no difference to the clauses of other groups, whatever setters come behind it. -/
theorem agreeOn_without {g : Setter.Group} (apart : g ≠ s.group) (d : Draft) (later : List Setter) :
    ((d.apply s).applyAll later).AgreeOn (d.applyAll later) g :=
  (agreeOn_applyAll (d.agreeOn_apply_other apart) later).trans (agreeOn_applyAll (AgreeOn.refl d g) later).symm

theorem rejection_without (accepted : s.isRejected = false) (d : Draft) (later : List Setter) :
    ((d.apply s).applyAll later).rejection = (d.applyAll later).rejection := by
  rw [rejection_applyAll, rejection_applyAll, (apply_of_accepted accepted d).1]

/-- An insert has no conditions, and shows no joins. -/
theorem insert_without (named : s.operator? = some operator) (has : (d.apply s).clauses.Has op s)
    (accepted : s.isRejected = false) (later : List Setter) {source : InsertSource} {sql : String}
    (made : (((d.apply s).applyAll later).turnTo (.insert source)).toSql = .ok sql) :
    ((d.applyAll later).turnTo (.insert source)).toSql = .ok sql := by
  cases s with
  | compare connective column operator v =>
    obtain ⟨t, ok, _⟩ := map_eq_ok.mp made
    obtain ⟨_, shape⟩ := template_eq_ok ok
    rw [purpose_turnTo, clauses_turnTo] at shape
    obtain ⟨_, _, none, _⟩ := insertTemplate_eq_ok shape
    -- An insert with conditions is refused, and the condition is still there.
    have member := has_applyAll has later
    rw [Clauses.Has, none] at member
    cases member
  | join side name left operator right =>
    have untouched {g : Setter.Group} (apart : g ≠ .joins) :=
      agreeOn_without (s := .join side name left operator right) apart d later
    have table := (untouched (g := .target) nofun).1
    have conditions := (untouched (g := .conditions) nofun).1
    rw [toSql_turnTo, rejection_without accepted, purposeTemplate, insertTemplate_congr table (by rw [conditions])] at made
    rw [toSql_turnTo]
    exact made
  | _ => cases named

/-- What becomes of a setter whose operator is refused: the draft is left as it is, with the note of its first refusal,
and no statement is made of it any more. -/
structure Discards (d : Draft) (s : Setter) (later : List Setter) : Prop where
  kept : (d.apply s).pardoned = d.pardoned
  fails : ∃ cause, d.rejection.or s.refusal? = some cause ∧
    ∀ purpose, (((d.apply s).applyAll later).turnTo purpose).toSql = .error (.rejected cause)

/-- What becomes of a setter with an operator, whatever setters come later. -/
structure Writes (d : Draft) (s : Setter) (op : Comparison) (later : List Setter) : Prop where
  /-- How the operator was spelled is forgotten. -/
  respelled : d.apply s = d.apply (s.withOperator op.sql)
  shown : ∀ purpose sql, purpose.verb ≠ .insert → (((d.apply s).applyAll later).turnTo purpose).toSql = .ok sql →
    Occurs (s.clauseText op.sql) sql
  complains : ∀ purpose e, purpose.verb ≠ .insert → (((d.apply s).applyAll later).turnTo purpose).toSql = .error e →
    ((d.applyAll later).turnTo purpose).toSql = .error e
  /-- An insert has no place for the setter. -/
  unshown : ∀ source sql, (((d.apply s).applyAll later).turnTo (.insert source)).toSql = .ok sql →
    ((d.applyAll later).turnTo (.insert source)).toSql = .ok sql

theorem discards_of_unknown (named : s.operator? = some operator) (unknown : Comparison.read? operator = none)
    (d : Draft) (later : List Setter) : d.Discards s later := by
  have rejected : s.isRejected = true := by
    rw [Setter.isRejected_of_operator named, unknown]
    rfl
  refine ⟨by rw [pardoned_apply, if_pos rejected], ?_⟩
  obtain ⟨own, refuses⟩ := Option.isSome_iff_exists.mp (s.isRejected_eq ▸ rejected)
  obtain ⟨cause, first⟩ : ∃ cause, d.rejection.or s.refusal? = some cause := by
    rw [refuses]
    cases d.rejection with
    | none => exact ⟨own, rfl⟩
    | some earlier => exact ⟨earlier, rfl⟩
  have noted : ((d.apply s).applyAll later).rejection = some cause := by
    rw [rejection_applyAll, rejection_apply, first, Option.some_or]
  refine ⟨cause, first, fun purpose => ?_⟩
  rw [toSql_turnTo, noted]
  rfl

theorem apply_withOperator (named : s.operator? = some operator) (found : Comparison.read? operator = some op)
    (d : Draft) : d.apply s = d.apply (s.withOperator op.sql) := by
  have own : Comparison.read? op.sql = some op := by
    cases op <;> decide
  cases s with
  | compare connective column operator v =>
    cases named
    rw [Setter.withOperator, apply, apply, compare, compare, found, own]
  | join side name left operator right =>
    cases named
    rw [Setter.withOperator, apply, apply, join, join, found, own]
  | _ => cases named

theorem writes_of_known (named : s.operator? = some operator) (found : Comparison.read? operator = some op)
    (d : Draft) (later : List Setter) : d.Writes s op later := by
  have accepted : s.isRejected = false := by
    rw [Setter.isRejected_of_operator named, found]
    rfl
  have has := has_apply named found d
  refine ⟨apply_withOperator named found d, ?_, ?_, ?_⟩
  · intro purpose sql kind made
    refine occurs_of_has (d := ((d.apply s).applyAll later).turnTo purpose) ?_ made ?_
    · rw [clauses_turnTo]
      exact has_applyAll has later
    · rw [verb, purpose_turnTo]
      exact kind
  · intro purpose e kind complains
    have apart : .target ≠ s.group := by
      intro same
      cases s with
      | compare connective column operator v => cases same
      | join side name left operator right => cases same
      | _ => cases named
    exact complains_of_agree (rejection_without accepted d later) (agreeOn_without apart d later) kind complains
  · intro source sql made
    exact insert_without named has accepted later made

/-- A text is an operator just if its words, up to the case of ASCII letters, are the words of one: other blanks and other
capitals make no difference, and any other text is refused. So the operator in a comparison or a join is one of eleven
texts, whatever the caller's was, or the draft is refused. -/
theorem operators_recognised :
    (∀ s op, Comparison.read s = .ok op ↔ op.NamedBy s) ∧
      (∀ s e, Comparison.read s = .error e ↔ e = .unknownComparison s ∧ ∀ op : Comparison, ¬ op.NamedBy s) ∧
      (∀ (op : Comparison) (s : String) (words respelled : List (List Char)), Text.Spaced words op.sql.toList →
        respelled.map Text.upperAscii = words.map Text.upperAscii → Text.Spaced respelled s.toList →
        Comparison.read s = .ok op) ∧
      ∀ (d : Draft) (s : Setter) (operator : String) (later : List Setter), s.operator? = some operator →
        ((∀ op : Comparison, ¬ op.NamedBy operator) ∧ d.Discards s later) ∨
          ∃ op : Comparison, op.NamedBy operator ∧ d.Writes s op later ∧
            op.sql ∈ ["=", "<", "<=", ">", ">=", "<>", "!=", "LIKE", "NOT LIKE", "ILIKE", "NOT ILIKE"] := by
  refine ⟨fun s op => Comparison.read_eq_ok_iff, fun s e => Comparison.read_eq_error_iff, ?_, ?_⟩
  · intro op s words respelled spaced letters respaced
    exact Comparison.read_eq_ok_iff.mpr (Comparison.namedBy_of_respelled spaced letters respaced)
  · intro d s operator later named
    cases found : Comparison.read? operator with
    | none => exact .inl ⟨Comparison.read?_eq_none_iff.mp found, discards_of_unknown named found d later⟩
    | some op =>
      refine .inr ⟨op, Comparison.read?_eq_some_iff.mp found, writes_of_known named found d later, ?_⟩
      cases op <;> decide

/-- An em space, a tab and mixed case make no difference to `NOT LIKE`; a text that goes on behind an operator is none. -/
theorem operators_recognised_respelled :
    Comparison.read "\u2003nOt \t lIKE" = .ok .notLike ∧
      (empty.Writes (.compare .and "name" "not  like" (.text "a%")) .notLike [.table "users"] ∧
        empty.Discards (.join .left "pets" "a" "= b OR 1 =" "b") [.table "users"]) := by
  refine ⟨?_, ?_, ?_⟩
  · have own : Text.Spaced ["NOT".toList, "LIKE".toList] Comparison.notLike.sql.toList :=
      Text.words_eq_iff.mp (by decide)
    have respelled : Text.Spaced ["nOt".toList, "lIKE".toList] "\u2003nOt \t lIKE".toList :=
      Text.words_eq_iff.mp (by decide)
    exact operators_recognised.2.2.1 .notLike _ _ _ own (by decide) respelled
  · have taken := operators_recognised.2.2.2 empty (.compare .and "name" "not  like" (.text "a%")) "not  like"
      [.table "users"] rfl
    rcases taken with ⟨unknown, _⟩ | ⟨op, named, writes, _⟩
    · exact absurd (by decide) (unknown .notLike)
    · have only : ∀ op ∈ Comparison.all, op.NamedBy "not  like" → op = .notLike := by decide
      exact only op (Comparison.mem_all op) named ▸ writes
  · have taken := operators_recognised.2.2.2 empty (.join .left "pets" "a" "= b OR 1 =" "b") "= b OR 1 ="
      [.table "users"] rfl
    rcases taken with ⟨_, refuses⟩ | ⟨op, named, _⟩
    · exact refuses
    · have unknown : ∀ op ∈ Comparison.all, ¬ op.NamedBy "= b OR 1 =" := by decide
      exact absurd named (unknown op (Comparison.mem_all op))

end Draft
end SqlDraft
