import SqlDraft.Draft.Setter
import SqlDraft.Proofs.Template.Shapes
import SqlDraft.Proofs.Text.Numerals

/-!
# Verbatim texts

Identifiers, fragments and expressions go into a statement as the caller gave them. A property that
survives concatenation, and that holds of every text without quotes and question marks, passes from what
the caller gave to every piece of text of the statement (`spelled_template`).
-/

namespace SqlDraft

/-- A text with neither a question mark nor a single quote in it. -/
def Plain (s : String) : Prop := ∀ c ∈ s.toList, c ≠ '?' ∧ c ≠ '\x27'

instance (s : String) : Decidable (Plain s) := List.decidableBAll (fun c => c ≠ '?' ∧ c ≠ '\x27') s.toList

/-- A property of texts that holds of a text in parts if it holds of the parts that are not plain. -/
structure Composable (P : String → Prop) : Prop where
  append : ∀ {a b : String}, P a → P b → P (a ++ b)
  plain : ∀ {a : String}, Plain a → P a

theorem plain_append {a b : String} (first : Plain a) (second : Plain b) : Plain (a ++ b) := by
  intro c member
  rw [String.toList_append] at member
  rcases List.mem_append.mp member with inFirst | inSecond
  · exact first c inFirst
  · exact second c inSecond

theorem plain_operator (op : Comparison) : Plain op.sql := by cases op <;> decide

theorem plain_connective (connective : Connective) : Plain connective.sql := by cases connective <;> decide

theorem plain_side (side : JoinSide) : Plain side.sql := by cases side <;> decide

theorem plain_direction (direction : Direction) : Plain direction.sql := by cases direction <;> decide

theorem plain_function (function : AggregateFunction) : Plain function.sql := by cases function <;> decide

/-- Digits are plain. -/
theorem plain_decimal (n : Nat) : ∀ c ∈ Text.decimal n, c ≠ '?' ∧ c ≠ '\x27' := by
  have checked : ∀ d < 10, Text.digitChar d ≠ '?' ∧ Text.digitChar d ≠ '\x27' := by decide
  intro c member
  obtain ⟨d, small, rfl⟩ := Text.exists_of_mem_decimal member
  exact checked d small

theorem plain_natText (n : Nat) : Plain (Text.natText n) := by
  intro c member
  rw [Text.natText, String.toList_ofList] at member
  exact plain_decimal n c member

namespace Composable

variable {P : String → Prop}

theorem before (ok : Composable P) {a b : String} (first : Plain a) (second : P b) : P (a ++ b) :=
  ok.append (ok.plain first) second

theorem behind (ok : Composable P) {a b : String} (first : P a) (second : Plain b) : P (a ++ b) :=
  ok.append first (ok.plain second)

theorem intercalate (ok : Composable P) {between : String} (plain : Plain between) {texts : List String}
    (all : ∀ x ∈ texts, P x) : P (String.intercalate between texts) := by
  induction texts with
  | nil => rw [String.intercalate_nil]; exact ok.plain (by decide)
  | cons a rest ih =>
    have first := all a List.mem_cons_self
    cases rest with
    | nil => rw [String.intercalate_singleton]; exact first
    | cons b more =>
      rw [String.intercalate_cons_cons]
      exact ok.append (ok.behind first plain) (ih fun x member => all x (List.mem_cons_of_mem a member))

theorem commaSeparated (ok : Composable P) {texts : List String} (all : ∀ x ∈ texts, P x) :
    P (commaSeparated texts) := ok.intercalate (by decide) all

end Composable

/-! ## The texts that a caller gives -/

/-- The expression that a value is, if it is one. -/
def Value.texts : Value → List String
  | .raw sql => [sql]
  | _ => []

def Predicate.texts : Predicate → List String
  | .raw sql => [sql]
  | .compare column _ v => column :: v.texts
  | .isIn column vs _ => column :: vs.flatMap Value.texts
  | .between column low high => column :: (low.texts ++ high.texts)

def Join.texts : Join → List String
  | .raw _ sql => [sql]
  | .on _ table left _ right => [table, left, right]

def Record.texts (r : Record) : List String := r.entries.flatMap fun e => e.1 :: e.2.texts

/-- The texts of a change that may reach a statement as they are. An operator never does: a statement
has its own spelling of it. -/
def Setter.texts : Setter → List String
  | .select columns | .selectDistinct columns | .groupBy columns => columns
  | .table name | .source name => [name]
  | .compare _ column _ v => column :: v.texts
  | .isIn _ column vs _ => column :: vs.flatMap Value.texts
  | .between _ column low high => column :: (low.texts ++ high.texts)
  | .condition _ sql | .joinRaw _ sql => [sql]
  | .join _ name left _ right => [name, left, right]
  | .orderBy column _ => [column]
  | .selectAll | .distinct _ | .limit _ | .offset _ | .clearParams => []

variable {P : String → Prop}

/-- Every text of the clauses has the property. -/
structure Clauses.Spelled (P : String → Prop) (c : Clauses) : Prop where
  columns : ∀ x ∈ c.columns, P x
  table : ∀ x ∈ c.table, P x
  source : ∀ x ∈ c.source, P x
  joins : ∀ join ∈ c.joins, ∀ x ∈ join.texts, P x
  conditions : ∀ condition ∈ c.conditions, ∀ x ∈ condition.predicate.texts, P x
  groupBy : ∀ x ∈ c.groupBy, P x
  orderBy : ∀ key ∈ c.orderBy, P key.column

/-- Every text of what a statement does has the property. -/
def Purpose.Spelled (P : String → Prop) : Purpose → Prop
  | .select aggregate => ∀ a ∈ aggregate, P a.column
  | .insert (.rows columns rows) => (∀ x ∈ columns, P x) ∧ ∀ row ∈ rows, ∀ v ∈ row, ∀ x ∈ v.texts, P x
  | .insert (.query columns selection) =>
    (∀ x ∈ columns, P x) ∧ selection.clauses.Spelled P ∧ ∀ a ∈ selection.aggregate, P a.column
  | .update assignments => ∀ x ∈ assignments.texts, P x
  | .delete => True

/-- Every piece of text of a template has the property. -/
def Template.Spelled (P : String → Prop) (t : Template) : Prop := ∀ s, .text s ∈ t → P s

/-! ## Pieces -/

namespace Template

theorem spelled_nil : Spelled P [] := by
  intro s member
  cases member

theorem spelled_text {s : String} {t : Template} (first : P s) (rest : Spelled P t) : Spelled P (.text s :: t) := by
  intro x member
  rcases List.mem_cons.mp member with same | later
  · cases same; exact first
  · exact rest x later

theorem spelled_ofText {s : String} (holds : P s) : Spelled P (ofText s) := spelled_text holds spelled_nil

theorem spelled_ofValue {v : Value} {t : Template} (first : ∀ x ∈ v.texts, P x) (rest : Spelled P t) :
    Spelled P (Piece.ofValue v :: t) := by
  intro x member
  rcases List.mem_cons.mp member with same | later
  · cases v with
    | raw expression => cases same; exact first x List.mem_cons_self
    | _ => cases same
  · exact rest x later

theorem spelled_append {t u : Template} (first : Spelled P t) (second : Spelled P u) : Spelled P (t ++ u) := by
  intro x member
  rcases List.mem_append.mp member with inFirst | inSecond
  · exact first x inFirst
  · exact second x inSecond

theorem spelled_joined {between : String} (separator : P between) {ts : List Template}
    (all : ∀ t ∈ ts, Spelled P t) : Spelled P (joined between ts) := by
  induction ts with
  | nil => exact spelled_nil
  | cons t rest ih =>
    have first := all t List.mem_cons_self
    cases rest with
    | nil => exact first
    | cons u more =>
      have later := ih fun v member => all v (List.mem_cons_of_mem t member)
      exact spelled_append first (spelled_text separator later)

theorem spelled_ofValues (ok : Composable P) {vs : List Value} (all : ∀ v ∈ vs, ∀ x ∈ v.texts, P x) :
    Spelled P (ofValues vs) := by
  refine spelled_joined (ok.plain (by decide)) ?_
  intro t member
  obtain ⟨v, inside, rfl⟩ := List.mem_map.mp member
  exact spelled_ofValue (all v inside) spelled_nil

end Template

open Template

/-! ## Clauses -/

theorem Predicate.spelled_template (ok : Composable P) {p : Predicate} (all : ∀ x ∈ p.texts, P x) :
    Spelled P p.template := by
  cases p with
  | raw sql => exact spelled_ofText (all sql List.mem_cons_self)
  | compare column op v =>
    have name : P column := all column List.mem_cons_self
    have values : ∀ x ∈ v.texts, P x := fun x member => all x (List.mem_cons_of_mem column member)
    have head : P (column ++ " " ++ op.sql ++ " ") :=
      ok.behind (ok.behind (ok.behind name (by decide)) (plain_operator op)) (by decide)
    exact spelled_text head (spelled_ofValue values spelled_nil)
  | between column low high =>
    have name : P column := all column List.mem_cons_self
    have lows : ∀ x ∈ low.texts, P x := fun x member =>
      all x (List.mem_cons_of_mem column (List.mem_append_left high.texts member))
    have highs : ∀ x ∈ high.texts, P x := fun x member =>
      all x (List.mem_cons_of_mem column (List.mem_append_right low.texts member))
    exact spelled_text (ok.behind name (by decide)) (spelled_ofValue lows
      (spelled_text (ok.plain (by decide)) (spelled_ofValue highs spelled_nil)))
  | isIn column vs negated =>
    have name : P column := all column List.mem_cons_self
    have values : ∀ v ∈ vs, ∀ x ∈ v.texts, P x := fun v inside x member =>
      all x (List.mem_cons_of_mem column (List.mem_flatMap.mpr ⟨v, inside, member⟩))
    have word : Plain (if negated then " NOT IN (" else " IN (") := by cases negated <;> decide
    cases vs with
    | nil =>
      have constant : Plain (if negated then "1=1" else "1=0") := by cases negated <;> decide
      exact spelled_ofText (ok.plain constant)
    | cons v rest =>
      have closing : Spelled P [.text ")"] := spelled_ofText (ok.plain (by decide))
      exact spelled_text (ok.behind name word) (spelled_append (spelled_ofValues ok values) closing)

theorem Join.spelled_sql (ok : Composable P) {join : Join} (all : ∀ x ∈ join.texts, P x) : P join.sql := by
  cases join with
  | raw side sql =>
    have head : Plain (side.sql ++ " ") := plain_append (plain_side side) (by decide)
    exact ok.before head (all sql List.mem_cons_self)
  | on side table left op right =>
    have head : Plain (side.sql ++ " ") := plain_append (plain_side side) (by decide)
    have partner : P (side.sql ++ " " ++ table ++ " ON ") :=
      ok.behind (ok.before head (all table (by simp [Join.texts]))) (by decide)
    have comparison : P (side.sql ++ " " ++ table ++ " ON " ++ left ++ " " ++ op.sql ++ " ") :=
      ok.behind (ok.behind (ok.behind (ok.append partner (all left (by simp [Join.texts]))) (by decide))
        (plain_operator op)) (by decide)
    exact ok.append comparison (all right (by simp [Join.texts]))

namespace Clauses

variable {c : Clauses}

theorem spelled_joinTemplates (ok : Composable P) (spelled : c.Spelled P) :
    ∀ t ∈ c.joinTemplates, Template.Spelled P t := by
  intro t member
  rw [joinTemplates] at member
  split at member
  · cases member
  · rw [List.mem_singleton] at member
    subst member
    refine spelled_ofText (ok.intercalate (by decide) ?_)
    intro x given
    obtain ⟨join, inside, rfl⟩ := List.mem_map.mp given
    exact Join.spelled_sql ok (spelled.joins join inside)

theorem spelled_furtherConditions (ok : Composable P) {cs : List Condition}
    (all : ∀ condition ∈ cs, ∀ x ∈ condition.predicate.texts, P x) : Template.Spelled P (furtherConditions cs) := by
  induction cs with
  | nil => exact spelled_nil
  | cons condition rest ih =>
    have head : Plain (" " ++ condition.connective.sql ++ " ") :=
      plain_append (plain_append (by decide) (plain_connective condition.connective)) (by decide)
    have first := Predicate.spelled_template ok (all condition List.mem_cons_self)
    have later := ih fun other member => all other (List.mem_cons_of_mem condition member)
    exact spelled_text (ok.plain head) (spelled_append first later)

theorem spelled_whereTemplates (ok : Composable P) (spelled : c.Spelled P) :
    ∀ t ∈ c.whereTemplates, Template.Spelled P t := by
  intro t member
  have all := spelled.conditions
  rw [whereTemplates] at member
  cases conditions : c.conditions with
  | nil => simp [conditions] at member
  | cons first rest =>
    rw [conditions] at all
    simp only [conditions, List.mem_singleton] at member
    subst member
    have head := Predicate.spelled_template ok (all first List.mem_cons_self)
    have later := spelled_furtherConditions ok fun other member => all other (List.mem_cons_of_mem first member)
    exact spelled_text (ok.plain (by decide)) (spelled_append head later)

theorem spelled_tailTemplates (ok : Composable P) (spelled : c.Spelled P) :
    ∀ t ∈ c.tailTemplates, Template.Spelled P t := by
  intro t member
  simp only [tailTemplates, List.mem_append] at member
  rcases member with ((groups | order) | limit) | offset
  · split at groups
    · cases groups
    · rw [List.mem_singleton] at groups
      exact groups ▸ spelled_ofText (ok.before (by decide) (ok.commaSeparated spelled.groupBy))
  · split at order
    · cases order
    · rw [List.mem_singleton] at order
      subst order
      refine spelled_ofText (ok.before (by decide) (ok.commaSeparated ?_))
      intro x given
      obtain ⟨key, inside, rfl⟩ := List.mem_map.mp given
      exact ok.behind (ok.behind (spelled.orderBy key inside) (by decide)) (plain_direction key.direction)
  · cases size : c.limit with
    | none => simp [size] at limit
    | some n =>
      simp only [size, List.mem_singleton] at limit
      exact limit ▸ spelled_ofText (ok.plain (plain_append (by decide) (plain_natText n)))
  · cases size : c.offset with
    | none => simp [size] at offset
    | some n =>
      simp only [size, List.mem_singleton] at offset
      exact offset ▸ spelled_ofText (ok.plain (plain_append (by decide) (plain_natText n)))

end Clauses

/-! ## Statements -/

namespace Selection

theorem spelled_projection (ok : Composable P) {s : Selection} (spelled : s.clauses.Spelled P)
    (aggregated : ∀ a ∈ s.aggregate, P a.column) : P s.projection := by
  rw [projection]
  cases aggregate : s.aggregate with
  | some a =>
    have distinct : Plain (if s.clauses.distinct && a.column != "*" then "DISTINCT " else "") := by
      split <;> decide
    have head : Plain (a.function.sql ++ "(") := plain_append (plain_function a.function) (by decide)
    exact ok.behind (ok.behind (ok.append (ok.plain (plain_append head distinct)) (aggregated a aggregate))
      (by decide)) (by decide)
  | none =>
    have columns : P (if s.clauses.columns.isEmpty then "*" else SqlDraft.commaSeparated s.clauses.columns) := by
      split
      · exact ok.plain (by decide)
      · exact ok.commaSeparated spelled.columns
    by_cases distinct : s.clauses.distinct = true
    · simp only [distinct, if_true]
      exact ok.before (by decide) columns
    · simp only [distinct]
      exact columns

theorem spelled_template (ok : Composable P) {s : Selection} (spelled : s.clauses.Spelled P)
    (aggregated : ∀ a ∈ s.aggregate, P a.column) {t : Template} (made : s.template = .ok t) :
    Template.Spelled P t := by
  obtain ⟨table, given, rfl⟩ := template_eq_ok made
  have named : P table := by
    cases source : s.clauses.source with
    | some name => rw [source] at given; cases given; exact spelled.source table source
    | none => rw [source] at given; exact spelled.table table given
  refine spelled_joined (ok.plain (by decide)) ?_
  intro t member
  rcases List.mem_cons.mp member with head | clause
  · subst head
    exact spelled_ofText (ok.append (ok.behind (ok.before (by decide) (spelled_projection ok spelled aggregated))
      (by decide)) named)
  · rcases List.mem_append.mp clause with front | tail
    · rcases List.mem_append.mp front with join | condition
      · exact Clauses.spelled_joinTemplates ok spelled t join
      · exact Clauses.spelled_whereTemplates ok spelled t condition
    · exact Clauses.spelled_tailTemplates ok spelled t tail

end Selection

namespace Draft

theorem spelled_insertHead (ok : Composable P) {table : String} {columns : List String} (name : P table)
    (all : ∀ x ∈ columns, P x) : P (insertHead table columns) :=
  ok.behind (ok.append (ok.behind (ok.before (by decide) name) (by decide)) (ok.commaSeparated all)) (by decide)

theorem spelled_groupTemplate (ok : Composable P) {vs : List Value} (all : ∀ v ∈ vs, ∀ x ∈ v.texts, P x) :
    Spelled P (groupTemplate vs) := by
  have closing : Spelled P [.text ")"] := spelled_ofText (ok.plain (by decide))
  exact spelled_text (ok.plain (by decide)) (spelled_append (spelled_ofValues ok all) closing)

theorem spelled_insertTemplate (ok : Composable P) {c : Clauses} {source : InsertSource} (spelled : c.Spelled P)
    (written : (Purpose.insert source).Spelled P) {t : Template} (made : insertTemplate c source = .ok t) :
    Spelled P t := by
  obtain ⟨table, given, _, ⟨columns, rows, rfl, rfl⟩ | ⟨columns, selection, query, rfl, selected, rfl⟩⟩ :=
    insertTemplate_eq_ok made
  · obtain ⟨names, values⟩ := written
    have head := spelled_insertHead ok (spelled.table table given) names
    refine spelled_text (ok.behind head (by decide)) (spelled_joined (ok.plain (by decide)) ?_)
    intro t member
    obtain ⟨row, inside, rfl⟩ := List.mem_map.mp member
    exact spelled_groupTemplate ok (values row inside)
  · obtain ⟨names, clauses, aggregated⟩ := written
    have head := spelled_insertHead ok (spelled.table table given) names
    exact spelled_text head (Selection.spelled_template ok clauses aggregated selected)

theorem spelled_updateTemplate (ok : Composable P) {c : Clauses} {assignments : Record} (spelled : c.Spelled P)
    (written : ∀ x ∈ assignments.texts, P x) {t : Template} (made : updateTemplate c assignments = .ok t) :
    Spelled P t := by
  obtain ⟨table, given, rfl⟩ := updateTemplate_eq_ok made
  have comma : P ", " := ok.plain (by decide)
  have assigned : ∀ u ∈ assignments.entries.map assignmentTemplate, Spelled P u := by
    intro u member
    obtain ⟨e, inside, rfl⟩ := List.mem_map.mp member
    have texts : ∀ x ∈ e.1 :: e.2.texts, P x := fun x given =>
      written x (List.mem_flatMap.mpr ⟨e, inside, given⟩)
    exact spelled_text (ok.behind (texts e.1 List.mem_cons_self) (by decide))
      (spelled_ofValue (fun x given => texts x (List.mem_cons_of_mem e.1 given)) spelled_nil)
  refine spelled_joined (ok.plain (by decide)) ?_
  intro u member
  rcases List.mem_cons.mp member with head | clause
  · exact head ▸ spelled_ofText (ok.before (by decide) (spelled.table table given))
  · rcases List.mem_append.mp clause with front | condition
    · rcases List.mem_append.mp front with join | assignment
      · exact Clauses.spelled_joinTemplates ok spelled u join
      · rw [List.mem_singleton] at assignment
        exact assignment ▸ spelled_text (ok.plain (by decide)) (spelled_joined comma assigned)
    · exact Clauses.spelled_whereTemplates ok spelled u condition

theorem spelled_deleteTemplate (ok : Composable P) {c : Clauses} (spelled : c.Spelled P) {t : Template}
    (made : deleteTemplate c = .ok t) : Spelled P t := by
  obtain ⟨table, given, rfl⟩ := deleteTemplate_eq_ok made
  refine spelled_joined (ok.plain (by decide)) ?_
  intro u member
  rcases List.mem_cons.mp member with head | clause
  · exact head ▸ spelled_ofText (ok.before (by decide) (spelled.table table given))
  · rcases List.mem_append.mp clause with join | condition
    · exact Clauses.spelled_joinTemplates ok spelled u join
    · exact Clauses.spelled_whereTemplates ok spelled u condition

/-- Every text of the draft has the property. -/
structure Spelled (P : String → Prop) (d : Draft) : Prop where
  clauses : d.clauses.Spelled P
  purpose : d.purpose.Spelled P

/-- What holds of every text of a draft holds of every piece of text of its statement. -/
theorem spelled_template (ok : Composable P) {d : Draft} (spelled : d.Spelled P) {t : Template}
    (made : d.template = .ok t) : Template.Spelled P t := by
  obtain ⟨_, shape⟩ := template_eq_ok made
  have written := spelled.purpose
  cases purpose : d.purpose with
  | select aggregate =>
    rw [purpose] at shape written
    refine Selection.spelled_template ok ?_ ?_ shape
    · exact spelled.clauses
    · exact written
  | insert source =>
    rw [purpose] at shape written
    exact spelled_insertTemplate ok spelled.clauses written shape
  | update assignments =>
    rw [purpose] at shape written
    exact spelled_updateTemplate ok spelled.clauses written shape
  | delete =>
    rw [purpose] at shape
    exact spelled_deleteTemplate ok spelled.clauses shape

end Draft
end SqlDraft
