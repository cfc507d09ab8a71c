import SqlDraft.Proofs.Template.Readable
import SqlDraft.Proofs.Template.Shapes

/-!
# Readable clauses

The clauses of a query can be told apart by whoever reads its text, if its names are plain identifiers and its joins
and conditions are structured (`segment_behindTable`). Of a condition the text shows the shape: the column,
the relation and the number of values.
-/

namespace SqlDraft

variable {behind : List String}

/-! ## Identifiers -/

def smallLetters : List Char := "abcdefghijklmnopqrstuvwxyz".toList

def identifierLetters : List Char := smallLetters ++ Text.digits ++ ['_', '.']

/-- A name that starts with a small letter and has no others in it than small letters, digits, underscores and
points. -/
def Identifier (s : String) : Prop :=
  (∃ c ∈ smallLetters, s.toList.head? = some c) ∧ ∀ c ∈ s.toList, c ∈ identifierLetters

instance (s : String) : Decidable (Identifier s) :=
  @instDecidableAnd _ _ (List.decidableBEx (s.toList.head? = some ·) smallLetters)
    (List.decidableBAll (· ∈ identifierLetters) s.toList)

def smallHeads : List String := smallLetters.map String.singleton

theorem readable_identifier (stops : Stops identifierLetters behind) : Readable id id Identifier behind := by
  intro a a' rest rest' first second
  exact readable_run stops first.2 second.2

theorem leads_identifier (behind : List String) : Leads id Identifier smallHeads behind := by
  intro s rest given _
  obtain ⟨⟨c, small, first⟩, _⟩ := given
  obtain ⟨later, chars⟩ := List.head?_eq_some_iff.mp first
  have split : s = String.singleton c ++ String.ofList later := by
    rw [← String.toList_inj, chars]
    simp
  rw [id, split, String.append_assoc]
  exact opens_append (List.mem_map_of_mem small) _

/-! ## Shapes of conditions -/

/-- What a condition with a column says of it. -/
inductive Relation
  | compare (op : Comparison)
  | isIn (negated : Bool)
  | between
  deriving DecidableEq

namespace Relation

/-- What stands between the column and the first value. -/
def sql : Relation → String
  | compare op => " " ++ op.sql ++ " "
  | isIn negated => if negated then " NOT IN (" else " IN ("
  | between => " BETWEEN "

/-- What stands for so many values. -/
def marks : Relation → Nat → String
  | compare _, _ => "?"
  | isIn _, size => "?" ++ (writeAll (fun _ : Unit => ", ?") (List.replicate (size - 1) ()) ++ ")")
  | between, _ => "? AND ?"

/-- Whether there can be so many values. -/
def Takes : Relation → Nat → Prop
  | compare _, size => size = 1
  | isIn _, size => 0 < size
  | between, size => size = 2

def all : List Relation := Comparison.all.map compare ++ [isIn false, isIn true, between]

theorem mem_all (r : Relation) : r ∈ all := by
  cases r with
  | compare op => exact List.mem_append_left _ (List.mem_map_of_mem op.mem_all)
  | isIn negated => cases negated <;> decide
  | between => decide

theorem readable_sql : Readable sql id (fun _ => True) [""] := readable_words all mem_all (by decide)

theorem opens_blank (r : Relation) (rest : String) : Opens [" "] (r.sql ++ rest) := by
  have blank : ∃ more, r.sql = " " ++ more := by
    cases r with
    | compare op => exact ⟨op.sql ++ " ", String.append_assoc⟩
    | isIn negated =>
      cases negated with
      | false => exact ⟨"IN (", by decide⟩
      | true => exact ⟨"NOT IN (", by decide⟩
    | between => exact ⟨"BETWEEN ", by decide⟩
  obtain ⟨more, same⟩ := blank
  rw [same, String.append_assoc]
  exact opens_append List.mem_cons_self _

theorem readable_marks (r : Relation) : Readable r.marks id r.Takes [""] := by
  intro size size' rest rest' takes takes' _ _ same
  cases r with
  | compare op => exact ⟨takes.trans takes'.symm, (String.append_right_inj _).mp same⟩
  | between => exact ⟨takes.trans takes'.symm, (String.append_right_inj _).mp same⟩
  | isIn negated =>
    have reads := (readable_text ", ?" ([", ?"] ++ [")"])).many (fun _ _ => ⟨", ?", List.mem_cons_self, "", rfl⟩)
      (by decide)
    have all (n : Nat) : ∀ u ∈ List.replicate n (), True := fun _ _ => trivial
    simp only [marks, String.append_assoc, String.append_right_inj] at same
    obtain ⟨equal, rests⟩ := reads (all _) (all _) (opens_append List.mem_cons_self rest)
      (opens_append List.mem_cons_self rest') same
    have sizes : size - 1 = size' - 1 := by simpa using congrArg List.length equal
    refine ⟨?_, (String.append_right_inj _).mp rests⟩
    simp only [Takes] at takes takes'
    simp only [id]
    omega

end Relation

/-- A condition without its values. -/
structure Shape where
  column : String
  relation : Relation
  /-- The number of values. -/
  size : Nat
  deriving DecidableEq

namespace Shape

def sql (s : Shape) : String := s.column ++ (s.relation.sql ++ s.relation.marks s.size)

def Valid (s : Shape) : Prop := Identifier s.column ∧ s.relation.Takes s.size

theorem readable_sql : Readable sql id Valid [""] := by
  rintro ⟨column, relation, size⟩ ⟨column', relation', size'⟩ rest rest' ⟨named, takes⟩ ⟨named', takes'⟩ _ _ same
  simp only [sql, String.append_assoc] at same
  obtain ⟨equal, behindColumn⟩ := readable_identifier (by decide) named named' (relation.opens_blank _)
    (relation'.opens_blank _) same
  obtain ⟨equalRelation, behindRelation⟩ := Relation.readable_sql trivial trivial (opens_anything _)
    (opens_anything _) behindColumn
  cases equal
  cases equalRelation
  obtain ⟨equalSize, rests⟩ := relation.readable_marks takes takes' (opens_anything _) (opens_anything _)
    behindRelation
  cases equalSize
  exact ⟨rfl, rests⟩

end Shape

namespace Predicate

/-- The shape of a condition with a column. -/
def shape? : Predicate → Option Shape
  | raw _ => none
  | compare column op _ => some ⟨column, .compare op, 1⟩
  | isIn column vs negated => some ⟨column, .isIn negated, vs.length⟩
  | between column _ _ => some ⟨column, .between, 2⟩

/-- A condition of a column and of values that are all bound, of which there is one at least. -/
def Structured : Predicate → Prop
  | raw _ => False
  | compare column _ v => Identifier column ∧ v.isRaw = false
  | isIn column vs _ => Identifier column ∧ vs ≠ [] ∧ ∀ v ∈ vs, v.isRaw = false
  | between column low high => Identifier column ∧ low.isRaw = false ∧ high.isRaw = false

instance (p : Predicate) : Decidable p.Structured :=
  match p with
  | raw _ => inferInstanceAs (Decidable False)
  | compare column _ v => inferInstanceAs (Decidable (Identifier column ∧ v.isRaw = false))
  | isIn column vs _ => inferInstanceAs (Decidable (Identifier column ∧ vs ≠ [] ∧ ∀ v ∈ vs, v.isRaw = false))
  | between column low high =>
    inferInstanceAs (Decidable (Identifier column ∧ low.isRaw = false ∧ high.isRaw = false))

theorem sql_ofValue {v : Value} (bound : v.isRaw = false) : (Piece.ofValue v).sql = "?" := by
  cases v with
  | raw sql => cases bound
  | _ => rfl

theorem sql_ofValues {vs : List Value} (v : Value) (bound : ∀ w ∈ v :: vs, w.isRaw = false) :
    (Template.ofValues (v :: vs)).sql = "?" ++ writeAll (fun _ => ", ?") (List.replicate vs.length ()) := by
  induction vs generalizing v with
  | nil =>
    have one := sql_ofValue (bound v List.mem_cons_self)
    simp [Template.ofValues, Template.joined, Template.sql, writeAll_nil, one]
  | cons w rest ih =>
    have one := sql_ofValue (bound v List.mem_cons_self)
    have step : Template.ofValues (v :: w :: rest) = Piece.ofValue v :: .text ", " :: Template.ofValues (w :: rest) :=
      rfl
    rw [step, Template.sql_cons, Template.sql_cons, ih w fun u member => bound u (List.mem_cons_of_mem v member), one,
      List.length_cons, List.replicate_succ, writeAll_cons, Piece.sql, ← String.append_assoc]
    rfl

/-- A structured condition is written as its shape says. -/
theorem sql_template {p : Predicate} (structured : p.Structured) :
    ∃ shape, p.shape? = some shape ∧ shape.Valid ∧ p.template.sql = shape.sql := by
  cases p with
  | raw sql => exact structured.elim
  | compare column op v =>
    obtain ⟨named, bound⟩ := structured
    refine ⟨_, rfl, ⟨named, rfl⟩, ?_⟩
    rw [template, Template.sql_cons, Template.sql_cons, sql_ofValue bound]
    simp only [Piece.sql, Template.sql, Shape.sql, Relation.sql, Relation.marks, String.append_assoc, List.map_nil,
      String.join_nil, String.append_empty]
  | between column low high =>
    obtain ⟨named, lowBound, highBound⟩ := structured
    refine ⟨_, rfl, ⟨named, rfl⟩, ?_⟩
    rw [template, Template.sql_cons, Template.sql_cons, Template.sql_cons, Template.sql_cons, sql_ofValue lowBound,
      sql_ofValue highBound]
    simp only [Piece.sql, Template.sql, Shape.sql, Relation.sql, Relation.marks, String.append_assoc, List.map_nil,
      String.join_nil, String.append_empty]
    rfl
  | isIn column vs negated =>
    obtain ⟨named, nonempty, bound⟩ := structured
    cases vs with
    | nil => exact absurd rfl nonempty
    | cons v rest =>
      refine ⟨_, rfl, ⟨named, Nat.succ_pos _⟩, ?_⟩
      rw [template, Template.sql_cons, Template.sql_append, sql_ofValues v bound]
      · simp only [Piece.sql, Template.sql, Shape.sql, Relation.sql, Relation.marks, String.append_assoc,
          List.map_nil, List.map_cons, String.join_cons, String.join_nil, String.append_empty, List.length_cons,
          Nat.add_sub_cancel]
      · exact List.cons_ne_nil v rest

theorem readable_template : Readable (fun p : Predicate => p.template.sql) shape? Structured [""] := by
  intro p p' rest rest' structured structured' opens opens' same
  obtain ⟨shape, shown, valid, text⟩ := sql_template structured
  obtain ⟨shape', shown', valid', text'⟩ := sql_template structured'
  simp only [text, text'] at same
  obtain ⟨equal, rests⟩ := Shape.readable_sql valid valid' opens opens' same
  refine ⟨?_, rests⟩
  rw [shown, shown']
  exact congrArg some equal

end Predicate

/-! ## Joins and sort keys -/

/-- A join of a table on a comparison of two columns. -/
def Join.Structured : Join → Prop
  | .raw .. => False
  | .on _ table left _ right => Identifier table ∧ Identifier left ∧ Identifier right

instance (join : Join) : Decidable join.Structured :=
  match join with
  | .raw .. => inferInstanceAs (Decidable False)
  | .on _ table left _ right => inferInstanceAs (Decidable (Identifier table ∧ Identifier left ∧ Identifier right))

theorem readable_side : Readable (fun side : JoinSide => " " ++ side.sql ++ " ") id (fun _ => True) [""] :=
  readable_words [.inner, .left, .right] (fun side => by cases side <;> decide) (by decide)

theorem readable_join (stops : Stops identifierLetters behind) :
    Readable (fun join : Join => " " ++ join.sql) id Join.Structured behind := by
  have written (side : JoinSide) (table left : String) (op : Comparison) (right rest : String) :
      " " ++ (Join.on side table left op right).sql ++ rest = " " ++ side.sql ++ " " ++
        (table ++ (" ON " ++ (left ++ ((Relation.compare op).sql ++ (right ++ rest))))) := by
    simp only [Join.sql, Relation.sql, String.append_assoc]
  have on (rest : String) : Opens [" ON "] (" ON " ++ rest) := opens_append List.mem_cons_self rest
  intro join join' rest rest' structured structured' opens opens' same
  cases join with
  | raw side sql => exact structured.elim
  | on side table left op right =>
    cases join' with
    | raw side' sql' => exact structured'.elim
    | on side' table' left' op' right' =>
      obtain ⟨tableNamed, leftNamed, rightNamed⟩ := structured
      obtain ⟨tableNamed', leftNamed', rightNamed'⟩ := structured'
      simp only [written] at same
      obtain ⟨sides, behindSide⟩ := readable_side trivial trivial (opens_anything _) (opens_anything _) same
      obtain ⟨tables, behindTable⟩ := readable_identifier (by decide) tableNamed tableNamed' (on _) (on _) behindSide
      rw [String.append_right_inj] at behindTable
      obtain ⟨lefts, behindLeft⟩ := readable_identifier (by decide) leftNamed leftNamed' (Relation.opens_blank _ _)
        (Relation.opens_blank _ _) behindTable
      obtain ⟨ops, behindOp⟩ := Relation.readable_sql trivial trivial (opens_anything _) (opens_anything _)
        behindLeft
      obtain ⟨rights, rests⟩ := readable_identifier stops rightNamed rightNamed' opens opens' behindOp
      cases sides
      cases tables
      cases lefts
      cases ops
      cases rights
      exact ⟨rfl, rests⟩

theorem starts_join : Starts (fun join : Join => " " ++ join.sql) Join.Structured
    [" JOIN ", " LEFT JOIN ", " RIGHT JOIN "] := by
  intro join structured
  cases join with
  | raw side sql => exact structured.elim
  | on side table left op right =>
    refine ⟨" " ++ side.sql ++ " ", ?_, table ++ " ON " ++ left ++ " " ++ op.sql ++ " " ++ right, ?_⟩
    · cases side <;> decide
    · simp only [Join.sql, String.append_assoc]

theorem readable_direction : Readable (fun d : Direction => " " ++ d.sql) id (fun _ => True) [""] :=
  readable_words [.ascending, .descending] (fun d => by cases d <;> decide) (by decide)

theorem readable_key : Readable SortKey.sql id (fun k => Identifier k.column) [""] := by
  rintro ⟨column, direction⟩ ⟨column', direction'⟩ rest rest' named named' _ _ same
  have blank (rest : String) : Opens [" "] (" " ++ rest) := opens_append List.mem_cons_self rest
  simp only [SortKey.sql, String.append_assoc] at same
  obtain ⟨columns, behindColumn⟩ := readable_identifier (by decide) named named' (blank _) (blank _) same
  rw [← String.append_assoc, ← String.append_assoc] at behindColumn
  obtain ⟨directions, rests⟩ := readable_direction trivial trivial (opens_anything _) (opens_anything _) behindColumn
  cases columns
  cases directions
  exact ⟨rfl, rests⟩

/-! ## Clauses -/

namespace Clauses

/-- Every name is an identifier, and joins and conditions are structured. -/
structure Structured (c : Clauses) : Prop where
  columns : ∀ x ∈ c.columns, Identifier x
  table : ∀ x ∈ c.table, Identifier x
  source : ∀ x ∈ c.source, Identifier x
  joins : ∀ join ∈ c.joins, join.Structured
  conditions : ∀ condition ∈ c.conditions, condition.predicate.Structured
  groupBy : ∀ x ∈ c.groupBy, Identifier x
  orderBy : ∀ key ∈ c.orderBy, Identifier key.column

/-! The clauses of a query as texts, each with a blank before it, and with what each of them starts. -/

def joinText (c : Clauses) : String := writeAll (fun join : Join => " " ++ join.sql) c.joins

/-- What is written of a condition that is not the first one. -/
def furtherText (x : Condition) : String := " " ++ x.connective.sql ++ " " ++ x.predicate.template.sql

def whereText (c : Clauses) : String :=
  writeClause " WHERE " (fun x : Condition => x.predicate.template.sql) furtherText c.conditions

def groupText (c : Clauses) : String := writeClause " GROUP BY " id (", " ++ ·) c.groupBy

def orderText (c : Clauses) : String := writeClause " ORDER BY " SortKey.sql (", " ++ ·.sql) c.orderBy

def limitText (c : Clauses) : String := writeAll (fun n => " LIMIT " ++ Text.natText n) c.limit.toList

def offsetText (c : Clauses) : String := writeAll (fun n => " OFFSET " ++ Text.natText n) c.offset.toList

def offsetHeads : List String := [" OFFSET "]

def limitHeads : List String := " LIMIT " :: offsetHeads

def orderHeads : List String := " ORDER BY " :: limitHeads

def groupHeads : List String := " GROUP BY " :: orderHeads

def whereHeads : List String := " WHERE " :: groupHeads

def joinHeads : List String := [" JOIN ", " LEFT JOIN ", " RIGHT JOIN "] ++ whereHeads

theorem segment_offset : Segment offsetText offset Structured offsetHeads [] :=
  (segment_number (by decide) (by decide)).comap _ fun _ _ => trivial

theorem segment_limit : Segment limitText limit Structured limitHeads offsetHeads :=
  (segment_number (by decide) (by decide)).comap _ fun _ _ => trivial

theorem segment_order : Segment orderText orderBy Structured orderHeads limitHeads :=
  (Segment.commas (readable_key.of_anything _) (by decide)).comap orderBy fun _ structured => structured.orderBy

theorem segment_group : Segment groupText groupBy Structured groupHeads orderHeads :=
  (Segment.commas (readable_identifier (by decide)) (by decide)).comap groupBy fun _ structured => structured.groupBy

theorem readable_connective : Readable (fun x : Connective => " " ++ x.sql ++ " ") id (fun _ => True) [""] :=
  readable_words [.and, .or] (fun x => by cases x <;> decide) (by decide)

/-- The first shape, and the further ones with their connectives, are all shapes and all connectives but the first. -/
theorem shapes_of_clause {xs xs' : List Condition}
    (same : (xs.head?.map (·.predicate.shape?), xs.tail.map fun x => (x.connective, x.predicate.shape?)) =
      (xs'.head?.map (·.predicate.shape?), xs'.tail.map fun x => (x.connective, x.predicate.shape?))) :
    (xs.map (·.predicate.shape?), xs.tail.map (·.connective)) =
      (xs'.map (·.predicate.shape?), xs'.tail.map (·.connective)) := by
  obtain ⟨first, others⟩ := Prod.mk.inj same
  have connectives := congrArg (List.map Prod.fst) others
  have shapes := congrArg (List.map Prod.snd) others
  rw [List.map_map, List.map_map] at connectives shapes
  cases xs with
  | nil =>
    cases xs' with
    | nil => rfl
    | cons x' xs' => cases first
  | cons x xs =>
    cases xs' with
    | nil => cases first
    | cons x' xs' => exact Prod.ext (List.cons_eq_cons.mpr ⟨Option.some.inj first, shapes⟩) connectives

theorem starts_further :
    Starts furtherText (fun x => x.predicate.Structured) [" AND ", " OR "] := by
  intro x _
  refine ⟨" " ++ x.connective.sql ++ " ", ?_, x.predicate.template.sql, rfl⟩
  cases x.connective <;> decide

/-- Of the conditions the shapes are shown, and how each but the first is tied to the one before it. -/
theorem segment_where :
    Segment whereText
      (fun c => (c.conditions.map (·.predicate.shape?), c.conditions.tail.map (·.connective))) Structured
      whereHeads groupHeads := by
  have condition (heads : List String) :
      Readable (fun x : Condition => x.predicate.template.sql) (·.predicate.shape?) (fun x => x.predicate.Structured)
        heads :=
    (Predicate.readable_template.comap Condition.predicate fun _ given => given).of_anything heads
  have further : Readable furtherText (fun x => (x.connective, x.predicate.shape?))
      (fun x => x.predicate.Structured) ([" AND ", " OR "] ++ groupHeads) :=
    (readable_connective.comap Condition.connective fun _ _ => trivial).append
      (fun _ _ _ _ => opens_anything _) (condition _)
  have clause := Segment.clause " WHERE " (condition _) further starts_further (by decide)
  refine (clause.comap conditions fun _ structured => structured.conditions).map ?_
  intro c c' _ _ same
  exact shapes_of_clause same

theorem segment_joins : Segment joinText joins Structured joinHeads whereHeads := by
  have list : Segment _ _ _ joinHeads whereHeads :=
    Segment.many (readable_join (by decide)) starts_join (by decide)
  refine (list.comap joins fun _ structured => structured.joins).map ?_
  intro c c' _ _ same
  simpa using same

def behindTable (c : Clauses) : String :=
  c.joinText ++ (c.whereText ++ (c.groupText ++ (c.orderText ++ (c.limitText ++ c.offsetText))))

/-- All of these clauses but the values of the conditions. -/
def shown (c : Clauses) :
    List Join × (List (Option Shape) × List Connective) × List String × List SortKey × Option Nat × Option Nat :=
  (c.joins, (c.conditions.map (·.predicate.shape?), c.conditions.tail.map (·.connective)), c.groupBy, c.orderBy,
    c.limit, c.offset)

theorem segment_behindTable : Segment behindTable shown Structured joinHeads [] :=
  segment_joins.append (segment_where.append (segment_group.append (segment_order.append
    (segment_limit.append segment_offset))))

end Clauses
end SqlDraft
