import SqlDraft.Draft.Setter
import SqlDraft.Proofs.Template.Alternatives
import SqlDraft.Proofs.Template.ReadableClauses

/-!
# Unambiguous queries

The text of a query shows all of the query but the values that it binds. Two queries whose names are plain
identifiers and whose joins and conditions are structured have the same text only if they read the same of the same
table, with the same joins, the same groups, order and size, and conditions of the same shapes (`alike_of_toSql`).
-/

namespace SqlDraft

/-! ## The clauses in a text -/

namespace Clauses

/-- Templates behind another one, with a blank before each. -/
def spaced (ts : List Template) : String := String.join (ts.map fun t : Template => " " ++ t.sql)

theorem spaced_append (ts us : List Template) : spaced (ts ++ us) = spaced ts ++ spaced us := by
  rw [spaced, spaced, spaced, List.map_append, String.join_append]

theorem spaced_ofText (text : String) : spaced [.ofText text] = " " ++ text := by
  simp [spaced, Template.ofText, Template.sql, Piece.sql]

theorem spaced_joins (c : Clauses) : spaced c.joinTemplates = c.joinText := by
  rw [joinTemplates, joinText]
  cases c.joins with
  | nil => rfl
  | cons join rest =>
    rw [List.isEmpty_cons, if_neg (by simp), spaced_ofText, List.map_cons, intercalate_cons, writeAll_map,
      writeAll_cons, String.append_assoc]
    rfl

theorem sql_furtherConditions (cs : List Condition) :
    Template.sql (furtherConditions cs) = writeAll furtherText cs := by
  induction cs with
  | nil => rfl
  | cons x rest ih =>
    rw [furtherConditions, Template.sql_cons, Template.sql_append, ih, writeAll_cons, furtherText, Piece.sql]
    simp only [String.append_assoc]

theorem spaced_where (c : Clauses) : spaced c.whereTemplates = c.whereText := by
  rw [whereTemplates, whereText]
  cases c.conditions with
  | nil => rfl
  | cons first rest =>
    rw [writeClause, spaced, List.map_singleton, String.join_cons, String.join_nil, String.append_empty,
      Template.sql_cons, Template.sql_append, sql_furtherConditions, Piece.sql, ← String.append_assoc]
    rfl

theorem spaced_keyword (keyword rest : String) : spaced [.ofText (keyword ++ rest)] = " " ++ keyword ++ rest := by
  rw [spaced_ofText, String.append_assoc]

theorem spaced_commas {α : Type} (keyword : String) (write : α → String) (as : List α) :
    spaced (if as.isEmpty then [] else [.ofText (keyword ++ commaSeparated (as.map write))]) =
      writeClause (" " ++ keyword) write (", " ++ write ·) as := by
  cases as with
  | nil => rfl
  | cons a rest =>
    rw [List.isEmpty_cons, if_neg (by simp), spaced_keyword, commaSeparated, List.map_cons, intercalate_cons,
      writeAll_map]
    rfl

theorem spaced_tail (c : Clauses) :
    spaced c.tailTemplates = c.groupText ++ (c.orderText ++ (c.limitText ++ c.offsetText)) := by
  have group := spaced_commas "GROUP BY " id c.groupBy
  rw [List.map_id] at group
  have order := spaced_commas "ORDER BY " SortKey.sql c.orderBy
  have empty : spaced [] = "" := rfl
  have limit (n : Nat) : spaced [.ofText ("LIMIT " ++ Text.natText n)] = " LIMIT " ++ Text.natText n :=
    spaced_keyword "LIMIT " (Text.natText n)
  have offset (n : Nat) : spaced [.ofText ("OFFSET " ++ Text.natText n)] = " OFFSET " ++ Text.natText n :=
    spaced_keyword "OFFSET " (Text.natText n)
  rw [tailTemplates, spaced_append, spaced_append, spaced_append, group, order, limitText, offsetText]
  cases c.limit <;> cases c.offset <;>
    simp only [groupText, orderText, empty, limit, offset, Option.toList_none, Option.toList_some, writeAll_nil,
      writeAll_cons, String.append_empty, String.empty_append, String.append_assoc] <;> rfl

theorem spaced_behindTable (c : Clauses) :
    spaced (c.joinTemplates ++ c.whereTemplates ++ c.tailTemplates) = c.behindTable := by
  rw [spaced_append, spaced_append, spaced_joins, spaced_where, spaced_tail, String.append_assoc]
  rfl

end Clauses

/-! ## What is read -/

namespace Selection

def Structured (s : Selection) : Prop := s.clauses.Structured ∧ ∀ a ∈ s.aggregate, Identifier a.column

def functionText (s : Selection) : String :=
  writeAll (fun f : AggregateFunction => f.sql ++ "(") (s.aggregate.map Aggregate.function).toList

def distinctText (s : Selection) : String :=
  writeAll (fun _ : Unit => "DISTINCT ") (if s.clauses.distinct then [()] else [])

def bodyText (s : Selection) : String :=
  match s.aggregate with
  | some a => a.column ++ (") AS " ++ aggregateName)
  | none => if s.clauses.columns.isEmpty then "*" else commaSeparated s.clauses.columns

theorem projection_eq {s : Selection} (structured : s.Structured) :
    s.projection = s.functionText ++ (s.distinctText ++ s.bodyText) := by
  rw [projection, functionText, distinctText, bodyText]
  cases read : s.aggregate with
  | none =>
    cases s.clauses.distinct with
    | false => rfl
    | true => rfl
  | some a =>
    have name : a.column ≠ "*" := by
      intro same
      have named := structured.2 a read
      rw [same] at named
      exact absurd named (by decide)
    have star : (a.column != "*") = true := by simpa using name
    cases s.clauses.distinct <;>
      simp only [star, Bool.and_true, Bool.false_eq_true, if_false, if_true, Option.map_some, Option.toList_some,
        writeAll_cons, writeAll_nil, String.append_empty, String.empty_append, String.append_assoc]

/-! What may stand at each place of a projection. -/

def bodyHeads : List String := "*" :: smallHeads

def distinctHeads : List String := "DISTINCT " :: bodyHeads

def functionHeads : List String := ["COUNT(", "SUM(", "AVG(", "MIN(", "MAX("] ++ distinctHeads

theorem segment_function :
    Segment functionText (fun s => s.aggregate.map Aggregate.function) Structured functionHeads distinctHeads := by
  have word : Readable (fun f : AggregateFunction => f.sql ++ "(") id (fun _ => True) [""] :=
    readable_words [.count, .sum, .avg, .min, .max] (fun f => by cases f <;> decide) (by decide)
  have starts : Starts (fun f : AggregateFunction => f.sql ++ "(") (fun _ => True)
      ["COUNT(", "SUM(", "AVG(", "MIN(", "MAX("] := by
    intro f _
    refine ⟨f.sql ++ "(", ?_, "", (String.append_empty).symm⟩
    cases f <;> decide
  have list : Segment _ _ _ functionHeads distinctHeads := Segment.many (word.of_anything _) starts (by decide)
  have front : Segment _ _ Structured functionHeads distinctHeads :=
    list.comap (fun s : Selection => (s.aggregate.map Aggregate.function).toList) fun _ _ _ _ => trivial
  refine front.map ?_
  intro s s' _ _ same
  simpa using congrArg List.head? same

theorem segment_distinct :
    Segment distinctText (fun s => s.clauses.distinct) Structured distinctHeads bodyHeads := by
  have starts : Starts (fun _ : Unit => "DISTINCT ") (fun _ => True) ["DISTINCT "] :=
    fun _ _ => ⟨"DISTINCT ", List.mem_cons_self, "", rfl⟩
  have list : Segment _ _ _ distinctHeads bodyHeads := Segment.many (readable_text "DISTINCT " _) starts (by decide)
  have flag : Segment _ _ Structured distinctHeads bodyHeads :=
    list.comap (fun s : Selection => if s.clauses.distinct then [()] else []) fun _ _ _ _ => trivial
  refine flag.map ?_
  intro s s' _ _ same
  cases distinct : s.clauses.distinct <;> cases distinct' : s'.clauses.distinct <;> simp_all

/-- The columns to read, or an asterisk in their place. -/
def columnsText : List String → String
  | [] => "*"
  | a :: rest => a ++ writeAll (", " ++ ·) rest

theorem leads_columns : Leads columnsText (fun as => ∀ a ∈ as, Identifier a) bodyHeads [" FROM "] := by
  intro as rest all opens
  cases as with
  | nil => exact opens_append List.mem_cons_self rest
  | cons a as =>
    rw [columnsText, String.append_assoc]
    exact (leads_identifier [""] (all a List.mem_cons_self) (opens_anything _)).mono (List.subset_cons_self _ _)

/-- An asterisk is not the start of a name. -/
theorem columnsText_ne {a : String} (named : Identifier a) (as : List String) (rest rest' : String) :
    columnsText [] ++ rest ≠ columnsText (a :: as) ++ rest' := by
  have apart : Apart ["*"] smallHeads := by decide
  have opens : Opens smallHeads (a ++ (writeAll (", " ++ ·) as ++ rest')) :=
    leads_identifier [""] named (opens_anything _)
  rw [columnsText, columnsText, String.append_assoc]
  exact apart.ne_of_opens List.mem_cons_self opens rest

theorem readable_columns : Readable columnsText id (fun as => ∀ a ∈ as, Identifier a) [" FROM "] := by
  have name : Readable id id Identifier ([", "] ++ [" FROM "]) := readable_identifier (by decide)
  have starts : Starts (", " ++ ·) Identifier [", "] := fun a _ => ⟨", ", List.mem_cons_self, a, rfl⟩
  intro as as' rest rest' all all' opens opens' same
  cases as with
  | nil =>
    cases as' with
    | nil => exact ⟨rfl, (String.append_right_inj _).mp same⟩
    | cons a' as' => exact absurd same (columnsText_ne (all' a' List.mem_cons_self) as' rest rest')
  | cons a as =>
    cases as' with
    | nil => exact absurd same.symm (columnsText_ne (all a List.mem_cons_self) as rest' rest)
    | cons a' as' =>
      obtain ⟨first, others, rests⟩ := name.cons (name.after ", ") starts (by decide) all all' opens opens' same
      exact ⟨List.cons_eq_cons.mpr ⟨first, by simpa using others⟩, rests⟩

theorem bodyText_of_none {s : Selection} (read : s.aggregate = none) :
    s.bodyText = columnsText s.clauses.columns := by
  rw [bodyText, read]
  cases s.clauses.columns with
  | nil => rfl
  | cons a as => exact intercalate_cons ", " a as

theorem bodyText_of_some {s : Selection} {a : Aggregate} (read : s.aggregate = some a) :
    s.bodyText = a.column ++ (") AS " ++ aggregateName) := by
  rw [bodyText, read]

theorem leads_body : Leads bodyText Structured bodyHeads [" FROM "] := by
  intro s rest structured opens
  cases read : s.aggregate with
  | none =>
    rw [bodyText_of_none read]
    exact leads_columns structured.1.columns opens
  | some a =>
    rw [bodyText_of_some read, String.append_assoc]
    exact (leads_identifier [""] (structured.2 a read) (opens_anything _)).mono (List.subset_cons_self _ _)

/-- The projection shows the aggregate, or the columns if there is none, and whether rows that are alike are read
once. -/
theorem readable_projection :
    Readable projection
      (fun s => (s.aggregate, s.clauses.distinct, if s.aggregate.isNone then s.clauses.columns else []))
      Structured [" FROM "] := by
  have front := (segment_function.append segment_distinct).readable
  intro s s' rest rest' structured structured' opens opens' same
  have split {s : Selection} (structured : s.Structured) (rest : String) :
      s.projection ++ rest = s.functionText ++ s.distinctText ++ (s.bodyText ++ rest) := by
    rw [projection_eq structured]
    simp only [String.append_assoc]
  rw [split structured, split structured'] at same
  obtain ⟨equal, behindFront⟩ := front structured structured' (leads_body structured opens)
    (leads_body structured' opens') same
  obtain ⟨function, distinct⟩ := Prod.mk.inj equal
  cases read : s.aggregate with
  | none =>
    cases read' : s'.aggregate with
    | some a' => simp [read, read'] at function
    | none =>
      rw [bodyText_of_none read, bodyText_of_none read'] at behindFront
      obtain ⟨columns, rests⟩ := readable_columns structured.1.columns structured'.1.columns opens
        opens' behindFront
      exact ⟨by simp_all, rests⟩
  | some a =>
    cases read' : s'.aggregate with
    | none => simp [read, read'] at function
    | some a' =>
      rw [bodyText_of_some read, bodyText_of_some read', String.append_assoc, String.append_assoc,
        String.append_assoc, String.append_assoc] at behindFront
      have closes (rest : String) : Opens [") AS "] (") AS " ++ (aggregateName ++ rest)) :=
        opens_append List.mem_cons_self _
      obtain ⟨column, rests⟩ := readable_identifier (by decide) (structured.2 a read) (structured'.2 a' read')
        (closes rest) (closes rest') behindFront
      obtain ⟨f, c⟩ := a
      obtain ⟨f', c'⟩ := a'
      refine ⟨by simp_all, ?_⟩
      exact (String.append_right_inj _).mp ((String.append_right_inj _).mp rests)

theorem sql_eq_ok {s : Selection} {t : Template} (ok : s.template = .ok t) :
    ∃ table, (s.clauses.source <|> s.clauses.table) = some table ∧
      t.sql = "SELECT " ++ (s.projection ++ (" FROM " ++ (table ++ s.clauses.behindTable))) := by
  obtain ⟨table, given, rfl⟩ := template_eq_ok ok
  have head : Template.sql (.ofText ("SELECT " ++ s.projection ++ " FROM " ++ table)) =
      "SELECT " ++ s.projection ++ " FROM " ++ table := by
    simp [Template.ofText, Template.sql, Piece.sql]
  refine ⟨table, given, ?_⟩
  rw [Template.sql_joined_cons, head, ← Clauses.spaced_behindTable, Clauses.spaced]
  simp only [String.append_assoc]

end Selection

/-! ## Whole queries -/

namespace Draft

/-- A query whose names are all identifiers and whose joins and conditions are structured. -/
structure Structured (d : Draft) : Prop where
  verb : d.verb = .select
  aggregate : ∀ a, d.purpose = .select (some a) → Identifier a.column
  clauses : d.clauses.Structured

/-- Two queries are the same but for the values of their conditions, and for what an aggregate or the first condition
makes no use of. -/
structure Alike (d d' : Draft) : Prop where
  purpose : d.purpose = d'.purpose
  columns : d.purpose = .select none → d.clauses.columns = d'.clauses.columns
  distinct : d.clauses.distinct = d'.clauses.distinct
  source : (d.clauses.source <|> d.clauses.table) = (d'.clauses.source <|> d'.clauses.table)
  joins : d.clauses.joins = d'.clauses.joins
  shapes : d.clauses.conditions.map (·.predicate.shape?) = d'.clauses.conditions.map (·.predicate.shape?)
  connectives : d.clauses.conditions.tail.map (·.connective) = d'.clauses.conditions.tail.map (·.connective)
  groupBy : d.clauses.groupBy = d'.clauses.groupBy
  orderBy : d.clauses.orderBy = d'.clauses.orderBy
  limit : d.clauses.limit = d'.clauses.limit
  offset : d.clauses.offset = d'.clauses.offset

variable {d d' : Draft} {text : String}

theorem toSql_eq_ok (structured : d.Structured) (ok : d.toSql = .ok text) :
    ∃ aggregate table, d.purpose = .select aggregate ∧ Selection.Structured ⟨d.clauses, aggregate⟩ ∧
      (d.clauses.source <|> d.clauses.table) = some table ∧ Identifier table ∧
      text = "SELECT " ++ (Selection.projection ⟨d.clauses, aggregate⟩ ++
        (" FROM " ++ (table ++ d.clauses.behindTable))) := by
  obtain ⟨t, made, rfl⟩ := map_eq_ok.mp ok
  obtain ⟨verb, aggregated, clauses⟩ := structured
  have selects := (template_eq_ok made).2
  cases purpose : d.purpose with
  | select aggregate =>
    rw [purpose] at selects
    obtain ⟨table, given, written⟩ := Selection.sql_eq_ok selects
    refine ⟨aggregate, table, rfl, ⟨clauses, fun a same => aggregated a ?_⟩, given, ?_, written⟩
    · rw [purpose]
      exact congrArg Purpose.select same
    · cases source : d.clauses.source with
      | some name =>
        rw [source] at given
        cases given
        exact clauses.source table source
      | none =>
        rw [source] at given
        exact clauses.table table given
  | _ => simp [Draft.verb, purpose, Purpose.verb] at verb

/-- The text of a query tells all of it but the values: two structured queries with the same text read the same
columns or the same aggregate of the same table, with the same joins, the same shapes of conditions, tied together in
the same way, and the same groups, order and size. -/
theorem alike_of_toSql (structured : d.Structured) (structured' : d'.Structured) (ok : d.toSql = .ok text)
    (ok' : d'.toSql = .ok text) : d.Alike d' := by
  obtain ⟨aggregate, table, purpose, selection, given, named, written⟩ := toSql_eq_ok structured ok
  obtain ⟨aggregate', table', purpose', selection', given', named', written'⟩ := toSql_eq_ok structured' ok'
  have same := written.symm.trans written'
  rw [String.append_right_inj] at same
  have fromTable (rest : String) : Opens [" FROM "] (" FROM " ++ rest) := opens_append List.mem_cons_self rest
  obtain ⟨projections, behindProjection⟩ := Selection.readable_projection selection selection' (fromTable _)
    (fromTable _) same
  rw [String.append_right_inj] at behindProjection
  have tail := Clauses.segment_behindTable
  have leads (c : Clauses) (given : c.Structured) : Opens Clauses.joinHeads c.behindTable := by
    simpa using tail.leads given (opens_empty [])
  obtain ⟨tables, behindTables⟩ := readable_identifier (by decide) named named' (leads _ structured.clauses)
    (leads _ structured'.clauses) behindProjection
  obtain ⟨clauses, _⟩ := tail.readable structured.clauses structured'.clauses (opens_empty []) (opens_empty [])
    (congrArg (· ++ "") behindTables)
  simp only [Prod.mk.injEq] at projections
  simp only [Clauses.shown, Prod.mk.injEq] at clauses
  obtain ⟨aggregates, distinct, columns⟩ := projections
  obtain ⟨joins, ⟨shapes, connectives⟩, groupBy, orderBy, limit, offset⟩ := clauses
  cases aggregates
  cases tables
  refine ⟨purpose.trans purpose'.symm, ?_, distinct, given.trans given'.symm, joins, shapes, connectives, groupBy,
    orderBy, limit, offset⟩
  intro plain
  cases purpose.symm.trans plain
  exact columns

/-- Two queries that bind different values. -/
theorem alike_of_toSql_rebound :
    let setters (v : Value) (n : Int64) : List Setter :=
      [.selectDistinct ["a"], .table "t", .join .left "u" "t.a" "<" "u.a", .compare .or "a" "not  like" v,
        .isIn .or "b" [.int n, .null] false, .limit 5]
    let d := Draft.empty.applyAll (setters .null 1)
    let d' := Draft.empty.applyAll (setters (.text "x") 2)
    let text := "SELECT DISTINCT a FROM t LEFT JOIN u ON t.a < u.a WHERE a NOT LIKE ? OR b IN (?, ?) LIMIT 5"
    d.Structured ∧ d'.Structured ∧ d ≠ d' ∧ d.toSql = .ok text ∧ d'.toSql = .ok text ∧ d.Alike d' := by
  intro setters d d' text
  have plain (a : Aggregate) (purpose : Purpose.select none = .select (some a)) : Identifier a.column := by
    cases purpose
  have structured : d.Structured :=
    ⟨rfl, plain, by decide, by decide, by decide, by decide, by decide, by decide, by decide⟩
  have structured' : d'.Structured :=
    ⟨rfl, plain, by decide, by decide, by decide, by decide, by decide, by decide, by decide⟩
  have ok : d.toSql = .ok text := by
    refine congrArg Except.ok (?_ : Template.sql _ = text)
    decide +kernel
  have ok' : d'.toSql = .ok text := by
    refine congrArg Except.ok (?_ : Template.sql _ = text)
    decide +kernel
  exact ⟨structured, structured', by decide, ok, ok', alike_of_toSql structured structured' ok ok'⟩

end Draft
end SqlDraft
