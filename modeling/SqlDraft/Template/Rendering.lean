import SqlDraft.Draft
import SqlDraft.Template
import SqlDraft.Text.Blank

/-!
# Rendering drafts

The template of a draft. Clauses stand in the order that the statement language wants, one space
apart, and a clause that the draft does not have leaves nothing behind. Identifiers are written as
they were given.
-/

namespace SqlDraft

/-- The name of an aggregate's column. -/
def aggregateName : String := "valor"

/-- The table of a statement, which must not be blank. -/
def requireTable (verb : Verb) : Option String → Except UsageError String
  | some table => if Text.isBlankText table.toList then .error (.noTable verb) else .ok table
  | none => .error (.noTable verb)

namespace Predicate

/-- A predicate in pieces. No value lies in an empty list and every value lies outside it, so there the
column is not even named. -/
def template : Predicate → Template
  | raw sql => .ofText sql
  | compare column op v => [.text (column ++ " " ++ op.sql ++ " "), .ofValue v]
  | isIn _ [] negated => .ofText (if negated then "1=1" else "1=0")
  | isIn column values negated =>
    .text (column ++ (if negated then " NOT IN (" else " IN (")) :: (Template.ofValues values ++ [.text ")"])
  | between column low high => [.text (column ++ " BETWEEN "), .ofValue low, .text " AND ", .ofValue high]

end Predicate

/-- A join as text. -/
def Join.sql : Join → String
  | raw side sql => side.sql ++ " " ++ sql
  | on side table left op right =>
    side.sql ++ " " ++ table ++ " ON " ++ left ++ " " ++ op.sql ++ " " ++ right

/-- A sort key as text. -/
def SortKey.sql (k : SortKey) : String := k.column ++ " " ++ k.direction.sql

namespace Clauses

/-- The joins, if there are any. -/
def joinTemplates (c : Clauses) : List Template :=
  if c.joins.isEmpty then [] else [.ofText (String.intercalate " " (c.joins.map Join.sql))]

/-- Conditions behind the first one, each after its connective. -/
def furtherConditions : List Condition → Template
  | [] => []
  | c :: rest => .text (" " ++ c.connective.sql ++ " ") :: (c.predicate.template ++ furtherConditions rest)

/-- The conditions, if there are any. -/
def whereTemplates (c : Clauses) : List Template :=
  match c.conditions with
  | [] => []
  | first :: rest => [.text "WHERE " :: (first.predicate.template ++ furtherConditions rest)]

/-- The clauses that only queries have: groups, order and size. -/
def tailTemplates (c : Clauses) : List Template :=
  (if c.groupBy.isEmpty then [] else [.ofText ("GROUP BY " ++ commaSeparated c.groupBy)]) ++
  (if c.orderBy.isEmpty then [] else [.ofText ("ORDER BY " ++ commaSeparated (c.orderBy.map SortKey.sql))]) ++
  (match c.limit with
    | some n => [.ofText ("LIMIT " ++ Text.natText n)]
    | none => []) ++
  (match c.offset with
    | some n => [.ofText ("OFFSET " ++ Text.natText n)]
    | none => [])

end Clauses

namespace Selection

/-- What is read of each row. Distinct values of all columns cannot be asked for inside an
aggregate. -/
def projection (s : Selection) : String :=
  match s.aggregate with
  | some a =>
    let distinct := if s.clauses.distinct && a.column != "*" then "DISTINCT " else ""
    a.function.sql ++ "(" ++ distinct ++ a.column ++ ") AS " ++ aggregateName
  | none =>
    let columns := if s.clauses.columns.isEmpty then "*" else commaSeparated s.clauses.columns
    if s.clauses.distinct then "DISTINCT " ++ columns else columns

/-- A query in pieces. -/
def template (s : Selection) : Except UsageError Template := do
  let table ← requireTable .select (s.clauses.source <|> s.clauses.table)
  return Template.joined " "
    (.ofText ("SELECT " ++ s.projection ++ " FROM " ++ table) ::
      (s.clauses.joinTemplates ++ s.clauses.whereTemplates ++ s.clauses.tailTemplates))

end Selection

namespace Draft

/-- A group of values between parentheses. -/
def groupTemplate (values : List Value) : Template := .text "(" :: (Template.ofValues values ++ [.text ")"])

/-- An insert up to its rows. -/
def insertHead (table : String) (columns : List String) : String :=
  "INSERT INTO " ++ table ++ " (" ++ commaSeparated columns ++ ") "

/-- An insert in pieces. -/
def insertTemplate (c : Clauses) (source : InsertSource) : Except UsageError Template := do
  let table ← requireTable .insert c.table
  if !c.conditions.isEmpty then throw .insertWithConditions
  match source with
  | .rows columns rows =>
    if columns.isEmpty || rows.isEmpty then throw .insertWithoutColumn
    return .text (insertHead table columns ++ "VALUES ") :: Template.joined ", " (rows.map groupTemplate)
  | .query columns selection =>
    let query ← selection.template
    return .text (insertHead table columns) :: query

/-- An assignment in pieces. -/
def assignmentTemplate (e : String × Value) : Template := [.text (e.1 ++ " = "), .ofValue e.2]

/-- An update in pieces. -/
def updateTemplate (c : Clauses) (assignments : Record) : Except UsageError Template := do
  let table ← requireTable .update c.table
  if assignments.isEmpty then throw .updateWithoutColumn
  return Template.joined " "
    (.ofText ("UPDATE " ++ table) ::
      (c.joinTemplates ++
        [.text "SET " :: Template.joined ", " (assignments.entries.map assignmentTemplate)] ++
        c.whereTemplates))

/-- A deletion in pieces. -/
def deleteTemplate (c : Clauses) : Except UsageError Template := do
  let table ← requireTable .delete c.table
  return Template.joined " " (.ofText ("DELETE FROM " ++ table) :: (c.joinTemplates ++ c.whereTemplates))

/-- The statement in pieces. A refused operator comes before any other complaint. -/
def template (d : Draft) : Except UsageError Template :=
  match d.rejection with
  | some cause => .error (.rejected cause)
  | none =>
    match d.purpose with
    | .select aggregate => Selection.template ⟨d.clauses, aggregate⟩
    | .insert source => insertTemplate d.clauses source
    | .update assignments => updateTemplate d.clauses assignments
    | .delete => deleteTemplate d.clauses

/-- The text to send. -/
def toSql (d : Draft) : Except UsageError String := d.template.map Template.sql

/-- The statement to send. -/
def build (d : Draft) : Except UsageError Statement := d.toSql.map fun sql => ⟨sql, d.params⟩

end Draft
end SqlDraft
