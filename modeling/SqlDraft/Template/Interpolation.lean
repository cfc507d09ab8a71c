import SqlDraft.Template.Rendering

/-!
# Interpolation

A statement's text with its values in place, for readers: it is found again by scanning the text,
where a question mark between single quotes is no slot. A quote written twice opens and closes, or
closes and opens, so it changes nothing.
-/

namespace SqlDraft

/-- Puts the literals of values into a text, given whether it starts between quotes. Question marks
without a value stay, and values without a question mark are not used. -/
def interpolateFrom : Bool → List Char → List Value → List Char
  | _, [], _ => []
  | quoted, c :: rest, params =>
    if c = '\x27' then c :: interpolateFrom (!quoted) rest params
    else if c = '?' ∧ quoted = false then
      match params with
      | [] => c :: interpolateFrom quoted rest []
      | v :: others => v.literal.toList ++ interpolateFrom quoted rest others
    else c :: interpolateFrom quoted rest params

/-- Puts the literals of values into the text of a statement. -/
def interpolate (sql : String) (params : List Value) : String :=
  String.ofList (interpolateFrom false sql.toList params)

/-- The statement with its values in place. -/
def Statement.interpolated (s : Statement) : String := interpolate s.sql s.params

/-- The draft's statement with its values in place. -/
def Draft.interpolated (d : Draft) : Except UsageError String :=
  d.toSql.map fun sql => interpolate sql d.params

end SqlDraft
