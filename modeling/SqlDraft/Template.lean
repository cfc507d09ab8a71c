import SqlDraft.Value

/-!
# Templates

A statement before its values are separated from its text: pieces of text, and slots that each hold
the value bound there. The text that is sent has a question mark per slot; a reader's text has the
value's literal instead.
-/

namespace SqlDraft

/-- A part of a statement. -/
inductive Piece
  | text (s : String)
  | slot (v : Value)
  deriving DecidableEq

/-- The piece of a value: an expression is text as it stands, and any other value has a slot. -/
def Piece.ofValue : Value → Piece
  | .raw sql => .text sql
  | v => .slot v

/-- The piece in the text that is sent. -/
def Piece.sql : Piece → String
  | text s => s
  | slot _ => "?"

/-- The piece in a text for readers. -/
def Piece.inlined : Piece → String
  | text s => s
  | slot v => v.literal

/-- A statement in pieces. -/
abbrev Template := List Piece

namespace Template

/-- The text that is sent. -/
def sql (t : Template) : String := String.join (t.map Piece.sql)

/-- The text with every value in its place. -/
def inlined (t : Template) : String := String.join (t.map Piece.inlined)

/-- The values of the slots, in the order of the text. -/
def slots (t : Template) : List Value :=
  t.filterMap fun
    | .slot v => some v
    | .text _ => none

/-- A template that is all text. -/
def ofText (s : String) : Template := [.text s]

/-- Templates one after the other, with a text between each two. -/
def joined (between : String) : List Template → Template
  | [] => []
  | [t] => t
  | t :: rest => t ++ .text between :: joined between rest

/-- The pieces of values, separated by commas. -/
def ofValues (vs : List Value) : Template := joined ", " (vs.map fun v => [Piece.ofValue v])

end Template

/-- Texts separated by commas. -/
def commaSeparated (texts : List String) : String := String.intercalate ", " texts

end SqlDraft
