import SqlDraft.Row

/-!
# A typed row

A user with a number, a name and possibly a score, read from a row in two ways: column by column,
where stores may return a column in another form than it was given, and member by member from the
row's tree, where numbers are numbers and texts are texts.
-/

namespace SqlDraft

/-- A user. -/
structure User where
  id : Int64
  name : String
  score : Option Binary64
  deriving DecidableEq

namespace User

/-- Reads a user column by column; every column must be there. -/
def ofColumns (r : Row) : Except Failure User := do
  let id ← r.read "id"
  let name ← r.read "name"
  let score ← r.read "score"
  return { id, name, score }

/-- Reads a user from a tree; the score may be missing, and further members do not matter. -/
def ofTree? (tree : Json) : Option User := do
  let id ← tree.member? "id" >>= ofJson?
  let name ← tree.member? "name" >>= ofJson?
  let score ←
    match tree.member? "score" with
    | none => some none
    | some t => ofJson? t
  return { id, name, score }

/-- Reads a user from the tree of a row. -/
def ofRowTree (r : Row) : Except Failure User :=
  match ofTree? r.toJson with
  | some user => .ok user
  | none => .error (.decode "<row>" .shape)

end User

instance : OfRow User := ⟨User.ofColumns⟩

end SqlDraft
