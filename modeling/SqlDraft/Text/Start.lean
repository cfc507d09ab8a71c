/-!
# The start of a text

What a reader may find at the start of a text before it reads on.
-/

namespace SqlDraft.Text

/-- The text behind an expected character. -/
def after? (c : Char) : List Char → Option (List Char)
  | [] => none
  | d :: rest => if d = c then some rest else none

/-- The text without the byte order mark that it may start with, which has no meaning. -/
def withoutMark (s : List Char) : List Char := (after? '\ufeff' s).getD s

end SqlDraft.Text
