import SqlDraft.Failure
import SqlDraft.Text.Blank

/-!
# Comparison operators

The eleven operators that a structured condition may use. A caller names an operator in text; it is
recognised up to the case of its ASCII letters and to the blanks around and between its words, and
what reaches a statement is always the operator's own spelling.
-/

namespace SqlDraft

/-- An operator between a column and a value, or between two columns. -/
inductive Comparison
  | equal
  | less
  | lessOrEqual
  | greater
  | greaterOrEqual
  /-- Inequality, spelled `<>`. -/
  | unequal
  /-- Inequality, spelled `!=`. -/
  | notEqual
  | like
  | notLike
  | ilike
  | notIlike
  deriving DecidableEq

namespace Comparison

/-- The operator as a statement spells it. -/
def sql : Comparison → String
  | equal => "="
  | less => "<"
  | lessOrEqual => "<="
  | greater => ">"
  | greaterOrEqual => ">="
  | unequal => "<>"
  | notEqual => "!="
  | like => "LIKE"
  | notLike => "NOT LIKE"
  | ilike => "ILIKE"
  | notIlike => "NOT ILIKE"

/-- Every operator there is. -/
def all : List Comparison :=
  [equal, less, lessOrEqual, greater, greaterOrEqual, unequal, notEqual, like, notLike, ilike, notIlike]

/-- The words of a text with one space between them and ASCII letters as capitals. -/
def normalized (s : String) : List Char :=
  Text.upperAscii ((Text.words s.toList).intersperse [' ']).flatten

/-- The operator that a text names. -/
def read? (s : String) : Option Comparison := all.find? fun op => op.sql.toList == normalized s

/-- The operator that a text names, or a complaint that shows the text. -/
def read (s : String) : Except UsageError Comparison :=
  match read? s with
  | some op => .ok op
  | none => .error (.unknownComparison s)

theorem mem_all (op : Comparison) : op ∈ all := by cases op <;> decide

end Comparison
end SqlDraft
