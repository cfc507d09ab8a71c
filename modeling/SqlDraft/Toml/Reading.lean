import SqlDraft.Toml.Layout
import SqlDraft.Toml.Scalars

/-!
# Reading documents

What the lines of a document are worth. The whole document is laid out first; then its lines are read in
order, and the first of them that cannot be read decides why the document cannot. Headers open tables, and
assignments add to the one that is open.
-/

namespace SqlDraft.Toml

/-- Why a document cannot be read. -/
inductive ReadError
  | malformed
  /-- A key with too many parts. -/
  | longKey
  deriving DecidableEq

/-- The value that must be there for a document to be well formed. -/
def wellFormed {α : Type} : Option α → Except ReadError α
  | some a => .ok a
  | none => .error .malformed

/-- A character of a key that needs no quotes. -/
def isKeyChar (c : Char) : Bool := c.isAlphanum || c == '_' || c == '-'

/-- What stands for a whole text, if nothing is left of it. -/
def whole? {α : Type} : Option (α × List Char) → Option α
  | some (a, []) => some a
  | _ => none

/-- The name that a part of a key is: bare, or between quotes of either kind on one line. -/
def keyName? (token : List Char) : Option String :=
  match token with
  | '\x22' :: rest => (whole? (basic? rest)).map String.ofList
  | '\x27' :: rest => (whole? (literal? rest)).map String.ofList
  | _ => if !token.isEmpty && token.all isKeyChar then some (String.ofList token) else none

/-- How many parts a key may have. -/
def maxKeyParts : Nat := 80

/-- The names that a key is made of. -/
def keyNames (key : List (List Char)) : Except ReadError (List String) := do
  let names ← wellFormed (key.mapM keyName?)
  if maxKeyParts < names.length then throw .longKey
  return names

/-- What a string or a scalar is worth. -/
def wordValue? (token : List Char) : Option Toml :=
  if token.head?.any isQuote then (whole? (string? token)).map fun chars => .text (String.ofList chars)
  else scalar? token

mutual

/-- What a value is worth. -/
def Written.value : Written → Except ReadError Toml
  | .word token => wellFormed (wordValue? token)
  | .list items => do
    let values ← valuesOf items
    return .list values
  | .table members => do
    let entries ← addMembers [] members
    return .table (finishAll entries)

/-- What the elements of a list are worth. -/
def valuesOf : List Written → Except ReadError (List Toml)
  | [] => .ok []
  | item :: rest => do
    let v ← item.value
    let others ← valuesOf rest
    return v :: others

/-- Adds the members of a table between braces to entries. -/
def addMembers (entries : Entries) : List (List (List Char) × Written) → Except ReadError Entries
  | [] => .ok entries
  | (key, item) :: rest => do
    let names ← keyNames key
    let v ← item.value
    let entries ← wellFormed (entries.assign v names)
    addMembers entries rest

end

/-- A document of which some lines are read: the key of the open header, and the entries so far. -/
structure Document where
  header : List String := []
  entries : Entries := []

/-- Adds a line to a document. -/
def Document.add (d : Document) : Line → Except ReadError Document
  | .header key => do
    let names ← keyNames key
    let entries ← wellFormed (d.entries.openTable names)
    return { header := names, entries }
  | .element key => do
    let names ← keyNames key
    let entries ← wellFormed (d.entries.openElement names)
    return { header := names, entries }
  | .assignment key item => do
    let names ← keyNames key
    let v ← item.value
    let entries ← wellFormed (d.entries.within (Entries.assign v names) d.header)
    return { d with entries }

/-- Reads a document. A byte order mark at its start has no meaning. -/
def read (s : List Char) : Except ReadError (List (String × Toml)) := do
  let lines ← wellFormed (lines? (Text.withoutMark s))
  let d ← lines.foldlM Document.add {}
  return finishAll d.entries

end SqlDraft.Toml
