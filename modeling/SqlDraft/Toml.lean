/-!
# Documents of settings

The data that a TOML document stands for, and how its lines build it up. Tables come about in several
ways, and the way decides what may be added later: a table with a header of its own is closed to
dotted keys, one made by dotted keys is closed to headers, and one that is only on the way to a deeper
header may still get its own.
-/

namespace SqlDraft

/-- The data of a document. -/
inductive Toml
  | text (s : String)
  | integer (n : Int)
  | float
  /-- A number whose spelling is well formed, but which is out of range or stands for nothing. -/
  | noNumber
  | bool (b : Bool)
  | moment
  | list (items : List Toml)
  | table (entries : List (String × Toml))

namespace Toml

mutual

/-- Whether every number in a piece of data stands for a value. -/
def isValued : Toml → Bool
  | .noNumber => false
  | .list items => allValued items
  | .table entries => entriesValued entries
  | _ => true

/-- Whether every number in a list stands for a value. -/
def allValued : List Toml → Bool
  | [] => true
  | item :: rest => item.isValued && allValued rest

/-- Whether every number in the entries of a table stands for a value. -/
def entriesValued : List (String × Toml) → Bool
  | [] => true
  | (_, v) :: rest => v.isValued && entriesValued rest

end

/-- A document under construction. -/
inductive Node
  /-- A value, which nothing can be added to. -/
  | value (v : Toml)
  /-- A table; `implied` if it has no header of its own, `dotted` if a dotted key made it. -/
  | table (implied dotted : Bool) (entries : List (String × Node))
  /-- A list of tables, of which the last one is open. -/
  | tables (closed : List (List (String × Node))) (last : List (String × Node))

/-- The entries of a table under construction. -/
abbrev Entries := List (String × Node)

/-- Changes the entry of a name, which may be missing. -/
def Entries.change (name : String) (f : Option Node → Option Node) (entries : Entries) : Option Entries :=
  match entries with
  | [] => (f none).map fun node => [(name, node)]
  | (other, node) :: rest =>
    if other = name then (f (some node)).map fun node => (other, node) :: rest
    else (Entries.change name f rest).map ((other, node) :: ·)

/-- Assigns a value to a dotted key. Tables on the way must have been made by dotted keys or be only
implied, and the last of them must have been made by dotted keys. -/
def Entries.assign (v : Toml) : List String → Entries → Option Entries
  | [], _ => none
  | [name], entries =>
    entries.change name fun
      | none => some (.value v)
      | some _ => none
  | name :: rest, entries =>
    entries.change name fun
      | none => (Entries.assign v rest []).map (.table true true)
      | some (.table true dotted inner) =>
        if rest.length = 1 ∧ dotted = false then none
        else (Entries.assign v rest inner).map (.table true dotted)
      | some (.tables closed last) =>
        if rest.length = 1 then none else (Entries.assign v rest last).map (.tables closed)
      | some _ => none

/-- Opens the table of a header. It must be new or only implied by deeper headers. -/
def Entries.openTable : List String → Entries → Option Entries
  | [], _ => none
  | [name], entries =>
    entries.change name fun
      | none => some (.table false false [])
      | some (.table true false inner) => some (.table false false inner)
      | some _ => none
  | name :: rest, entries =>
    entries.change name fun
      | none => (Entries.openTable rest []).map (.table true false)
      | some (.table implied dotted inner) => (Entries.openTable rest inner).map (.table implied dotted)
      | some (.tables closed last) => (Entries.openTable rest last).map (.tables closed)
      | some (.value _) => none

/-- Opens a further table of a list. The list must be new or have been made by such headers. -/
def Entries.openElement : List String → Entries → Option Entries
  | [], _ => none
  | [name], entries =>
    entries.change name fun
      | none => some (.tables [] [])
      | some (.tables closed last) => some (.tables (closed ++ [last]) [])
      | some _ => none
  | name :: rest, entries =>
    entries.change name fun
      | none => (Entries.openElement rest []).map (.table true false)
      | some (.table implied dotted inner) => (Entries.openElement rest inner).map (.table implied dotted)
      | some (.tables closed last) => (Entries.openElement rest last).map (.tables closed)
      | some (.value _) => none

/-- Changes the open table of a header. -/
def Entries.within (f : Entries → Option Entries) : List String → Entries → Option Entries
  | [], entries => f entries
  | name :: rest, entries =>
    entries.change name fun
      | some (.table implied dotted inner) => (Entries.within f rest inner).map (.table implied dotted)
      | some (.tables closed last) => (Entries.within f rest last).map (.tables closed)
      | _ => none

mutual

/-- The finished data. -/
def Node.finish : Node → Toml
  | .value v => v
  | .table _ _ entries => .table (finishAll entries)
  | .tables closed last => .list (finishTables closed ++ [.table (finishAll last)])

/-- The finished data of entries. -/
def finishAll : List (String × Node) → List (String × Toml)
  | [] => []
  | (name, node) :: rest => (name, node.finish) :: finishAll rest

/-- The finished data of a list of tables. -/
def finishTables : List (List (String × Node)) → List Toml
  | [] => []
  | entries :: rest => .table (finishAll entries) :: finishTables rest

end

end Toml
end SqlDraft
