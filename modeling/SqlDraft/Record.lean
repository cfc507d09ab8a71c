import SqlDraft.Value.Native

/-!
# Records

What an insert or update writes: columns with their values, in the order in which the columns were
first written. Writing a column again changes its value and leaves its place.
-/

namespace SqlDraft

/-- Writes a column among entries. -/
def putEntry (column : String) (v : Value) : List (String × Value) → List (String × Value)
  | [] => [(column, v)]
  | (other, old) :: rest =>
    if other = column then (other, v) :: rest else (other, old) :: putEntry column v rest

/-- Writing keeps the columns that were there and adds the column at the end if it is new. -/
theorem map_fst_putEntry (column : String) (v : Value) (entries : List (String × Value)) :
    (putEntry column v entries).map Prod.fst =
      if column ∈ entries.map Prod.fst then entries.map Prod.fst else entries.map Prod.fst ++ [column] := by
  induction entries with
  | nil => simp [putEntry]
  | cons e rest ih =>
    obtain ⟨other, old⟩ := e
    by_cases same : other = column
    · simp [putEntry, same]
    · by_cases known : column ∈ rest.map Prod.fst
      · simp only [putEntry, same, if_false, List.map_cons, ih, known, if_true, List.mem_cons, or_true]
      · have new : column ∉ other :: rest.map Prod.fst := by
          simp only [List.mem_cons, not_or]
          exact ⟨fun h => same h.symm, known⟩
        simp only [putEntry, same, if_false, List.map_cons, ih, known, new, List.cons_append]

/-- Writing keeps columns distinct. -/
theorem nodup_putEntry {column : String} {v : Value} {entries : List (String × Value)}
    (distinct : (entries.map Prod.fst).Nodup) : ((putEntry column v entries).map Prod.fst).Nodup := by
  rw [map_fst_putEntry]
  split
  · exact distinct
  · next new =>
    rw [List.nodup_append]
    exact ⟨distinct, by simp, fun a ha b hb => by
      rw [List.mem_singleton] at hb
      subst hb
      exact fun h => new (h ▸ ha)⟩

/-- Columns with values; no column occurs twice. -/
structure Record where
  entries : List (String × Value)
  distinct : (entries.map Prod.fst).Nodup
  deriving DecidableEq

namespace Record

/-- The record without columns. -/
def empty : Record := ⟨[], List.nodup_nil⟩

instance : Inhabited Record := ⟨empty⟩

/-- Writes a value to a column. -/
def put (r : Record) (column : String) (v : Value) : Record :=
  ⟨putEntry column v r.entries, nodup_putEntry r.distinct⟩

/-- Writes data to a column. -/
def set {α : Type} [ToValue α] (r : Record) (column : String) (a : α) : Record := r.put column (toValue a)

/-- Writes all entries, one after the other. -/
def putAll (r : Record) (entries : List (String × Value)) : Record :=
  entries.foldl (fun r e => r.put e.1 e.2) r

/-- The record of some entries; of two with one column the later counts. -/
def ofList (entries : List (String × Value)) : Record := empty.putAll entries

/-- The record with the columns of another one written over it. -/
def merge (r other : Record) : Record := r.putAll other.entries

/-- The value of a column. -/
def get? (r : Record) (column : String) : Option Value := r.entries.lookup column

/-- Whether a column was written. -/
def contains (r : Record) (column : String) : Bool := (r.get? column).isSome

def columns (r : Record) : List String := r.entries.map Prod.fst

def values (r : Record) : List Value := r.entries.map Prod.snd

def size (r : Record) : Nat := r.entries.length

def isEmpty (r : Record) : Bool := r.entries.isEmpty

/-- Whether two records have the same columns in the same order with values that agree. -/
def agrees (r other : Record) : Bool :=
  r.size == other.size &&
    (r.entries.zip other.entries).all fun (a, b) => a.1 == b.1 && a.2.agrees b.2

@[simp] theorem entries_put (r : Record) (column : String) (v : Value) :
    (r.put column v).entries = putEntry column v r.entries := rfl

end Record
end SqlDraft
