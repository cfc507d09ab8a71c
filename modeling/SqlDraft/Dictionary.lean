/-!
# Dictionaries

Entries in ascending order of their names, each name once. Names compare character by character, which
is also the order of their bytes in UTF-8.
-/

namespace SqlDraft

/-- Puts an entry into ascending entries: before the first name that is not smaller, in place of an
entry of the same name. -/
def putAscending {α : Type} (name : String) (a : α) : List (String × α) → List (String × α)
  | [] => [(name, a)]
  | (other, b) :: rest =>
    if name < other then (name, a) :: (other, b) :: rest
    else if other < name then (other, b) :: putAscending name a rest
    else (other, a) :: rest

/-- Every name of the entries after putting is the new one or one that was there. -/
theorem mem_map_fst_putAscending {α : Type} {name x : String} {a : α} {entries : List (String × α)}
    (h : x ∈ (putAscending name a entries).map Prod.fst) : x = name ∨ x ∈ entries.map Prod.fst := by
  induction entries with
  | nil => simpa [putAscending] using h
  | cons e rest ih =>
    obtain ⟨other, b⟩ := e
    simp only [putAscending] at h
    split at h
    · simpa using h
    · split at h
      · simp only [List.map_cons, List.mem_cons] at h ⊢
        rcases h with h | h
        · exact Or.inr (Or.inl h)
        · rcases ih h with h | h
          · exact Or.inl h
          · exact Or.inr (Or.inr h)
      · exact Or.inr (by simpa using h)

/-- Putting keeps entries ascending. -/
theorem pairwise_putAscending {α : Type} {name : String} {a : α} {entries : List (String × α)}
    (ascending : (entries.map Prod.fst).Pairwise (· < ·)) :
    ((putAscending name a entries).map Prod.fst).Pairwise (· < ·) := by
  induction entries with
  | nil => simp [putAscending]
  | cons e rest ih =>
    obtain ⟨other, b⟩ := e
    simp only [List.map_cons, List.pairwise_cons] at ascending
    simp only [putAscending]
    split
    · next smaller =>
      simp only [List.map_cons, List.pairwise_cons]
      refine ⟨fun x hx => ?_, ascending⟩
      rcases List.mem_cons.1 hx with h | h
      · exact h ▸ smaller
      · exact String.lt_trans smaller (ascending.1 x h)
    · split
      · next greater =>
        simp only [List.map_cons, List.pairwise_cons]
        refine ⟨fun x hx => ?_, ih ascending.2⟩
        rcases mem_map_fst_putAscending hx with h | h
        · exact h ▸ greater
        · exact ascending.1 x h
      · simpa using ascending

theorem lookup_entry {α : Type} (name x : String) (a : α) (rest : List (String × α)) :
    ((name, a) :: rest).lookup x = if x = name then some a else rest.lookup x := by
  by_cases same : x = name
  · simp [same]
  · have apart : (x == name) = false := beq_eq_false_iff_ne.2 same
    simp [List.lookup_cons, same, apart]

/-- After putting, a name has the new entry, and any other name has what it had. -/
theorem lookup_putAscending {α : Type} (name x : String) (a : α) (entries : List (String × α)) :
    (putAscending name a entries).lookup x = if x = name then some a else entries.lookup x := by
  induction entries with
  | nil => exact lookup_entry name x a []
  | cons e rest ih =>
    obtain ⟨other, b⟩ := e
    rw [putAscending]
    split
    · exact lookup_entry name x a _
    · next notSmaller =>
      split
      · next greater =>
        have apart : other ≠ name := by
          rintro rfl
          exact notSmaller greater
        rw [lookup_entry, lookup_entry, ih]
        by_cases here : x = other
        · simp [here, apart]
        · simp [here]
      · next notGreater =>
        have same : other = name := String.le_antisymm (String.not_lt.1 notSmaller) (String.not_lt.1 notGreater)
        rw [lookup_entry, lookup_entry, same]
        by_cases here : x = name <;> simp [here]

/-- Named entries in ascending order. -/
structure Dictionary (α : Type) where
  entries : List (String × α)
  ascending : (entries.map Prod.fst).Pairwise (· < ·)
  deriving DecidableEq

namespace Dictionary

variable {α : Type}

def empty : Dictionary α := ⟨[], List.Pairwise.nil⟩

/-- Puts an entry in the place of its name. -/
def put (d : Dictionary α) (name : String) (a : α) : Dictionary α :=
  ⟨putAscending name a d.entries, pairwise_putAscending d.ascending⟩

/-- The dictionary of some entries; of two with one name the later counts. -/
def ofList (entries : List (String × α)) : Dictionary α := entries.foldl (fun d e => d.put e.1 e.2) empty

/-- The entry with a name. -/
def get? (d : Dictionary α) (name : String) : Option α := d.entries.lookup name

def contains (d : Dictionary α) (name : String) : Bool := (d.get? name).isSome

@[simp] theorem get?_empty (x : String) : (empty : Dictionary α).get? x = none := rfl

theorem get?_put (d : Dictionary α) (name x : String) (a : α) :
    (d.put name a).get? x = if x = name then some a else d.get? x :=
  lookup_putAscending name x a d.entries

end Dictionary
end SqlDraft
