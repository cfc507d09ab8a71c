import SqlDraft.Proofs.Template.Verbatim

/-!
# Rows of records

The rows of an insert are made from records: each takes the columns of the first record in their order
(`ofRecords_eq_ok`), and a record in the order of its own columns gives its values (`inOrder_columns`).
-/

namespace SqlDraft

/-- The values of a row in the order of some columns. -/
def Record.inOrder (columns : List String) (r : Record) : List Value := columns.filterMap r.get?

theorem orderedValues_eq_ok {row : Nat} {r : Record} {columns : List String} {values : List Value}
    (ok : orderedValues row r columns = .ok values) : values = r.inOrder columns := by
  induction columns generalizing values with
  | nil => cases ok; rfl
  | cons column rest ih =>
    rw [orderedValues] at ok
    cases found : r.get? column with
    | none => simp [found] at ok
    | some v =>
      simp only [found] at ok
      obtain ⟨others, more, rfl⟩ := map_eq_ok.mp ok
      rw [ih more]
      simp [Record.inOrder, found]

theorem orderedRows_eq_ok {columns : List String} {row : Nat} {records : List Record}
    {groups : List (List Value)} (ok : orderedRows columns row records = .ok groups) :
    groups = records.map (Record.inOrder columns) := by
  induction records generalizing row groups with
  | nil => cases ok; rfl
  | cons r rest ih =>
    rw [orderedRows] at ok
    split at ok
    · cases ok
    · obtain ⟨values, first, more⟩ := bind_eq_ok.mp ok
      obtain ⟨others, later, same⟩ := bind_eq_ok.mp more
      cases same
      rw [orderedValues_eq_ok first, ih later, List.map_cons]

/-- Rows that can be inserted are at least one, and all take the columns of the first. -/
theorem ofRecords_eq_ok {records : List Record} {source : InsertSource}
    (ok : InsertSource.ofRecords records = .ok source) :
    ∃ first rest, records = first :: rest ∧
      source = .rows first.columns (records.map (Record.inOrder first.columns)) := by
  cases records with
  | nil => cases ok
  | cons first rest =>
    rw [InsertSource.ofRecords] at ok
    split at ok
    · cases ok
    · obtain ⟨groups, ordered, rfl⟩ := map_eq_ok.mp ok
      exact ⟨first, rest, rfl, by rw [orderedRows_eq_ok ordered]⟩

theorem lookup_mem {column : String} {v : Value} {entries : List (String × Value)}
    (found : entries.lookup column = some v) : (column, v) ∈ entries := by
  induction entries with
  | nil => cases found
  | cons e rest ih =>
    obtain ⟨other, w⟩ := e
    rw [List.lookup_cons] at found
    split at found
    · next same =>
      cases found
      rw [eq_of_beq same]
      exact List.mem_cons_self
    · exact List.mem_cons_of_mem _ (ih found)

theorem Record.spelled_inOrder {P : String → Prop} {r : Record} (given : ∀ x ∈ r.texts, P x)
    (columns : List String) : ∀ v ∈ r.inOrder columns, ∀ x ∈ v.texts, P x := by
  intro v member x inside
  obtain ⟨column, _, found⟩ := List.mem_filterMap.mp member
  refine given x (List.mem_flatMap.mpr ⟨(column, v), lookup_mem found, ?_⟩)
  exact List.mem_cons_of_mem column inside

theorem Record.spelled_columns {P : String → Prop} {r : Record} (given : ∀ x ∈ r.texts, P x) :
    ∀ x ∈ r.columns, P x := by
  intro x member
  obtain ⟨e, inside, rfl⟩ := List.mem_map.mp member
  exact given e.1 (List.mem_flatMap.mpr ⟨e, inside, List.mem_cons_self⟩)

/-- Among entries with distinct columns a look-up finds every entry. -/
theorem lookup_of_mem {column : String} {v : Value} {entries : List (String × Value)}
    (distinct : (entries.map Prod.fst).Nodup) (member : (column, v) ∈ entries) :
    entries.lookup column = some v := by
  induction entries with
  | nil => cases member
  | cons first rest ih =>
    rw [List.map_cons, List.nodup_cons] at distinct
    rcases List.mem_cons.mp member with rfl | later
    · rw [List.lookup_cons, beq_self_eq_true]
    · have apart : (column == first.1) = false := by
        rw [beq_eq_false_iff_ne]
        intro same
        exact distinct.1 (same ▸ List.mem_map_of_mem later)
      rw [List.lookup_cons, apart]
      exact ih distinct.2 later

/-- A record gives the values of its own columns, in their order. -/
theorem orderedValues_of_entries (row : Nat) {r : Record} {part : List (String × Value)}
    (inside : ∀ e ∈ part, e ∈ r.entries) :
    orderedValues row r (part.map Prod.fst) = .ok (part.map Prod.snd) := by
  induction part with
  | nil => rfl
  | cons e rest ih =>
    have found : r.get? e.1 = some e.2 := lookup_of_mem r.distinct (inside e List.mem_cons_self)
    have others := ih fun other member => inside other (List.mem_cons_of_mem e member)
    rw [List.map_cons, orderedValues, found]
    exact congrArg (Except.map (e.2 :: ·)) others

theorem orderedValues_columns (row : Nat) (r : Record) : orderedValues row r r.columns = .ok r.values :=
  orderedValues_of_entries row fun _ member => member

/-- A record's values in the order of its own columns are its values. -/
theorem Record.inOrder_columns (r : Record) : r.inOrder r.columns = r.values :=
  (orderedValues_eq_ok (orderedValues_columns 0 r)).symm

/-- One record can be inserted just if it has a column. -/
theorem ofRecords_singleton (r : Record) :
    InsertSource.ofRecords [r] =
      if r.isEmpty then .error .insertWithoutColumn else .ok (.rows r.columns [r.values]) := by
  have width : r.size = r.columns.length := (List.length_map Prod.fst).symm
  have ordered : orderedRows r.columns 0 [r] = .ok [r.values] := by
    rw [orderedRows, if_neg (not_not_intro width), orderedValues_columns]
    rfl
  rw [InsertSource.ofRecords, ordered]
  rfl

end SqlDraft
