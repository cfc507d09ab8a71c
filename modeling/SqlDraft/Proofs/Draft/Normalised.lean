import Mathlib.Data.List.Forall2
import Mathlib.Data.List.Perm.Subperm
import SqlDraft.Proofs.Draft.Rows

/-!
# Records to rows

An insert from records takes its columns from the first one and brings the values of the others into their order.
Only the number of columns and the presence of those of the first record are looked at. As the columns of a record are
distinct, this is enough for the records to have the same columns, and no value is lost or put in the wrong
place (`records_normalised`).
-/

namespace SqlDraft

namespace Record

/-- Two records have the same columns, each in its own order. -/
def SameColumns (r other : Record) : Prop := ∀ column, column ∈ r.columns ↔ column ∈ other.columns

/-- What is looked at: a record has as many columns, and among them these. -/
structure Fits (columns : List String) (r : Record) : Prop where
  size : r.size = columns.length
  has : ∀ column ∈ columns, column ∈ r.columns

/-- Why a record is no row for some columns: it has another number of them, or lacks one, of which the first is
named. -/
inductive Misfit (columns : List String) (row : Nat) (r : Record) : UsageError → Prop
  | width (differs : r.size ≠ columns.length) : Misfit columns row r (.rowWidth row r.size columns.length)
  | lacks {before after : List String} {column : String} (size : r.size = columns.length)
      (split : columns = before ++ column :: after) (has : ∀ other ∈ before, other ∈ r.columns)
      (missing : column ∉ r.columns) : Misfit columns row r (.rowLacks row column)

/-- The values of a row are those of a record for some columns, one for each, and the record has no others. -/
structure TurnsTo (columns : List String) (r : Record) (values : List Value) : Prop where
  width : values.length = columns.length
  value : ∀ (j : Nat) column, columns[j]? = some column → ∃ v, values[j]? = some v ∧ r.get? column = some v
  pairs : (columns.zip values).Perm r.entries

variable {columns : List String} {r : Record}

theorem mem_columns_iff {column : String} : column ∈ r.columns ↔ ∃ v, r.get? column = some v := by
  constructor
  · intro member
    obtain ⟨⟨_, v⟩, inside, rfl⟩ := List.mem_map.mp member
    exact ⟨v, lookup_of_mem r.distinct inside⟩
  · rintro ⟨v, found⟩
    exact List.mem_map.mpr ⟨(column, v), lookup_mem found, rfl⟩

theorem length_columns (r : Record) : r.columns.length = r.size := List.length_map Prod.fst

/-! ## Columns -/

/-- Distinct columns that a record has are all of its columns if it has no more than these. -/
theorem Fits.perm (fits : r.Fits columns) (distinct : columns.Nodup) : columns.Perm r.columns := by
  have inside : columns.Subperm r.columns := List.subperm_of_subset distinct fits.has
  exact inside.perm_of_length_le (Nat.le_of_eq (r.length_columns.trans fits.size))

theorem fits_iff_sameColumns {first : Record} : r.Fits first.columns ↔ r.SameColumns first := by
  constructor
  · intro fits column
    exact (fits.perm first.distinct).mem_iff.symm
  · intro same
    have perm : r.columns.Perm first.columns := (List.perm_ext_iff_of_nodup r.distinct first.distinct).mpr same
    refine ⟨?_, fun column => (same column).mpr⟩
    rw [← length_columns, perm.length_eq]

theorem Misfit.not_fits {row : Nat} {e : UsageError} (misfit : r.Misfit columns row e) : ¬ r.Fits columns := by
  intro fits
  cases misfit with
  | width differs => exact differs fits.size
  | lacks size split has missing => exact missing (fits.has _ (by simp [split]))

/-! ## Values -/

/-- A record that has the columns leaves none of them out. -/
theorem inOrder_eq_map (has : ∀ column ∈ columns, column ∈ r.columns) :
    r.inOrder columns = columns.map fun column => (r.get? column).getD .null := by
  rw [inOrder, List.filterMap_eq_map_iff_forall_eq_some]
  intro column member
  obtain ⟨v, found⟩ := mem_columns_iff.mp (has column member)
  rw [found, Option.getD_some]

theorem zip_inOrder (has : ∀ column ∈ columns, column ∈ r.columns) :
    columns.zip (r.inOrder columns) = columns.map fun column => (column, (r.get? column).getD .null) := by
  rw [inOrder_eq_map has, List.map_prod_left_eq_zip]

/-- A record is its columns, each with the value that is found under it. -/
theorem entries_eq (r : Record) : r.entries = r.columns.map fun column => (column, (r.get? column).getD .null) := by
  rw [← zip_inOrder fun _ member => member, inOrder_columns]
  exact List.zip_of_prod rfl rfl

theorem turnsTo_inOrder (fits : r.Fits columns) (distinct : columns.Nodup) :
    r.TurnsTo columns (r.inOrder columns) := by
  refine ⟨?_, ?_, ?_⟩
  · rw [inOrder_eq_map fits.has, List.length_map]
  · intro j column at_j
    obtain ⟨v, found⟩ := mem_columns_iff.mp (fits.has column (List.mem_of_getElem? at_j))
    refine ⟨v, ?_, found⟩
    rw [inOrder_eq_map fits.has, List.getElem?_map, at_j, Option.map_some, found, Option.getD_some]
  · rw [zip_inOrder fits.has, entries_eq r]
    exact (fits.perm distinct).map _

end Record

/-! ## Rows -/

theorem orderedValues_eq_error {row : Nat} {r : Record} {columns : List String} {e : UsageError}
    (fails : orderedValues row r columns = .error e) :
    ∃ before column after, columns = before ++ column :: after ∧ (∀ other ∈ before, other ∈ r.columns) ∧
      column ∉ r.columns ∧ e = .rowLacks row column := by
  induction columns with
  | nil => cases fails
  | cons column rest ih =>
    rw [orderedValues] at fails
    cases found : r.get? column with
    | none =>
      rw [found] at fails
      cases fails
      refine ⟨[], column, rest, rfl, List.forall_mem_nil _, ?_, rfl⟩
      rw [Record.mem_columns_iff, found]
      rintro ⟨v, impossible⟩
      cases impossible
    | some v =>
      cases others : orderedValues row r rest with
      | ok values =>
        rw [found, others] at fails
        cases fails
      | error e' =>
        rw [found, others] at fails
        cases fails
        obtain ⟨before, lacking, after, rfl, has, missing, rfl⟩ := ih others
        refine ⟨column :: before, lacking, after, rfl, ?_, missing, rfl⟩
        exact List.forall_mem_cons.mpr ⟨Record.mem_columns_iff.mpr ⟨v, found⟩, has⟩

theorem has_of_orderedValues {row : Nat} {r : Record} {columns : List String} {values : List Value}
    (ok : orderedValues row r columns = .ok values) : ∀ column ∈ columns, column ∈ r.columns := by
  induction columns generalizing values with
  | nil => exact List.forall_mem_nil _
  | cons column rest ih =>
    rw [orderedValues] at ok
    cases found : r.get? column with
    | none => simp [found] at ok
    | some v =>
      simp only [found] at ok
      obtain ⟨others, more, _⟩ := map_eq_ok.mp ok
      exact List.forall_mem_cons.mpr ⟨Record.mem_columns_iff.mpr ⟨v, found⟩, ih more⟩

/-- Rows are made of records that fit, and of none if one of them does not; the first of those is complained about. -/
theorem orderedRows_cases (columns : List String) (row : Nat) (records : List Record) :
    (∃ groups, orderedRows columns row records = .ok groups ∧ ∀ r ∈ records, r.Fits columns) ∨
      ∃ before r after e, orderedRows columns row records = .error e ∧ records = before ++ r :: after ∧
        (∀ x ∈ before, x.Fits columns) ∧ r.Misfit columns (row + before.length) e := by
  induction records generalizing row with
  | nil => exact .inl ⟨[], rfl, List.forall_mem_nil _⟩
  | cons r rest ih =>
    rw [orderedRows]
    by_cases size : r.size = columns.length
    · rw [if_neg (not_not_intro size)]
      cases ordered : orderedValues row r columns with
      | error e =>
        obtain ⟨before, column, after, split, has, missing, rfl⟩ := orderedValues_eq_error ordered
        exact .inr ⟨[], r, rest, _, rfl, rfl, List.forall_mem_nil _, .lacks size split has missing⟩
      | ok values =>
        have fits : r.Fits columns := ⟨size, has_of_orderedValues ordered⟩
        rcases ih (row + 1) with ⟨groups, done, others⟩ | ⟨before, r', after, e, fails, rfl, others, misfit⟩
        · rw [done]
          exact .inl ⟨_, rfl, List.forall_mem_cons.mpr ⟨fits, others⟩⟩
        · rw [fails]
          have place : row + 1 + before.length = row + (r :: before).length := by
            rw [List.length_cons]
            omega
          exact .inr ⟨r :: before, r', after, e, rfl, rfl, List.forall_mem_cons.mpr ⟨fits, others⟩, place ▸ misfit⟩
    · rw [if_pos size]
      exact .inr ⟨[], r, rest, _, rfl, rfl, List.forall_mem_nil _, .width size⟩

/-- How records become rows. There must be one, and the first must have a column; then either all have the columns of
the first, and each becomes a row in the order of these columns, or the first that does not is complained about. -/
inductive Normalises : List Record → Except UsageError InsertSource → Prop
  | noRow : Normalises [] (.error .insertWithoutRow)
  | noColumn {first : Record} {rest : List Record} (blank : first.isEmpty = true) :
      Normalises (first :: rest) (.error .insertWithoutColumn)
  | misfit {first r : Record} {rest before after : List Record} {e : UsageError} (written : first.isEmpty = false)
      (split : first :: rest = before ++ r :: after) (same : ∀ x ∈ before, x.SameColumns first)
      (differs : ¬ r.SameColumns first) (misfit : r.Misfit first.columns before.length e) :
      Normalises (first :: rest) (.error e)
  | rows {first : Record} {rest : List Record} {rows : List (List Value)} (written : first.isEmpty = false)
      (same : ∀ r ∈ first :: rest, r.SameColumns first)
      (turned : List.Forall₂ (Record.TurnsTo first.columns) (first :: rest) rows) :
      Normalises (first :: rest) (.ok (.rows first.columns rows))

theorem normalises_ofRecords (records : List Record) : Normalises records (InsertSource.ofRecords records) := by
  cases records with
  | nil => exact .noRow
  | cons first rest =>
    rw [InsertSource.ofRecords]
    by_cases blank : first.isEmpty = true
    · rw [if_pos blank]
      exact .noColumn blank
    · have written := Bool.eq_false_iff.mpr blank
      rw [if_neg blank]
      rcases orderedRows_cases first.columns 0 (first :: rest) with
        ⟨groups, done, fit⟩ | ⟨before, r, after, e, fails, split, fit, misfit⟩
      · rw [done, orderedRows_eq_ok done]
        refine .rows written (fun r member => Record.fits_iff_sameColumns.mp (fit r member)) ?_
        rw [List.forall₂_map_right_iff, List.forall₂_same]
        exact fun r member => Record.turnsTo_inOrder (fit r member) first.distinct
      · rw [fails]
        rw [Nat.zero_add] at misfit
        exact .misfit written split (fun x member => Record.fits_iff_sameColumns.mp (fit x member))
          (fun same => misfit.not_fits (Record.fits_iff_sameColumns.mpr same)) misfit

theorem Normalises.ok_iff {records : List Record} {result : Except UsageError InsertSource}
    (normalises : Normalises records result) :
    (∃ source, result = .ok source) ↔ ∃ first rest, records = first :: rest ∧ first.isEmpty = false ∧
      ∀ r ∈ records, r.SameColumns first := by
  cases normalises with
  | noRow => simp
  | noColumn blank => simp [blank]
  | @misfit first r rest before after e written split same differs misfit =>
    constructor
    · rintro ⟨source, impossible⟩
      cases impossible
    · rintro ⟨_, _, listed, _, all⟩
      cases listed
      exact absurd (all r (by simp [split])) differs
  | @rows first rest rows written same turned =>
    constructor
    · rintro -
      exact ⟨first, rest, rfl, written, same⟩
    · rintro -
      exact ⟨_, rfl⟩

/-- Whatever records are given: they become rows just if there is one, the first has a column, and all have the columns
of the first. Then the columns are those of the first, each record is a row of its own, with its value for
every column in the place of that column, and the pairs of a row are those of its record. Otherwise there is a
complaint, about the first record that has another number of columns or lacks one. -/
theorem records_normalised (records : List Record) :
    Normalises records (InsertSource.ofRecords records) ∧
      ((∃ source, InsertSource.ofRecords records = .ok source) ↔ ∃ first rest, records = first :: rest ∧
        first.isEmpty = false ∧ ∀ r ∈ records, r.SameColumns first) :=
  ⟨normalises_ofRecords records, (normalises_ofRecords records).ok_iff⟩

/-- A record in another order is brought into the order of the first. -/
example : InsertSource.ofRecords [.ofList [("a", .int 1), ("b", .int 2)], .ofList [("b", .int 4), ("a", .int 3)]] =
    .ok (.rows ["a", "b"] [[.int 1, .int 2], [.int 3, .int 4]]) := by rfl

end SqlDraft
