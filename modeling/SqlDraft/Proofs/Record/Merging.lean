import Mathlib.Data.List.Induction
import Mathlib.Data.List.Nodup
import SqlDraft.Proofs.Draft.Normalised
import SqlDraft.Proofs.Row.Columns

/-!
# Merged records

A record remembers of all that was written to it each column once, in the order of the first writes, with the value of
the last one (`writtenBy_of_made`). Merging adds the columns that are new, in their order, and takes the values of the
other record where it has one (`columns_merge`, `get?_merge`). As columns and values are all there is to a record
(`ext_of`), this makes records a monoid in which every record is idempotent.
-/

namespace SqlDraft
namespace Record

/-- A record was made by some writes, one after the other: on their own, or with those of a record that it was merged
with behind them. Taking a record apart and collecting its entries writes nothing new. -/
inductive Made : Record → List (String × Value) → Prop
  | empty : Made .empty []
  | put {r : Record} {writes : List (String × Value)} (made : Made r writes) (column : String) (v : Value) :
      Made (r.put column v) (writes ++ [(column, v)])
  | set {α : Type} [ToValue α] {r : Record} {writes : List (String × Value)} (made : Made r writes) (column : String)
      (a : α) : Made (r.set column a) (writes ++ [(column, toValue a)])
  | collect (entries : List (String × Value)) : Made (.ofList entries) entries
  | recollect {r : Record} {writes : List (String × Value)} (made : Made r writes) : Made (.ofList r.entries) writes
  | merge {r other : Record} {writes behind : List (String × Value)} (made : Made r writes) (later : Made other behind) :
      Made (r.merge other) (writes ++ behind)

/-- A record is what some writes leave: the columns that were written, each once, in the order of the first writes, and
the value of the last write of each. -/
structure WrittenBy (r : Record) (writes : List (String × Value)) : Prop where
  distinct : r.columns.Nodup
  written : ∀ column, column ∈ r.columns ↔ column ∈ writes.map Prod.fst
  ordered : r.columns.Pairwise fun column other =>
    (writes.map Prod.fst).idxOf column < (writes.map Prod.fst).idxOf other
  last : ∀ column v, r.get? column = some v ↔
    ∃ before behind, writes = before ++ (column, v) :: behind ∧ column ∉ behind.map Prod.fst

/-! ## Columns and values -/

theorem ext_of {r other : Record} (columns : r.columns = other.columns)
    (values : ∀ column, r.get? column = other.get? column) : r = other := by
  have entries : r.entries = other.entries := by
    rw [entries_eq r, entries_eq other, columns]
    simp only [values]
  cases r
  cases other
  cases entries
  rfl

theorem lookup_putEntry (column : String) (v : Value) (entries : List (String × Value)) (name : String) :
    (putEntry column v entries).lookup name = if name = column then some v else entries.lookup name := by
  induction entries with
  | nil => exact lookup_entry column name v []
  | cons e rest ih =>
    obtain ⟨other, old⟩ := e
    rw [putEntry]
    split
    · next same =>
      rw [lookup_entry, lookup_entry, same]
      by_cases here : name = column <;> simp [here]
    · next apart =>
      rw [lookup_entry, lookup_entry, ih]
      by_cases here : name = other <;> simp [here, apart]

theorem get?_put (r : Record) (column : String) (v : Value) (name : String) :
    (r.put column v).get? name = if name = column then some v else r.get? name :=
  lookup_putEntry column v r.entries name

theorem columns_put (r : Record) (column : String) (v : Value) :
    (r.put column v).columns = if column ∈ r.columns then r.columns else r.columns ++ [column] :=
  map_fst_putEntry column v r.entries

theorem putAll_cons (r : Record) (e : String × Value) (rest : List (String × Value)) :
    r.putAll (e :: rest) = (r.put e.1 e.2).putAll rest := rfl

theorem get?_putAll (r : Record) (entries : List (String × Value)) (name : String) :
    (r.putAll entries).get? name = (entries.reverse.lookup name).or (r.get? name) := by
  induction entries generalizing r with
  | nil => rfl
  | cons e rest ih =>
    rw [putAll_cons, ih, get?_put, List.reverse_cons, List.lookup_append, lookup_entry]
    by_cases here : name = e.1 <;> simp [here]

/-- Entries with distinct columns add those that are new, in their order. -/
theorem columns_putAll (r : Record) {entries : List (String × Value)} (distinct : (entries.map Prod.fst).Nodup) :
    (r.putAll entries).columns = r.columns ++ (entries.map Prod.fst).filter (· ∉ r.columns) := by
  induction entries generalizing r with
  | nil => simp [putAll]
  | cons e rest ih =>
    obtain ⟨new, others⟩ := List.nodup_cons.mp distinct
    rw [putAll_cons, ih (r.put e.1 e.2) others, columns_put, List.map_cons]
    by_cases known : e.1 ∈ r.columns
    · rw [if_pos known, List.filter_cons_of_neg (by simpa using known)]
    · rw [if_neg known, List.filter_cons_of_pos (by simpa using known), List.append_assoc, List.singleton_append]
      -- The column that was just added is none of those behind it.
      have same : (rest.map Prod.fst).filter (· ∉ r.columns ++ [e.1]) = (rest.map Prod.fst).filter (· ∉ r.columns) := by
        refine List.filter_congr fun column member => ?_
        have apart : column ≠ e.1 := fun equal => new (equal ▸ member)
        simp [apart]
      rw [same]

/-! ## Merging -/

theorem lookup_reverse (r : Record) (name : String) : r.entries.reverse.lookup name = r.get? name := by
  have distinct : (r.entries.reverse.map Prod.fst).Nodup := by
    rw [List.map_reverse]
    exact List.nodup_reverse.mpr r.distinct
  refine Option.ext fun v => ⟨fun found => ?_, fun found => ?_⟩
  · exact lookup_of_mem r.distinct (List.mem_reverse.mp (lookup_mem found))
  · exact lookup_of_mem distinct (List.mem_reverse.mpr (lookup_mem found))

theorem columns_merge (r other : Record) :
    (r.merge other).columns = r.columns ++ other.columns.filter (· ∉ r.columns) := columns_putAll r other.distinct

theorem get?_merge (r other : Record) (name : String) :
    (r.merge other).get? name = (other.get? name).or (r.get? name) := by
  rw [merge, get?_putAll, lookup_reverse]

theorem merge_assoc (a b c : Record) : (a.merge b).merge c = a.merge (b.merge c) := by
  refine ext_of ?_ fun name => ?_
  · simp only [columns_merge, List.filter_append, List.filter_filter, List.append_assoc]
    -- A column of `c` is new to both, or else it is in `a`, or new to `a` and in `b`.
    have same (column : String) : decide (column ∉ a.columns ++ b.columns.filter (· ∉ a.columns)) =
        (decide (column ∉ a.columns) && decide (column ∉ b.columns)) := by
      by_cases first : column ∈ a.columns <;> simp [first]
    simp only [same]
  · rw [get?_merge, get?_merge, get?_merge, get?_merge, Option.or_assoc]

theorem merge_empty (a : Record) : a.merge empty = a := rfl

theorem empty_merge (a : Record) : empty.merge a = a := by
  refine ext_of ?_ fun name => ?_
  · rw [columns_merge]
    simp [columns, empty]
  · rw [get?_merge]
    exact Option.or_none

theorem ofList_entries (a : Record) : ofList a.entries = a := empty_merge a

theorem merge_self (a : Record) : a.merge a = a := by
  refine ext_of ?_ fun name => ?_
  · rw [columns_merge, List.filter_eq_nil_iff.mpr (by simp), List.append_nil]
  · rw [get?_merge, Option.or_self]

/-! ## Writes -/

variable {r other : Record} {writes behind : List (String × Value)}

theorem WrittenBy.get?_eq (made : r.WrittenBy writes) (name : String) : r.get? name = writes.reverse.lookup name :=
  Option.ext fun v => (made.last name v).trans lookup_reverse_eq_some_iff.symm

theorem writtenBy_empty : empty.WrittenBy [] :=
  ⟨List.nodup_nil, by simp [columns, empty], List.Pairwise.nil, by simp [get?, empty]⟩

theorem writtenBy_single (column : String) (v : Value) : (ofList [(column, v)]).WrittenBy [(column, v)] := by
  refine ⟨List.nodup_singleton column, fun _ => Iff.rfl, List.pairwise_singleton _ column, fun name w => ?_⟩
  rw [← lookup_reverse_eq_some_iff]
  exact Iff.rfl

/-- The writes of a record that is merged come behind those that were there. -/
theorem WrittenBy.merge (made : r.WrittenBy writes) (later : other.WrittenBy behind) :
    (r.merge other).WrittenBy (writes ++ behind) := by
  refine ⟨(r.merge other).distinct, fun column => ?_, ?_, fun column v => ?_⟩
  · rw [columns_merge, List.map_append, List.mem_append, List.mem_append, List.mem_filter, decide_eq_true_eq,
      later.written, made.written, or_and_left, and_iff_left (Classical.em _)]
  · rw [columns_merge, List.map_append, List.pairwise_append]
    have early {column : String} (member : column ∈ r.columns) :
        (writes.map Prod.fst ++ behind.map Prod.fst).idxOf column = (writes.map Prod.fst).idxOf column :=
      List.idxOf_append_of_mem ((made.written column).mp member)
    have late {column : String} (member : column ∈ other.columns.filter (· ∉ r.columns)) :
        (writes.map Prod.fst ++ behind.map Prod.fst).idxOf column =
          (writes.map Prod.fst).length + (behind.map Prod.fst).idxOf column := by
      refine List.idxOf_append_of_notMem fun written => ?_
      obtain ⟨_, new⟩ := List.mem_filter.mp member
      exact of_decide_eq_true new ((made.written column).mpr written)
    refine ⟨made.ordered.imp_of_mem fun first second before => ?_,
      (later.ordered.filter _).imp_of_mem fun first second before => ?_, fun column first name second => ?_⟩
    · rwa [early first, early second]
    · rw [late first, late second]
      exact Nat.add_lt_add_left before _
    · have inside := List.idxOf_lt_length_iff.mpr ((made.written column).mp first)
      rw [early first, late second]
      exact Nat.lt_add_right _ inside
  · rw [get?_merge, later.get?_eq, made.get?_eq, ← List.lookup_append, ← List.reverse_append, lookup_reverse_eq_some_iff]

theorem WrittenBy.put (made : r.WrittenBy writes) (column : String) (v : Value) :
    (r.put column v).WrittenBy (writes ++ [(column, v)]) := made.merge (writtenBy_single column v)

theorem writtenBy_ofList (entries : List (String × Value)) : (ofList entries).WrittenBy entries := by
  induction entries using List.reverseRecOn with
  | nil => exact writtenBy_empty
  | append_singleton entries e ih =>
    have last : ofList (entries ++ [e]) = (ofList entries).put e.1 e.2 := List.foldl_concat ..
    rw [last]
    exact ih.put e.1 e.2

/-- However a record was made, it is what its writes leave. -/
theorem writtenBy_of_made (made : Made r writes) : r.WrittenBy writes := by
  induction made with
  | empty => exact writtenBy_empty
  | put _ column v ih => exact ih.put column v
  | set _ column a ih => exact ih.put column (toValue a)
  | collect entries => exact writtenBy_ofList entries
  | recollect _ ih =>
    rw [ofList_entries]
    exact ih
  | merge _ _ ih ih' => exact ih.merge ih'

/-- However a record was made, its columns are distinct and in the order of their first writes, and the value of each is
the one written last. A merged record has the columns of the first one and then those of the second that are new, in
their order, with the values of the second where it has the column. Merging is associative, the empty record
changes nothing on either side, and neither does the record itself. Collecting the entries of a record gives it back. -/
theorem made_and_merged :
    (∀ (r : Record) (writes : List (String × Value)), Made r writes → r.WrittenBy writes) ∧
      (∀ a b : Record, (a.merge b).columns = a.columns ++ b.columns.filter (· ∉ a.columns) ∧
        ∀ column, (a.merge b).get? column = (b.get? column).or (a.get? column)) ∧
      (∀ a b c : Record, (a.merge b).merge c = a.merge (b.merge c)) ∧
      ∀ a : Record, empty.merge a = a ∧ a.merge empty = a ∧ a.merge a = a ∧ ofList a.entries = a :=
  ⟨fun _ _ made => writtenBy_of_made made, fun a b => ⟨columns_merge a b, get?_merge a b⟩, merge_assoc,
    fun a => ⟨empty_merge a, merge_empty a, merge_self a, ofList_entries a⟩⟩

/-- A record that is written over, merged with one that has its columns in another order, and collected again. -/
theorem made_and_merged_again :
    let search : Record := (ofList [("a", .int 1), ("b", .int 2)]).put "a" (.int 3)
    let r : Record := ofList (search.merge (ofList [("c", .int 4), ("b", .int 5)])).entries
    let writes : List (String × Value) := [("a", .int 1), ("b", .int 2), ("a", .int 3), ("c", .int 4), ("b", .int 5)]
    Made r writes ∧ r.WrittenBy writes ∧ r.entries = [("a", .int 3), ("b", .int 5), ("c", .int 4)] := by
  intro search r writes
  have made : Made r writes := .recollect (.merge (.put (.collect _) "a" (.int 3)) (.collect _))
  exact ⟨made, made_and_merged.1 r writes made, by decide⟩

end Record
end SqlDraft
