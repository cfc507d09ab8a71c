import SqlDraft.Clause.Comparison
import SqlDraft.Proofs.Text.Words

/-!
# Reading comparison operators

A text names an operator if its words, with ASCII letters as capitals, are the words of the operator. It names at most
one, and a text that names none is refused (`read_eq_ok_iff`, `read_eq_error_iff`). So blanks count only where they make
words, and the case of a letter counts only where the letter is not an ASCII one.
-/

namespace SqlDraft
namespace Comparison

variable {s : String} {op : Comparison}

/-- A text names an operator: its words, in capitals, are those of the operator. -/
def NamedBy (op : Comparison) (s : String) : Prop :=
  ∃ words, Text.Spaced words s.toList ∧ Text.Spaced (words.map Text.upperAscii) op.sql.toList

theorem namedBy_iff : op.NamedBy s ↔ (Text.words s.toList).map Text.upperAscii = Text.words op.sql.toList := by
  constructor
  · rintro ⟨words, spaced, capitals⟩
    rw [Text.words_of_spaced spaced, Text.words_of_spaced capitals]
  · intro same
    exact ⟨_, Text.spaced_words _, same ▸ Text.spaced_words _⟩

instance (op : Comparison) (s : String) : Decidable (op.NamedBy s) := decidable_of_iff _ namedBy_iff.symm

/-- The words of an operator have one space between each two. -/
theorem sql_eq_intersperse (op : Comparison) :
    op.sql.toList = ((Text.words op.sql.toList).intersperse [' ']).flatten := by
  cases op <;> decide

theorem sql_eq_normalized_iff : op.sql.toList = normalized s ↔ op.NamedBy s := by
  have capitals : ∀ word ∈ (Text.words s.toList).map Text.upperAscii, Text.IsWord word := by
    intro capital member
    obtain ⟨word, inside, rfl⟩ := List.mem_map.mp member
    exact Text.isWord_upperAscii ((Text.spaced_words s.toList).isWord word inside)
  rw [normalized, Text.upperAscii_intersperse, namedBy_iff]
  constructor
  · intro same
    rw [same, Text.words_intersperse capitals]
  · intro same
    rw [same, ← sql_eq_intersperse]

theorem sql_injective {op op' : Comparison} (same : op.sql = op'.sql) : op = op' := by
  have checked : ∀ op ∈ all, ∀ op' ∈ all, op.sql = op'.sql → op = op' := by decide
  exact checked op (mem_all op) op' (mem_all op') same

theorem sql_of_read? (found : read? s = some op) : op.sql.toList = normalized s := by
  rw [read?] at found
  simpa using List.find?_some found

theorem read?_eq_some_iff : read? s = some op ↔ op.NamedBy s := by
  rw [← sql_eq_normalized_iff]
  constructor
  · exact sql_of_read?
  · intro same
    have known : (read? s).isSome := List.find?_isSome.mpr ⟨op, mem_all op, beq_iff_eq.mpr same⟩
    obtain ⟨other, found⟩ := Option.isSome_iff_exists.mp known
    have equal : other.sql.toList = op.sql.toList := (sql_of_read? found).trans same.symm
    rw [found, sql_injective (String.toList_inj.mp equal)]

theorem read?_eq_none_iff : read? s = none ↔ ∀ op : Comparison, ¬ op.NamedBy s := by
  rw [Option.eq_none_iff_forall_ne_some]
  exact forall_congr' fun op => not_congr read?_eq_some_iff

theorem read_eq_ok_iff : read s = .ok op ↔ op.NamedBy s := by
  rw [← read?_eq_some_iff, read]
  cases read? s <;> simp

theorem read_eq_error_iff {e : UsageError} :
    read s = .error e ↔ e = .unknownComparison s ∧ ∀ op : Comparison, ¬ op.NamedBy s := by
  rw [← read?_eq_none_iff, read]
  cases read? s <;> simp [eq_comm]

/-- Other blanks where there are blanks, and letters in another case, name the same operator. -/
theorem namedBy_of_respelled {words respelled : List (List Char)} (spaced : Text.Spaced words op.sql.toList)
    (letters : respelled.map Text.upperAscii = words.map Text.upperAscii) (respaced : Text.Spaced respelled s.toList) :
    op.NamedBy s := by
  have capitals : ∀ op : Comparison, (Text.words op.sql.toList).map Text.upperAscii = Text.words op.sql.toList := by
    intro op
    cases op <;> decide
  have own := Text.words_of_spaced spaced
  rw [namedBy_iff, Text.words_of_spaced respaced, letters, ← own, capitals]

-- Letters that only Unicode has capitals `I` and `K` for are no ASCII letters, and glued or split words are other words.
example : ["lıke", "li\u212ae", "NOTLIKE", "< =", "= ; DROP"].map read? = [none, none, none, none, none] := by decide

end Comparison
end SqlDraft
