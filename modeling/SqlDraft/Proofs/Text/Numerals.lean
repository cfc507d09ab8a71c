import SqlDraft.Decimal.Power
import SqlDraft.Text.Digits

/-!
# Numerals and their digits

What is known of the digits that a number is written with: which they are (`exists_of_mem_decimal`), what they stand for
(`digitsValue_decimal`), and how many there are with zeros in front, if the number fits in the width (`length_padded`).
-/

namespace SqlDraft.Text

/-! ## Decimal digits -/

/-- Only digits are written of a number. -/
theorem exists_of_mem_decimal {n : Nat} {c : Char} (member : c ∈ decimal n) : ∃ d < 10, c = digitChar d := by
  induction n using Nat.strongRecOn with
  | ind n ih =>
    rw [decimal] at member
    split at member
    · next small => exact ⟨n, small, List.mem_singleton.mp member⟩
    · next large =>
      rcases List.mem_append.mp member with front | last
      · exact ih (n / 10) (by omega) front
      · exact ⟨n % 10, Nat.mod_lt n (by omega), List.mem_singleton.mp last⟩

theorem isDigit_of_mem_decimal {n : Nat} {c : Char} (member : c ∈ decimal n) : c.isDigit = true := by
  have all : ∀ d < 10, (digitChar d).isDigit = true := by decide
  obtain ⟨d, small, rfl⟩ := exists_of_mem_decimal member
  exact all d small

theorem digitsValue_decimal (n : Nat) : digitsValue (decimal n) = n := by
  have single : ∀ d < 10, digitValue (digitChar d) = d := by decide
  induction n using Nat.strongRecOn with
  | ind n ih =>
    rw [decimal]
    split
    · next small => simpa [digitsValue] using single n small
    · next large =>
      rw [digitsValue_append, ih (n / 10) (by omega), single (n % 10) (by omega)]
      omega

theorem decimal_ne_nil (n : Nat) : decimal n ≠ [] := by
  rw [decimal]
  split <;> simp

/-- A number below a power of ten has no more digits than the power has zeros. -/
theorem length_decimal_le {n width : Nat} (fits : n < tenTo (width + 1)) : (decimal n).length ≤ width + 1 := by
  induction width generalizing n with
  | zero =>
    have small : n < 10 := fits
    rw [decimal, if_pos small]
    exact Nat.le_refl 1
  | succ width ih =>
    rw [decimal]
    split
    · simp
    · have fewer : n / 10 < tenTo (width + 1) := by
        rw [tenTo_succ] at fits
        omega
      have shorter := ih fewer
      simp only [List.length_append, List.length_singleton]
      omega

/-! ## Zeros in front -/

theorem digitsValue_zeros (count : Nat) (s : List Char) : digitsValue (List.replicate count '0' ++ s) = digitsValue s := by
  induction count with
  | zero => rfl
  | succ count ih =>
    rw [← ih]
    rfl

theorem isDigit_of_mem_padded {width n : Nat} {c : Char} (member : c ∈ padded width n) : c.isDigit = true := by
  obtain zero | digit := List.mem_append.mp member
  · rw [List.eq_of_mem_replicate zero]
    decide
  · exact isDigit_of_mem_decimal digit

theorem padded_ne_nil (width n : Nat) : padded width n ≠ [] := by
  simp [padded, decimal_ne_nil]

theorem length_padded {width n : Nat} (fits : n < tenTo (width + 1)) : (padded (width + 1) n).length = width + 1 := by
  have short := length_decimal_le fits
  simp only [padded, List.length_append, List.length_replicate]
  omega

theorem digitsValue_padded (width n : Nat) : digitsValue (padded width n) = n := by
  rw [padded, digitsValue_zeros, digitsValue_decimal]

/-! ## Digits and blanks -/

theorem isBlank_of_isDigit {c : Char} (digit : c.isDigit = true) : isBlank c = false := by
  have between : 48 ≤ c.val ∧ c.val ≤ 57 := by simpa [Char.isDigit] using digit
  obtain ⟨low, high⟩ : 48 ≤ c.toNat ∧ c.toNat ≤ 57 := between
  simp only [isBlank, Bool.or_eq_false_iff, Bool.and_eq_false_iff, decide_eq_false_iff_not, beq_eq_false_iff_ne]
  omega

/-- A text that starts with a character that is not blank has nothing to trim in front. -/
theorem trimStart_of_head {c : Char} {rest : List Char} (notBlank : isBlank c = false) :
    trimStart (c :: rest) = c :: rest := by
  rw [trimStart, List.dropWhile_cons_of_neg (by simp [notBlank])]

end SqlDraft.Text
