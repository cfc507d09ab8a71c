import Mathlib.Data.List.Induction
import Mathlib.Data.Nat.Digits.Defs
import SqlDraft.Proofs.Text.Numerals
import SqlDraft.Value.Extract

/-!
# Integers in values

Which integer a value stands for is said apart from how it is read: a whole number is itself, a truth value is 0 or 1, and
a text spells an integer if blanks alone stand around an optional sign and digits, each of them with the weight of its
place (`Text.Spells`, `Value.StandsFor`). Exactly these integers are read, as far as the type that is asked for holds
them, and what is written of an integer is read back between any blanks (`integers_extracted`).
-/

namespace SqlDraft
namespace Text

variable {s digits before core behind : List Char} {z : Int}

/-! ## Numerals -/

/-- One or more digits. -/
def IsNumeral (digits : List Char) : Prop := digits ≠ [] ∧ ∀ c ∈ digits, c.isDigit = true

/-- The number with some digits, the last of which counts ones, the one before it tens, and so on. -/
def placeValue (digits : List Char) : Nat := Nat.ofDigits 10 (digits.reverse.map digitValue)

/-- An optional sign and one or more digits spell an integer. -/
inductive Spells : List Char → Int → Prop
  | unsigned {digits : List Char} : IsNumeral digits → Spells digits (placeValue digits)
  | plus {digits : List Char} : IsNumeral digits → Spells ('+' :: digits) (placeValue digits)
  | minus {digits : List Char} : IsNumeral digits → Spells ('-' :: digits) (-placeValue digits)

-- Reading multiplies what it has by ten at every digit, so the induction takes the last digit off.
theorem digitsValue_eq_placeValue (digits : List Char) : digitsValue digits = placeValue digits := by
  induction digits using List.reverseRecOn with
  | nil => rfl
  | append_singleton front c ih =>
    have last : placeValue (front ++ [c]) = digitValue c + 10 * placeValue front := by
      simp [placeValue, Nat.ofDigits_cons]
    rw [digitsValue_append, last, ih]
    omega

theorem natural?_eq_some_iff {n : Nat} : natural? digits = some n ↔ IsNumeral digits ∧ placeValue digits = n := by
  rw [← digitsValue_eq_placeValue]
  unfold natural?
  by_cases empty : digits = []
  · simp [IsNumeral, empty]
  · simp [IsNumeral, empty]

/-- What is read where a sign changes the number that the digits behind it stand for. -/
theorem signed_eq_some_iff {sign : Int → Int} :
    ((natural? digits).bind fun n => some (n : Int)).map sign = some z ↔ IsNumeral digits ∧ sign (placeValue digits) = z := by
  simp only [Option.map_eq_some_iff, Option.bind_eq_some_iff, natural?_eq_some_iff, Option.some.injEq]
  constructor
  · rintro ⟨_, ⟨_, ⟨numeral, rfl⟩, rfl⟩, rfl⟩
    exact ⟨numeral, rfl⟩
  · rintro ⟨numeral, rfl⟩
    exact ⟨_, ⟨_, ⟨numeral, rfl⟩, rfl⟩, rfl⟩

/-- A digit is no sign, so digits without a sign are read as they stand. -/
theorem integer?_numeral (numeral : IsNumeral digits) : integer? digits = some (placeValue digits : Int) := by
  unfold integer?
  split
  · exact absurd (numeral.2 '-' List.mem_cons_self) (by decide)
  · exact absurd (numeral.2 '+' List.mem_cons_self) (by decide)
  · exact signed_eq_some_iff.mpr ⟨numeral, rfl⟩

theorem integer?_eq_some_iff : integer? s = some z ↔ Spells s z := by
  constructor
  · intro read
    unfold integer? at read
    split at read
    · obtain ⟨numeral, rfl⟩ := signed_eq_some_iff.mp read
      exact .minus numeral
    · obtain ⟨numeral, rfl⟩ := signed_eq_some_iff.mp read
      exact .plus numeral
    · obtain ⟨numeral, rfl⟩ := signed_eq_some_iff.mp read
      exact .unsigned numeral
  · intro spelled
    cases spelled with
    | unsigned numeral => exact integer?_numeral numeral
    | plus numeral => exact signed_eq_some_iff.mpr ⟨numeral, rfl⟩
    | minus numeral => exact signed_eq_some_iff.mpr ⟨numeral, rfl⟩

theorem isNumeral_decimal (n : Nat) : IsNumeral (decimal n) := ⟨decimal_ne_nil n, fun _ => isDigit_of_mem_decimal⟩

theorem placeValue_decimal (n : Nat) : placeValue (decimal n) = n := by
  rw [← digitsValue_eq_placeValue, digitsValue_decimal]

theorem spells_decimalInt (z : Int) : Spells (decimalInt z) z := by
  cases z with
  | ofNat n =>
    have spelled := Spells.unsigned (isNumeral_decimal n)
    rwa [placeValue_decimal] at spelled
  | negSucc n =>
    have spelled := Spells.minus (isNumeral_decimal (n + 1))
    rwa [placeValue_decimal] at spelled

theorem isBlank_of_spells (spelled : Spells s z) : ∀ c ∈ s, isBlank c = false := by
  have sign : isBlank '+' = false ∧ isBlank '-' = false := by decide
  cases spelled with
  | unsigned numeral => exact fun c member => isBlank_of_isDigit (numeral.2 c member)
  | plus numeral | minus numeral =>
    intro c member
    rcases List.mem_cons.mp member with rfl | inside
    · simp [sign]
    · exact isBlank_of_isDigit (numeral.2 c inside)

/-! ## Blanks -/

theorem trimStart_around (blank : isBlankText before = true) : trimStart (before ++ s) = trimStart s := by
  rw [trimStart, List.dropWhile_append_of_pos (List.all_eq_true.mp blank), trimStart]

theorem trimEnd_around (blank : isBlankText behind = true) : trimEnd (s ++ behind) = trimEnd s := by
  have reversed : ∀ c ∈ behind.reverse, isBlank c = true := by
    intro c member
    exact List.all_eq_true.mp blank c (List.mem_reverse.mp member)
  rw [trimEnd, List.reverse_append, List.dropWhile_append_of_pos reversed, trimEnd]

theorem trimStart_solid (solid : ∀ c ∈ core, isBlank c = false) : trimStart core = core := by
  cases core with
  | nil => rfl
  | cons c rest => exact trimStart_of_head (solid c List.mem_cons_self)

theorem trimEnd_solid (solid : ∀ c ∈ core, isBlank c = false) : trimEnd core = core := by
  have reversed : trimStart core.reverse = core.reverse :=
    trimStart_solid fun c member => solid c (List.mem_reverse.mp member)
  rw [trimEnd, ← trimStart, reversed, List.reverse_reverse]

/-- Blanks on both sides of what holds none are trimmed, and nothing else is. -/
theorem trim_around (blankBefore : isBlankText before = true) (blankBehind : isBlankText behind = true)
    (solid : ∀ c ∈ core, isBlank c = false) : trim (before ++ core ++ behind) = core := by
  rw [trim, List.append_assoc, trimStart_around blankBefore]
  cases core with
  | nil =>
    -- The blanks behind have nothing before them and go with the blanks of the start.
    have nothing : trimStart behind = [] := by
      simpa [trimStart] using trimStart_around (s := []) blankBehind
    rw [List.nil_append, nothing]
    rfl
  | cons c rest =>
    rw [List.cons_append, trimStart_of_head (solid c List.mem_cons_self), ← List.cons_append,
      trimEnd_around blankBehind, trimEnd_solid solid]

theorem isBlankText_takeWhile (s : List Char) : isBlankText (s.takeWhile isBlank) = true := List.all_takeWhile

theorem exists_trim (s : List Char) :
    ∃ before behind, s = before ++ trim s ++ behind ∧ isBlankText before = true ∧ isBlankText behind = true := by
  let inner := trimStart s
  refine ⟨s.takeWhile isBlank, (inner.reverse.takeWhile isBlank).reverse, ?_, isBlankText_takeWhile s, ?_⟩
  · have rejoined : trimEnd inner ++ (inner.reverse.takeWhile isBlank).reverse = inner := by
      rw [trimEnd, ← List.reverse_append, List.takeWhile_append_dropWhile, List.reverse_reverse]
    rw [trim, List.append_assoc, rejoined]
    exact List.takeWhile_append_dropWhile.symm
  · rw [isBlankText, List.all_reverse]
    exact isBlankText_takeWhile _

/-! ## Words of 64 bits -/

theorem word64?_eq_some_iff {n : Int64} : word64? z = some n ↔ n.toInt = z := by
  have low := n.le_toInt
  have high := n.toInt_lt
  unfold word64?
  constructor
  · intro word
    split at word
    · next inside =>
      obtain rfl := Option.some.inj word
      exact Int64.toInt_ofInt_of_le inside.1 inside.2
    · cases word
  · rintro rfl
    rw [if_pos ⟨low, high⟩, Int64.ofInt_toInt]

end Text

namespace Value

variable {v : Value} {n : Int64}

/-! ## Values -/

/-- The integer that a value stands for. -/
inductive StandsFor : Value → Int → Prop
  | int (n : Int64) : StandsFor (.int n) n.toInt
  | bool (b : Bool) : StandsFor (.bool b) (if b then 1 else 0)
  | text {s : String} {before numeral behind : List Char} {z : Int} (parts : s.toList = before ++ numeral ++ behind)
      (blankBefore : Text.isBlankText before = true) (blankBehind : Text.isBlankText behind = true)
      (spelled : Text.Spells numeral z) : StandsFor (.text s) z

theorem standsFor_int_iff {m : Int64} {z : Int} : (Value.int m).StandsFor z ↔ m.toInt = z := by
  constructor
  · rintro ⟨⟩
    rfl
  · rintro rfl
    exact .int m

theorem standsFor_bool_iff {b : Bool} {z : Int} : (Value.bool b).StandsFor z ↔ (if b then 1 else 0) = z := by
  constructor
  · rintro ⟨⟩
    rfl
  · rintro rfl
    exact .bool b

theorem standsFor_text_iff {s : String} {z : Int} :
    (Value.text s).StandsFor z ↔ Text.Spells (Text.trim s.toList) z := by
  constructor
  · intro stands
    cases stands with
    | text parts blankBefore blankBehind spelled =>
      rwa [parts, Text.trim_around blankBefore blankBehind (Text.isBlank_of_spells spelled)]
  · intro spelled
    obtain ⟨before, behind, parts, blankBefore, blankBehind⟩ := Text.exists_trim s.toList
    exact .text parts blankBefore blankBehind spelled

theorem toInt64?_eq_some_iff : v.toInt64? = some n ↔ v.StandsFor n.toInt := by
  cases v with
  | int m => rw [standsFor_int_iff, toInt64?, Option.some.injEq, Int64.toInt_inj]
  | bool b =>
    have number : (if b then 1 else 0 : Int64).toInt = if b then 1 else 0 := by cases b <;> rfl
    rw [standsFor_bool_iff, toInt64?, Option.some.injEq, ← number, Int64.toInt_inj]
  | text s =>
    rw [standsFor_text_iff, toInt64?, Option.bind_eq_some_iff]
    simp [Text.integer?_eq_some_iff, Text.word64?_eq_some_iff]
  | null | float _ | bytes _ | timestamp _ | raw _ =>
    constructor
    · rintro ⟨⟩
    · rintro ⟨⟩

theorem ofValue_int64 (v : Value) : (ofValue v : Except DecodeCause Int64) = v.readAs .integer v.toInt64? := rfl

theorem ofValue_int64_eq_ok_iff : ofValue v = .ok n ↔ v.StandsFor n.toInt := by
  rw [← toInt64?_eq_some_iff, ofValue_int64]
  cases v.toInt64? with
  | none => simp [readAs]
  | some m => simp [readAs]

theorem ofValue_int64_cases (v : Value) :
    (∃ n : Int64, ofValue v = .ok n) ∨ (ofValue v : Except DecodeCause Int64) = .error (.mismatch .integer v) := by
  rw [ofValue_int64]
  cases v.toInt64? with
  | none => exact .inr rfl
  | some n => exact .inl ⟨n, rfl⟩

theorem ofValue_int64_eq_error_iff :
    (ofValue v : Except DecodeCause Int64) = .error (.mismatch .integer v) ↔
      ∀ z, v.StandsFor z → z < -2 ^ 63 ∨ 2 ^ 63 ≤ z := by
  constructor
  · intro fails z stands
    by_contra inside
    have number : (Int64.ofInt z).toInt = z := Int64.toInt_ofInt_of_le (by omega) (by omega)
    have read : ofValue v = .ok (Int64.ofInt z) := ofValue_int64_eq_ok_iff.mpr (by rwa [number])
    rw [read] at fails
    cases fails
  · intro outside
    obtain ⟨n, read⟩ | fails := ofValue_int64_cases v
    · have bounds := outside n.toInt (ofValue_int64_eq_ok_iff.mp read)
      have low := n.le_toInt
      have high := n.toInt_lt
      omega
    · exact fails

/-! ## Narrower types -/

/-- What reading an integer of a narrower type comes to: the same number as at 64 bits if the type holds it, and otherwise a
complaint, which tells a number that is out of range from no number at all. -/
inductive Narrowed {α : Type} [OfValue α] (toInt : α → Int) (Holds : Int → Prop) (expected : Expected) (v : Value) : Prop
  | inside (n : Int64) (a : α) : ofValue v = .ok n → Holds n.toInt → ofValue v = .ok a → toInt a = n.toInt →
      Narrowed toInt Holds expected v
  | outside (n : Int64) : ofValue v = .ok n → ¬ Holds n.toInt →
      (ofValue v : Except DecodeCause α) = .error (.mismatch expected v) → Narrowed toInt Holds expected v
  | noInteger : (ofValue v : Except DecodeCause Int64) = .error (.mismatch .integer v) →
      (ofValue v : Except DecodeCause α) = .error (.mismatch .integer v) → Narrowed toInt Holds expected v

section Narrowing

variable {α : Type} [OfValue α] {toInt : α → Int} {Holds : Int → Prop} [DecidablePred Holds] {expected : Expected}

theorem narrowed_of_bind (narrow : Int64 → α) (exact : ∀ n : Int64, Holds n.toInt → toInt (narrow n) = n.toInt)
    (same : (ofValue v : Except DecodeCause α) = (ofValue v : Except DecodeCause Int64).bind fun n =>
      if Holds n.toInt then .ok (narrow n) else .error (.mismatch expected v)) :
    Narrowed toInt Holds expected v := by
  obtain ⟨n, read⟩ | fails := ofValue_int64_cases v
  · rw [read, Except.bind] at same
    by_cases holds : Holds n.toInt
    · rw [if_pos holds] at same
      exact .inside n (narrow n) read holds same (exact n holds)
    · rw [if_neg holds] at same
      exact .outside n read holds same
  · rw [fails, Except.bind] at same
    exact .noInteger fails same

end Narrowing

theorem narrowed_int32 (v : Value) : Narrowed Int32.toInt (fun z => -2 ^ 31 ≤ z ∧ z < 2 ^ 31) .integer32 v := by
  refine narrowed_of_bind Int64.toInt32 (fun n holds => ?_) rfl
  rw [Int64.toInt_toInt32]
  exact Int.bmod_eq_of_le (by omega) (by omega)

theorem narrowed_uint64 (v : Value) : Narrowed (fun n : UInt64 => (n.toNat : Int)) (fun z => 0 ≤ z) .unsigned v := by
  refine narrowed_of_bind Int64.toUInt64 (fun n holds => ?_) rfl
  have nonneg : 0 ≤ n := Int64.le_iff_toInt_le.mpr holds
  rw [Int64.toNat_toUInt64_of_le nonneg]
  exact Int.toNat_of_nonneg holds

end Value

/-- Exactly the integer that a value stands for is read, if the type that is asked for holds it, and the text of an integer
is read back between any blanks. -/
theorem integers_extracted :
    (∀ (v : Value) (n : Int64), ofValue v = .ok n ↔ v.StandsFor n.toInt) ∧
    (∀ v : Value, (ofValue v : Except DecodeCause Int64) = .error (.mismatch .integer v) ↔
      ∀ z, v.StandsFor z → z < -2 ^ 63 ∨ 2 ^ 63 ≤ z) ∧
    (∀ v : Value, v.Narrowed Int32.toInt (fun z => -2 ^ 31 ≤ z ∧ z < 2 ^ 31) .integer32) ∧
    (∀ v : Value, v.Narrowed (fun n : UInt64 => (n.toNat : Int)) (fun z => 0 ≤ z) .unsigned) ∧
    ∀ (n : Int64) (before behind : String), Text.isBlankText before.toList = true → Text.isBlankText behind.toList = true →
      ∃ s : String, ofValue (.int n) = .ok s ∧ ofValue (.text (before ++ s ++ behind)) = .ok n := by
  refine ⟨fun _ _ => Value.ofValue_int64_eq_ok_iff, fun _ => Value.ofValue_int64_eq_error_iff, Value.narrowed_int32,
    Value.narrowed_uint64, fun n before behind blankBefore blankBehind => ⟨Value.int64Text n, rfl, ?_⟩⟩
  have parts : (before ++ Value.int64Text n ++ behind).toList =
      before.toList ++ Text.decimalInt n.toInt ++ behind.toList := by
    simp [Value.int64Text, Text.intText]
  exact Value.ofValue_int64_eq_ok_iff.mpr (.text parts blankBefore blankBehind (Text.spells_decimalInt n.toInt))

theorem integers_extracted_least :
    (Text.isBlankText "\u3000\t".toList = true ∧ Text.isBlankText "\n".toList = true) ∧
      ∃ s : String, ofValue (.int Int64.minValue) = .ok s ∧
        ofValue (.text ("\u3000\t" ++ s ++ "\n")) = .ok Int64.minValue := by
  have blanks : Text.isBlankText "\u3000\t".toList = true ∧ Text.isBlankText "\n".toList = true := by decide
  exact ⟨blanks, integers_extracted.2.2.2.2 Int64.minValue _ _ blanks.1 blanks.2⟩

-- One more than the greatest number is none, whatever type is asked for, and zeros in front do not count.
example : (ofValue (.text "9223372036854775808") : Except DecodeCause UInt64) =
      .error (.mismatch .integer (.text "9223372036854775808")) ∧
    ofValue (.text "+00000000000000000000007") = .ok (7 : Int32) := by
  decide

end SqlDraft
