import SqlDraft.Proofs.Text.Numerals
import SqlDraft.Value.Extract

/-!
# Timestamps and their text

Every part of a written timestamp is read back with whatever stands behind it: the year in either of its forms, the numbers
of two digits, and the fraction at the end in any of its four lengths. So a moment that exists, a leap second included, is
what its text is read as (`timestamp_round_trip`).
-/

namespace SqlDraft
namespace Calendar

open Text

/-! ## Digits -/

/-- Digits are taken up to the width that is asked for, or up to something else behind them. -/
theorem digits?_append {most : Nat} {digits rest : List Char} (nonempty : digits ≠ [])
    (all : ∀ c ∈ digits, c.isDigit = true) (fits : digits.length ≤ most)
    (stops : digits.length = most ∨ ∀ c ∈ rest.head?, c.isDigit = false) :
    digits? most (digits ++ rest) = some (digitsValue digits, rest) := by
  have behind : (rest.take (most - digits.length)).takeWhile Char.isDigit = [] := by
    obtain full | other := stops
    · rw [full, Nat.sub_self, List.take_zero, List.takeWhile_nil]
    · cases rest with
      | nil => simp
      | cons c more =>
        cases most - digits.length with
        | zero => rfl
        | succ k => rw [List.take_succ_cons, List.takeWhile_cons_of_neg (by simp [other c rfl])]
  have taken : ((digits ++ rest).take most).takeWhile Char.isDigit = digits := by
    rw [List.take_append, List.take_of_length_le fits, List.takeWhile_append_of_pos all, behind, List.append_nil]
  simp [digits?, taken, nonempty]

theorem digits?_padded {most width n : Nat} {rest : List Char} (fits : (padded width n).length ≤ most)
    (stops : (padded width n).length = most ∨ ∀ c ∈ rest.head?, c.isDigit = false) :
    digits? most (padded width n ++ rest) = some (n, rest) := by
  rw [digits?_append (padded_ne_nil width n) (fun _ => isDigit_of_mem_padded) fits stops, digitsValue_padded]

theorem padded_eq_cons (width n : Nat) : ∃ c more, padded width n = c :: more ∧ c.isDigit = true := by
  obtain ⟨c, more, same⟩ := List.exists_cons_of_ne_nil (padded_ne_nil width n)
  exact ⟨c, more, same, isDigit_of_mem_padded (same ▸ List.mem_cons_self)⟩

theorem trimStart_padded (width n : Nat) (rest : List Char) :
    trimStart (padded width n ++ rest) = padded width n ++ rest := by
  obtain ⟨c, more, same, digit⟩ := padded_eq_cons width n
  rw [same, List.cons_append, trimStart_of_head (isBlank_of_isDigit digit)]

theorem twoDigits?_padded {n : Nat} (fits : n < 100) (rest : List Char) :
    twoDigits? (padded 2 n ++ rest) = some (n, rest) := by
  have width : (padded 2 n).length = 2 := length_padded fits
  rw [twoDigits?, trimStart_padded, digits?_padded (Nat.le_of_eq width) (.inl width)]

/-! ## Years -/

/-- A year of four digits starts with no sign. -/
theorem year?_padded {n : Nat} (fits : n < 10000) (rest : List Char) : year? (padded 4 n ++ rest) = some ((n : Int), rest) := by
  have width : (padded 4 n).length = 4 := length_padded fits
  have value : digits? 4 (padded 4 n ++ rest) = some (n, rest) := digits?_padded (Nat.le_of_eq width) (.inl width)
  obtain ⟨c, more, same, digit⟩ := padded_eq_cons 4 n
  rw [year?, trimStart_padded]
  split
  · next starts =>
    rw [same] at starts
    cases starts
    cases digit
  · next starts =>
    rw [same] at starts
    cases starts
    cases digit
  · rw [value, Option.map_some]

/-- Behind a sign all digits are read, up to the mark behind the year. -/
theorem digits?_signed (n : Nat) (rest : List Char) :
    digits? (padded 4 n ++ '-' :: rest).length (padded 4 n ++ '-' :: rest) = some (n, '-' :: rest) :=
  digits?_padded (by simp) (.inr (by simp))

theorem year?_yearText (year : Int) (rest : List Char) : year? (yearText year ++ '-' :: rest) = some (year, '-' :: rest) := by
  unfold yearText
  split
  · next short =>
    obtain ⟨n, rfl⟩ := Int.eq_ofNat_of_zero_le short.1
    have fits : n < 10000 := by omega
    exact year?_padded fits ('-' :: rest)
  · rw [List.cons_append, year?]
    by_cases negative : year < 0
    · have value : -(year.natAbs : Int) = year := by omega
      rw [if_pos negative, trimStart_of_head (by decide)]
      show (digits? _ _).map _ = _
      rw [digits?_signed]
      exact congrArg (fun y => some (y, '-' :: rest)) value
    · have value : (year.natAbs : Int) = year := by omega
      rw [if_neg negative, trimStart_of_head (by decide)]
      show (digits? _ _).map _ = _
      rw [digits?_signed]
      exact congrArg (fun y => some (y, '-' :: rest)) value

/-! ## Fractions -/

theorem fraction?_padded {n : Nat} (width places : Nat) (nine : width + 1 + places = 9) (fits : n < tenTo (width + 1)) :
    fraction? ('.' :: padded (width + 1) n) = some (n * tenTo places) := by
  have whole : (padded (width + 1) n).length = width + 1 := length_padded fits
  have all : (padded (width + 1) n).all Char.isDigit = true := List.all_eq_true.mpr fun _ => isDigit_of_mem_padded
  have counted : (padded (width + 1) n).take 9 = padded (width + 1) n := List.take_of_length_le (by omega)
  have missing : 9 - (width + 1) = places := by omega
  rw [fraction?, if_pos ⟨rfl, padded_ne_nil _ _, all⟩, nanos, counted, digitsValue_padded, whole, missing]

theorem fraction?_fractionText {nano : Nat} (fits : nano < 1000000000) : fraction? (fractionText nano) = some nano := by
  have millis : tenTo 6 = 1000000 := rfl
  have micros : tenTo 3 = 1000 := rfl
  unfold fractionText
  split
  · next zero => rw [fraction?, zero]
  · split
    · have small : nano / 1000000 < tenTo 3 := by omega
      rw [fraction?_padded 2 6 rfl small, millis]
      exact congrArg some (by omega)
    · split
      · have small : nano / 1000 < tenTo 6 := by omega
        rw [fraction?_padded 5 3 rfl small, micros]
        exact congrArg some (by omega)
      · rw [fraction?_padded 8 0 rfl fits, tenTo_zero, Nat.mul_one]

/-! ## Moments -/

/-- The clock shows second 60 for a leap second alone, and reading puts it back into the second before. -/
theorem showing_shownSecond {c : Clock} (exist : c.Exists) :
    Clock.showing c.hour c.minute c.shownSecond (c.nano % 1000000000) = c := by
  obtain ⟨hour, minute, second, nano⟩ := c
  obtain ⟨_, _, second60, nano2, leap⟩ := exist
  dsimp only at second60 nano2 leap
  by_cases plain : nano < 1000000000
  · have shown : Clock.shownSecond ⟨hour, minute, second, nano⟩ = second := if_pos plain
    rw [shown, Clock.showing, if_neg (by omega), Nat.mod_eq_of_lt plain]
  · obtain rfl := leap (by omega)
    have shown : Clock.shownSecond ⟨hour, minute, 59, nano⟩ = 60 := if_neg plain
    have back : 1000000000 + nano % 1000000000 = nano := by omega
    rw [shown, Clock.showing, if_pos rfl, back]

theorem shownSecond_lt {c : Clock} (exist : c.Exists) : c.shownSecond < 100 := by
  obtain ⟨_, _, second, _⟩ := exist
  unfold Clock.shownSecond
  split <;> omega

theorem month_lt {d : Day} (exist : d.Exists) : d.month < 100 := by
  obtain ⟨_, ⟨_, month⟩, _⟩ := exist
  omega

theorem day_lt {d : Day} (exist : d.Exists) : d.day < 100 := by
  obtain ⟨_, _, _, day⟩ := exist
  have most : daysIn d.year d.month ≤ 31 := by
    unfold daysIn
    split
    · split <;> omega
    · split <;> omega
  omega

theorem after?_self (c : Char) (rest : List Char) : after? c (c :: rest) = some rest := if_pos rfl

theorem toList_text (t : Timestamp) :
    t.text.toList = yearText t.day.year ++ '-' :: (padded 2 t.day.month ++ '-' :: (padded 2 t.day.day ++ ' ' ::
      (padded 2 t.clock.hour ++ ':' :: (padded 2 t.clock.minute ++ ':' :: (padded 2 t.clock.shownSecond ++
        fractionText (t.clock.nano % 1000000000)))))) := by
  simp [Timestamp.text, Timestamp.textWith, Day.text, Clock.text]

theorem read?_text (t : Timestamp) : Timestamp.read? t.text.toList = some t := by
  have hour : t.clock.hour < 100 := Nat.lt_trans t.clockExists.1 (by decide)
  have minute : t.clock.minute < 100 := Nat.lt_trans t.clockExists.2.1 (by decide)
  have fraction := fraction?_fractionText (Nat.mod_lt t.clock.nano (show 0 < 1000000000 by decide))
  have blank : isBlank ' ' = true := by decide
  rw [toList_text, Timestamp.read?, year?_yearText]
  simp only [Option.bind_eq_bind, Option.bind_some, after?_self, twoDigits?_padded (month_lt t.dayExists),
    twoDigits?_padded (day_lt t.dayExists), trimStart_blank _ blank, trimStart_padded, twoDigits?_padded hour,
    twoDigits?_padded minute, twoDigits?_padded (shownSecond_lt t.clockExists), fraction,
    showing_shownSecond t.clockExists]
  exact t.of?_self

end Calendar

/-- A moment that exists is read as text, and that text is read as the moment. -/
theorem timestamp_round_trip (t : Calendar.Timestamp) :
    ∃ s : String, ofValue (.timestamp t) = .ok s ∧
      (ofValue (.text s) : Except DecodeCause Calendar.Timestamp) = .ok t := by
  refine ⟨t.text, rfl, ?_⟩
  show (Value.text t.text).readAs .timestamp (Calendar.Timestamp.read? t.text.toList) = .ok t
  rw [Calendar.read?_text]
  rfl

-- A leap second of a year before the first.
example : (⟨⟨-5, 2, 28⟩, ⟨23, 59, 59, 1500000000⟩, by decide, by decide⟩ : Calendar.Timestamp).text =
    "-0005-02-28 23:59:60.500" := by cbv

end SqlDraft
