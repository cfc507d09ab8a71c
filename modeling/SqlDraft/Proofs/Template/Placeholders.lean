import SqlDraft.Proofs.Draft.Inlining
import SqlDraft.Proofs.Text.Literals

/-!
# Placeholders of a text

A placeholder is a question mark with an even number of single quotes before it. The literal of every value that is bound
closes its quotes and has question marks between quotes alone (`enclosed_literal`), so putting it in the place of a
placeholder adds none and leaves the quotes of the text behind it as they were. With a value for every placeholder none is
left, and the text is final (`interpolate_settled`).
-/

namespace SqlDraft

/-- The places of a text's placeholders. -/
def placeholders (s : List Char) : List Nat :=
  (List.range s.length).filter fun i => s[i]? = some '?' ∧ (s.take i).count '\x27' % 2 = 0

/-- The text has an odd number of single quotes, so its end is between quotes. -/
def EndsQuoted (s : List Char) : Prop := s.count '\x27' % 2 = 1

/-! ## Counting by scanning -/

/-- How many placeholders a scan meets, given whether it starts between quotes. -/
def openMarks : Bool → List Char → Nat
  | _, [] => 0
  | quoted, c :: rest =>
    if c = '\x27' then openMarks (!quoted) rest else openMarks quoted rest + if c = '?' ∧ quoted = false then 1 else 0

theorem openMarks_quote (quoted : Bool) (rest : List Char) : openMarks quoted ('\x27' :: rest) = openMarks (!quoted) rest := rfl

theorem openMarks_slot (rest : List Char) : openMarks false ('?' :: rest) = openMarks false rest + 1 := rfl

theorem openMarks_other {quoted : Bool} {c : Char} (quote : c ≠ '\x27') (noSlot : ¬ (c = '?' ∧ quoted = false))
    (rest : List Char) : openMarks quoted (c :: rest) = openMarks quoted rest := by
  rw [openMarks, if_neg quote, if_neg noSlot, Nat.add_zero]

theorem openMarks_append_of_closes {quoted : Bool} {s : List Char} (closed : closes quoted s = true) (rest : List Char) :
    openMarks quoted (s ++ rest) = openMarks false rest := by
  induction s generalizing quoted with
  | nil =>
    cases quoted with
    | false => rfl
    | true => cases closed
  | cons c more ih =>
    rw [List.cons_append]
    by_cases quote : c = '\x27'
    · subst quote
      rw [closes_quote] at closed
      rw [openMarks_quote, ih closed]
    · obtain ⟨noSlot, later⟩ := (closes_other quote more).mp closed
      rw [openMarks_other quote noSlot, ih later]

/-- A placeholder at a place of a text that may start between quotes. -/
def IsSlot (quoted : Bool) (s : List Char) (i : Nat) : Prop :=
  s[i]? = some '?' ∧ (openQuotes quoted + (s.take i).count '\x27') % 2 = 0

instance (quoted : Bool) (s : List Char) (i : Nat) : Decidable (IsSlot quoted s i) := by unfold IsSlot; infer_instance

theorem isSlot_zero (quoted : Bool) (c : Char) (rest : List Char) :
    IsSlot quoted (c :: rest) 0 ↔ c = '?' ∧ quoted = false := by
  cases quoted <;> simp [IsSlot, openQuotes]

theorem isSlot_succ (quoted : Bool) (c : Char) (rest : List Char) (i : Nat) :
    IsSlot quoted (c :: rest) (i + 1) ↔ IsSlot (if c = '\x27' then !quoted else quoted) rest i := by
  by_cases quote : c = '\x27'
  · simp [IsSlot, quote, openQuotes_not]
  · simp [IsSlot, quote, List.count_cons_of_ne]

/-- The places of the placeholders of a text that may start between quotes. -/
def slotPlaces (quoted : Bool) (s : List Char) : List Nat := (List.range s.length).filter (IsSlot quoted s ·)

theorem slotPlaces_false (s : List Char) : slotPlaces false s = placeholders s := by
  simp [slotPlaces, placeholders, IsSlot, openQuotes]

theorem slotPlaces_cons (quoted : Bool) (c : Char) (rest : List Char) :
    slotPlaces quoted (c :: rest) = (if c = '?' ∧ quoted = false then [0] else []) ++
      (slotPlaces (if c = '\x27' then !quoted else quoted) rest).map (· + 1) := by
  rw [slotPlaces, slotPlaces, List.length_cons, List.range_succ_eq_map, List.filter_cons, List.filter_map]
  simp only [Function.comp_def, isSlot_zero, isSlot_succ, Nat.succ_eq_add_one]
  by_cases slot : c = '?' ∧ quoted = false <;> simp [slot]

theorem slotPlaces_quote (quoted : Bool) (rest : List Char) :
    slotPlaces quoted ('\x27' :: rest) = (slotPlaces (!quoted) rest).map (· + 1) := slotPlaces_cons quoted '\x27' rest

theorem slotPlaces_slot (rest : List Char) :
    slotPlaces false ('?' :: rest) = 0 :: (slotPlaces false rest).map (· + 1) := slotPlaces_cons false '?' rest

theorem slotPlaces_other {quoted : Bool} {c : Char} (quote : c ≠ '\x27') (noSlot : ¬ (c = '?' ∧ quoted = false))
    (rest : List Char) : slotPlaces quoted (c :: rest) = (slotPlaces quoted rest).map (· + 1) := by
  rw [slotPlaces_cons, if_neg noSlot, if_neg quote, List.nil_append]

theorem length_slotPlaces (quoted : Bool) (s : List Char) : (slotPlaces quoted s).length = openMarks quoted s := by
  induction s generalizing quoted with
  | nil => rfl
  | cons c rest ih =>
    by_cases quote : c = '\x27'
    · subst quote
      rw [slotPlaces_quote, List.length_map, ih, openMarks_quote]
    · by_cases slot : c = '?' ∧ quoted = false
      · obtain ⟨rfl, rfl⟩ := slot
        rw [slotPlaces_slot, List.length_cons, List.length_map, ih, openMarks_slot]
      · rw [slotPlaces_other quote slot, List.length_map, ih, openMarks_other quote slot]

theorem length_placeholders (s : List Char) : (placeholders s).length = openMarks false s := by
  rw [← slotPlaces_false, length_slotPlaces]

theorem placeholders_eq_nil_iff (s : List Char) : placeholders s = [] ↔ openMarks false s = 0 := by
  rw [← length_placeholders, List.length_eq_zero_iff]

/-! ## Literals close their quotes -/

theorem plain_decimalInt (n : Int) : ∀ c ∈ Text.decimalInt n, c ≠ '?' ∧ c ≠ '\x27' := by
  intro c member
  cases n with
  | ofNat n => exact plain_decimal n c member
  | negSucc n =>
    obtain rfl | later := List.mem_cons.mp member
    · decide
    · exact plain_decimal (n + 1) c later

theorem plain_int64Text (n : Int64) : Plain (Value.int64Text n) := by
  intro c member
  rw [Value.int64Text, Text.intText, String.toList_ofList] at member
  exact plain_decimalInt n.toInt c member

theorem plain_ofGrid (grid : Nat) (e : Int) : ∀ c ∈ (Decimal.Digits.ofGrid grid e).digits, c ≠ '?' ∧ c ≠ '\x27' := by
  intro c member
  have kept := (List.dropWhile_sublist _).subset (List.mem_reverse.mp member)
  exact plain_decimal grid c (List.mem_reverse.mp kept)

theorem plain_shortest (x : Binary64) : ∀ c ∈ (Decimal.shortest x).digits, c ≠ '?' ∧ c ≠ '\x27' := by
  -- By `delta`: equations of the definition would take the search for digits apart.
  delta Decimal.shortest
  exact plain_ofGrid _ _

theorem plain_positionalText {keepsPoint : Bool} {d : Decimal.Digits} (digits : ∀ c ∈ d.digits, c ≠ '?' ∧ c ≠ '\x27') :
    ∀ c ∈ Decimal.positionalText keepsPoint d, c ≠ '?' ∧ c ≠ '\x27' := by
  have zeros {n : Nat} {c : Char} (member : c ∈ List.replicate n '0') : c ≠ '?' ∧ c ≠ '\x27' :=
    List.eq_of_mem_replicate member ▸ by decide
  intro c member
  unfold Decimal.positionalText at member
  split at member
  · simp only [List.mem_cons, List.mem_append] at member
    obtain rfl | rfl | zero | digit := member
    · decide
    · decide
    · exact zeros zero
    · exact digits c digit
  · dsimp only at member
    split at member
    · simp only [List.mem_append] at member
      obtain (digit | zero) | point := member
      · exact digits c digit
      · exact zeros zero
      · split at point
        · obtain rfl | rfl : c = '.' ∨ c = '0' := by simpa using point
          · decide
          · decide
        · cases point
    · simp only [List.mem_append, List.mem_cons] at member
      obtain front | rfl | back := member
      · exact digits c (List.mem_of_mem_take front)
      · decide
      · exact digits c (List.mem_of_mem_drop back)

theorem plain_floatText (x : Binary64) : Plain (Value.floatText x) := by
  unfold Value.floatText Decimal.text
  split
  · decide
  · intro c member
    rw [String.toList_ofList] at member
    have body : ∀ c ∈ (if x.isInfinite then "inf".toList else Decimal.unsignedText Value.plainLayout x),
        c ≠ '?' ∧ c ≠ '\x27' := by
      split
      · exact (show Plain "inf" by decide)
      · unfold Decimal.unsignedText
        split
        · intro c zero
          obtain rfl : c = '0' := by simpa [Value.plainLayout] using zero
          decide
        · exact plain_positionalText (plain_shortest x)
    split at member
    · obtain rfl | later := List.mem_cons.mp member
      · decide
      · exact body c later
    · exact body c member

theorem closes_doubleQuotes (s : List Char) : closes true (Text.doubleQuotes s ++ ['\x27']) = true := by
  induction s with
  | nil => rfl
  | cons c rest ih =>
    by_cases quote : c = '\x27'
    · subst quote
      exact ih
    · rw [Text.doubleQuotes, if_neg quote, List.cons_append]
      exact (closes_other quote _).mpr ⟨by simp, ih⟩

theorem closes_quoted (s : List Char) : closes false (Text.quoted s) = true := by
  rw [Text.quoted, closes_quote]
  exact closes_doubleQuotes s

theorem closes_hexPairs (bytes : Bytes) : closes true (Text.hexPairs bytes ++ ['\x27']) = true := by
  induction bytes with
  | nil => rfl
  | cons b rest ih =>
    have bound := b.toNat_lt
    have high := Text.hexDigit_ne_quote (show b.toNat / 16 < 16 by omega)
    have low := Text.hexDigit_ne_quote (show b.toNat % 16 < 16 by omega)
    rw [Text.hexPairs_cons, List.cons_append, List.cons_append]
    exact (closes_other high _).mpr ⟨by simp, (closes_other low _).mpr ⟨by simp, ih⟩⟩

theorem closes_hexLiteral (bytes : Bytes) : closes false (Text.hexLiteral bytes) = true :=
  closes_hexPairs bytes

/-- A bound value's literal closes its quotes, and its question marks are between them. -/
theorem enclosed_literal {v : Value} (bound : v.isRaw = false) : Enclosed v.literal := by
  cases v with
  | null => decide
  | int n =>
    rw [Value.literal]
    exact composable_enclosed.plain (plain_int64Text n)
  | float x =>
    rw [Value.literal]
    exact composable_enclosed.plain (plain_floatText x)
  | bool b => cases b <;> decide
  | text s =>
    rw [enclosed_iff, Value.literal, String.toList_ofList]
    exact closes_quoted s.toList
  | bytes bytes =>
    rw [enclosed_iff, Value.literal, String.toList_ofList]
    exact closes_hexLiteral bytes
  | timestamp t =>
    rw [enclosed_iff, Value.literal, String.toList_ofList]
    exact closes_quoted t.text.toList
  | raw sql => cases bound

/-! ## Interpolated texts -/

/-- With a bound value for every placeholder no placeholder is left, and the quotes count the same. -/
theorem interpolateFrom_settled {quoted : Bool} {s : List Char} {params : List Value}
    (bound : ∀ v ∈ params, v.isRaw = false) (enough : openMarks quoted s ≤ params.length) :
    openMarks quoted (interpolateFrom quoted s params) = 0 ∧
      (interpolateFrom quoted s params).count '\x27' % 2 = s.count '\x27' % 2 := by
  induction s generalizing quoted params with
  | nil => exact ⟨rfl, rfl⟩
  | cons c rest ih =>
    by_cases quote : c = '\x27'
    · subst quote
      obtain ⟨none, same⟩ := ih bound enough
      rw [interpolateFrom_quote, openMarks_quote, List.count_cons_self, List.count_cons_self]
      exact ⟨none, by omega⟩
    · by_cases slot : c = '?' ∧ quoted = false
      · obtain ⟨rfl, rfl⟩ := slot
        rw [openMarks_slot] at enough
        cases params with
        | nil => simp at enough
        | cons v others =>
          obtain ⟨first, later⟩ := List.forall_mem_cons.mp bound
          obtain ⟨none, same⟩ := ih later (Nat.le_of_succ_le_succ enough)
          have enclosed := enclosed_literal first
          -- The literal leaves the scan of the rest as it was.
          rw [interpolateFrom_slot, openMarks_append_of_closes ((enclosed_iff _).mp enclosed), List.count_append,
            List.count_cons_of_ne quote]
          exact ⟨none, by have even := enclosed.1; omega⟩
      · rw [openMarks_other quote slot] at enough
        obtain ⟨none, same⟩ := ih bound enough
        rw [interpolateFrom_other quote slot, openMarks_other quote slot, List.count_cons_of_ne quote,
          List.count_cons_of_ne quote]
        exact ⟨none, same⟩

theorem interpolateFrom_of_openMarks_eq_zero {quoted : Bool} {s : List Char} (none : openMarks quoted s = 0)
    (params : List Value) : interpolateFrom quoted s params = s := by
  induction s generalizing quoted with
  | nil => rw [interpolateFrom.eq_def]
  | cons c rest ih =>
    by_cases quote : c = '\x27'
    · subst quote
      rw [interpolateFrom_quote, ih none]
    · by_cases slot : c = '?' ∧ quoted = false
      · obtain ⟨rfl, rfl⟩ := slot
        rw [openMarks_slot] at none
        omega
      · rw [openMarks_other quote slot] at none
        rw [interpolateFrom_other quote slot, ih none]

/-- A text with a bound value for every placeholder, its quotes closed or not, is interpolated to a text that has no
placeholder, that stays as it is with whatever values, and that ends between quotes exactly if the text did. -/
theorem interpolate_settled (sql : String) (params : List Value) (bound : ∀ v ∈ params, v.isRaw = false)
    (enough : (placeholders sql.toList).length ≤ params.length) :
    placeholders (interpolate sql params).toList = [] ∧
      (∀ others, interpolate (interpolate sql params) others = interpolate sql params) ∧
      (EndsQuoted (interpolate sql params).toList ↔ EndsQuoted sql.toList) := by
  rw [length_placeholders] at enough
  obtain ⟨none, same⟩ := interpolateFrom_settled bound enough
  have text : (interpolate sql params).toList = interpolateFrom false sql.toList params := String.toList_ofList
  refine ⟨?_, fun others => ?_, ?_⟩
  · rw [text]
    exact (placeholders_eq_nil_iff _).mpr none
  · rw [interpolate, text, interpolateFrom_of_openMarks_eq_zero none, ← text, String.ofList_toList]
  · rw [text, EndsQuoted, EndsQuoted, same]

/-- A value full of question marks and quotes in a text that leaves a quote open. -/
theorem interpolate_settled_open :
    placeholders (interpolate "a = ? AND b = 'so" [.text "?'?", .null]).toList = [] ∧
      (∀ others, interpolate (interpolate "a = ? AND b = 'so" [.text "?'?", .null]) others =
        interpolate "a = ? AND b = 'so" [.text "?'?", .null]) ∧
      (EndsQuoted (interpolate "a = ? AND b = 'so" [.text "?'?", .null]).toList ↔ EndsQuoted "a = ? AND b = 'so".toList) :=
  interpolate_settled _ _ (by decide) (by decide)

end SqlDraft
