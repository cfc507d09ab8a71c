import SqlDraft.Proofs.Template.Placeholders

/-!
# Segments of a text

A text is cut at its placeholders into segments, one more than there are placeholders. Interpolating the text writes its
segments one after the other, and between each two of them what stands for the placeholder that was there: the literal
of the value in the same place of the parameters, or the question mark again if there is none
(`interpolateFrom_eq_filled`). So a text that closes its quotes takes its own parameters, and what is behind it takes the
others (`interpolateFrom_append`).
-/

namespace SqlDraft

/-- A text in pieces: the first one, and those behind a cut. -/
structure Segments where
  first : List Char
  others : List (List Char)
  deriving DecidableEq

/-- A text from some place on, cut at ascending places. The character at a cut belongs to no segment. -/
def segmentsFrom (s : List Char) : (start : Nat) → (places : List Nat) → Segments
  | start, [] => ⟨s.drop start, []⟩
  | start, place :: later =>
    let behind := segmentsFrom s (place + 1) later
    ⟨(s.drop start).take (place - start), behind.first :: behind.others⟩

/-- A text cut at its placeholders. -/
def segments (s : List Char) : Segments := segmentsFrom s 0 (placeholders s)

/-- What is written for the placeholder with some number: the literal of the parameter with this number, if there is
one. -/
def slotText (params : List Value) (i : Nat) : List Char := (params[i]?.map (·.literal.toList)).getD ['?']

namespace Segments

/-- The segments, with a text before each but the first one for the placeholder there. -/
def filled (g : Segments) (params : List Value) : List Char :=
  g.first ++ (g.others.mapIdx fun i segment => slotText params i ++ segment).flatten

theorem filled_first (c : Char) (g : Segments) (params : List Value) :
    filled ⟨c :: g.first, g.others⟩ params = c :: g.filled params := rfl

/-- Behind a placeholder at the start the numbers start again, with the parameters that are left. -/
theorem filled_slot (g : Segments) (v : Value) (others : List Value) :
    filled ⟨[], g.first :: g.others⟩ (v :: others) = v.literal.toList ++ g.filled others := by
  simp [filled, slotText, List.mapIdx_cons]

theorem filled_mark (g : Segments) : filled ⟨[], g.first :: g.others⟩ [] = '?' :: g.filled [] := by
  simp [filled, slotText, List.mapIdx_cons]

/-- Without parameters the question marks are put back. -/
theorem filled_nil (g : Segments) : g.filled [] = g.first ++ g.others.flatMap ('?' :: ·) := by
  have marks : g.others.mapIdx (fun i segment => slotText [] i ++ segment) = g.others.map ('?' :: ·) :=
    List.ext_getElem (by simp) (by simp [slotText])
  rw [filled, marks, List.flatMap_def]

/-- A parameter counts if there is a segment with its number. -/
theorem filled_take (g : Segments) (params : List Value) : g.filled (params.take g.others.length) = g.filled params := by
  have same : g.others.mapIdx (fun i segment => slotText (params.take g.others.length) i ++ segment) =
      g.others.mapIdx fun i segment => slotText params i ++ segment := by
    rw [List.mapIdx_eq_mapIdx_iff]
    intro i inside
    rw [slotText, slotText, List.getElem?_take_of_lt inside]
  rw [filled, filled, same]

end Segments

/-! ## Cutting -/

theorem segmentsFrom_succ (c : Char) (s : List Char) (start : Nat) (places : List Nat) :
    segmentsFrom (c :: s) (start + 1) (places.map (· + 1)) = segmentsFrom s start places := by
  induction places generalizing start with
  | nil => rfl
  | cons place later ih => simp [segmentsFrom, ih]

/-- A character before all cuts belongs to the first segment. -/
theorem segmentsFrom_cons (c : Char) (s : List Char) (places : List Nat) :
    segmentsFrom (c :: s) 0 (places.map (· + 1)) =
      ⟨c :: (segmentsFrom s 0 places).first, (segmentsFrom s 0 places).others⟩ := by
  cases places with
  | nil => rfl
  | cons place later => simp [segmentsFrom, segmentsFrom_succ]

/-- A cut at the first character leaves nothing before it. -/
theorem segmentsFrom_cut (c : Char) (s : List Char) (places : List Nat) :
    segmentsFrom (c :: s) 0 (0 :: places.map (· + 1)) =
      ⟨[], (segmentsFrom s 0 places).first :: (segmentsFrom s 0 places).others⟩ := by
  rw [segmentsFrom, segmentsFrom_succ]
  rfl

theorem length_segmentsFrom (s : List Char) (start : Nat) (places : List Nat) :
    (segmentsFrom s start places).others.length = places.length := by
  induction places generalizing start with
  | nil => rfl
  | cons place later ih => simp [segmentsFrom, ih]

/-! ## Interpolating -/

theorem interpolateFrom_mark (rest : List Char) :
    interpolateFrom false ('?' :: rest) [] = '?' :: interpolateFrom false rest [] := by
  rw [interpolateFrom.eq_def]
  rfl

theorem interpolateFrom_eq_filled (quoted : Bool) (s : List Char) (params : List Value) :
    interpolateFrom quoted s params = (segmentsFrom s 0 (slotPlaces quoted s)).filled params := by
  induction s generalizing quoted params with
  | nil => rw [interpolateFrom.eq_def]; rfl
  | cons c rest ih =>
    by_cases quote : c = '\x27'
    · subst quote
      rw [interpolateFrom_quote, slotPlaces_quote, segmentsFrom_cons, Segments.filled_first, ih]
    · by_cases slot : c = '?' ∧ quoted = false
      · obtain ⟨rfl, rfl⟩ := slot
        rw [slotPlaces_slot, segmentsFrom_cut]
        cases params with
        | nil => rw [interpolateFrom_mark, Segments.filled_mark, ih]
        | cons v others => rw [interpolateFrom_slot, Segments.filled_slot, ih]
      · rw [interpolateFrom_other quote slot, slotPlaces_other quote slot, segmentsFrom_cons, Segments.filled_first, ih]

theorem toList_interpolate (sql : String) (params : List Value) :
    (interpolate sql params).toList = (segments sql.toList).filled params := by
  rw [interpolate, String.toList_ofList, interpolateFrom_eq_filled, slotPlaces_false, segments]

theorem interpolateFrom_nil (quoted : Bool) (s : List Char) : interpolateFrom quoted s [] = s := by
  induction s generalizing quoted with
  | nil => rw [interpolateFrom.eq_def]
  | cons c rest ih =>
    by_cases quote : c = '\x27'
    · subst quote
      rw [interpolateFrom_quote, ih]
    · by_cases slot : c = '?' ∧ quoted = false
      · obtain ⟨rfl, rfl⟩ := slot
        rw [interpolateFrom_mark, ih]
      · rw [interpolateFrom_other quote slot, ih]

/-- A text that ends outside of quotes, with a parameter for each of its placeholders, takes no parameter from the text
behind it and leaves the scan as it started. -/
theorem interpolateFrom_append {quoted : Bool} {front : List Char} {p : List Value}
    (even : (openQuotes quoted + front.count '\x27') % 2 = 0) (own : p.length = openMarks quoted front)
    (back : List Char) (q : List Value) :
    interpolateFrom quoted (front ++ back) (p ++ q) = interpolateFrom quoted front p ++ interpolateFrom false back q := by
  induction front generalizing quoted p with
  | nil =>
    obtain rfl := List.eq_nil_of_length_eq_zero own
    have outside : quoted = false := by
      cases quoted with
      | false => rfl
      | true => simp [openQuotes] at even
    subst outside
    rw [interpolateFrom.eq_def false [] []]
    rfl
  | cons c rest ih =>
    rw [List.cons_append]
    by_cases quote : c = '\x27'
    · subst quote
      rw [List.count_cons_self, ← openQuotes_not] at even
      rw [interpolateFrom_quote, interpolateFrom_quote, ih even own, List.cons_append]
    · rw [List.count_cons_of_ne quote] at even
      by_cases slot : c = '?' ∧ quoted = false
      · obtain ⟨rfl, rfl⟩ := slot
        rw [openMarks_slot] at own
        cases p with
        | nil => simp at own
        | cons v others =>
          rw [List.cons_append, interpolateFrom_slot, interpolateFrom_slot, ih even (Nat.succ.inj own), List.append_assoc]
      · rw [openMarks_other quote slot] at own
        rw [interpolateFrom_other quote slot, interpolateFrom_other quote slot, ih even own, List.cons_append]

/-- Whatever text and parameters are given: the segments of the text, with a question mark between each two, are the text,
and with what stands for each placeholder in its place they are the interpolated text. Parameters beyond the number of
placeholders are not used. A text that closes its quotes is interpolated with its own parameters, whatever stands
behind it. -/
theorem interpolate_slotwise :
    (∀ (sql : String) (params : List Value),
      let g := segments sql.toList
      sql.toList = g.first ++ g.others.flatMap ('?' :: ·) ∧ g.others.length = (placeholders sql.toList).length ∧
        (interpolate sql params).toList =
          g.first ++ (g.others.mapIdx fun i segment => slotText params i ++ segment).flatten ∧
        interpolate sql params = interpolate sql (params.take (placeholders sql.toList).length)) ∧
    ∀ (front back : String) (p q : List Value), front.toList.count '\x27' % 2 = 0 →
      p.length = (placeholders front.toList).length →
        interpolate (front ++ back) (p ++ q) = interpolate front p ++ interpolate back q := by
  constructor
  · intro sql params g
    have number : g.others.length = (placeholders sql.toList).length := length_segmentsFrom sql.toList 0 _
    refine ⟨?_, number, toList_interpolate sql params, ?_⟩
    · rw [← g.filled_nil, ← toList_interpolate, interpolate, String.toList_ofList, interpolateFrom_nil]
    · rw [← String.toList_inj, toList_interpolate, toList_interpolate, ← number, g.filled_take]
  · intro front back p q even own
    rw [length_placeholders] at own
    have closed : (openQuotes false + front.toList.count '\x27') % 2 = 0 := by
      rwa [openQuotes, if_neg (by decide), Nat.zero_add]
    rw [interpolate, interpolate, interpolate, String.toList_append, interpolateFrom_append closed own,
      String.ofList_append]

/-- A question mark between quotes before a placeholder, and behind it a text with a placeholder more than there are
parameters. -/
theorem interpolate_slotwise_split :
    segments "a = '?' AND b = ? AND c = ".toList = ⟨"a = '?' AND b = ".toList, [" AND c = ".toList]⟩ ∧
      interpolate ("a = '?' AND b = ? AND c = " ++ "? OR d = ?") ([.text "it's ?"] ++ [.null]) =
        interpolate "a = '?' AND b = ? AND c = " [.text "it's ?"] ++ interpolate "? OR d = ?" [.null] ∧
      interpolate "? OR d = ?" [.null] = "NULL OR d = ?" :=
  ⟨by decide, interpolate_slotwise.2 _ _ _ _ (by decide) (by decide), by decide⟩

end SqlDraft
