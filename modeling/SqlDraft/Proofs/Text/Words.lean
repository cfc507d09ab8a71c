import SqlDraft.Text.Blank

/-!
# Words and the blanks around them

A text consists of words with blanks around them: any number before the first word and behind the last one, and at least
one between two words. Cutting a text into words finds these and nothing else (`words_eq_iff`). A word in capitals is
still a word, as no letter and no capital is blank.
-/

namespace SqlDraft.Text

/-- A text is some words, with blanks around and between them. A word has no blank in it and goes on as long as it can. -/
inductive Spaced : List (List Char) → List Char → Prop
  | gap {gap : List Char} (blank : isBlankText gap = true) : Spaced [] gap
  | word {gap word rest : List Char} {others : List (List Char)} (blank : isBlankText gap = true) (nonempty : word ≠ [])
      (solid : ∀ c ∈ word, isBlank c = false) (ends : startsWord rest = false) (behind : Spaced others rest) :
      Spaced (word :: others) (gap ++ word ++ rest)

variable {c : Char} {s rest word : List Char} {ws : List (List Char)}

/-! ## Cutting into words -/

theorem words_blankText {gap : List Char} (blank : isBlankText gap = true) (s : List Char) :
    words (gap ++ s) = words s := by
  induction gap with
  | nil => rfl
  | cons c more ih =>
    obtain ⟨here, later⟩ := Bool.and_eq_true_iff.mp blank
    rw [List.cons_append, words_blank (more ++ s) here, ih later]

theorem words_solid (solid : isBlank c = false) (rest : List Char) :
    words (c :: rest) = attach c (startsWord rest) (words rest) := by
  rw [words, if_neg (by simp [solid])]

theorem attach_start (c : Char) (ws : List (List Char)) : attach c false ws = [c] :: ws := by
  cases ws <;> rfl

theorem words_word (nonempty : word ≠ []) (solid : ∀ c ∈ word, isBlank c = false) (ends : startsWord rest = false) :
    words (word ++ rest) = word :: words rest := by
  induction word with
  | nil => exact absurd rfl nonempty
  | cons c more ih =>
    obtain ⟨here, later⟩ := List.forall_mem_cons.mp solid
    rw [List.cons_append, words_solid here]
    cases more with
    | nil => rw [List.nil_append, ends, attach_start]
    | cons d more =>
      have goesOn : startsWord (d :: more ++ rest) = true := by simp [startsWord, later d List.mem_cons_self]
      rw [ih (List.cons_ne_nil d more) later, goesOn]
      rfl

theorem words_of_spaced (spaced : Spaced ws s) : words s = ws := by
  induction spaced with
  | @gap gap blank => rw [← List.append_nil gap, words_blankText blank, words_nil]
  | word blank nonempty solid ends _ ih =>
    rw [List.append_assoc, words_blankText blank, words_word nonempty solid ends, ih]

theorem Spaced.blank (spaced : Spaced ws s) (blank : isBlank c = true) : Spaced ws (c :: s) := by
  have more {gap : List Char} (blanks : isBlankText gap = true) : isBlankText (c :: gap) = true :=
    Bool.and_eq_true_iff.mpr ⟨blank, blanks⟩
  cases spaced with
  | gap blanks => exact .gap (more blanks)
  | word blanks nonempty solid ends behind => exact .word (more blanks) nonempty solid ends behind

/-- A character in front of a word belongs to it. -/
theorem Spaced.attach (spaced : Spaced ws s) (solid : isBlank c = false) :
    Spaced (attach c (startsWord s) ws) (c :: s) := by
  have single : ∀ d ∈ [c], isBlank d = false := by simpa using solid
  cases goesOn : startsWord s with
  | false =>
    rw [attach_start]
    exact @Spaced.word [] [c] s ws rfl (List.cons_ne_nil c []) single goesOn spaced
  | true =>
    cases spaced with
    | gap blanks =>
      -- A text of blanks starts no word.
      cases s with
      | nil => cases goesOn
      | cons d more => simp_all [startsWord, isBlankText]
    | @word gap word rest others blanks nonempty letters ends behind =>
      cases gap with
      | cons d more => simp_all [startsWord, isBlankText]
      | nil =>
        have longer : ∀ d ∈ c :: word, isBlank d = false := List.forall_mem_cons.mpr ⟨solid, letters⟩
        exact @Spaced.word [] (c :: word) rest others rfl (List.cons_ne_nil c word) longer ends behind

theorem spaced_words (s : List Char) : Spaced (words s) s := by
  induction s with
  | nil => exact .gap rfl
  | cons c rest ih =>
    cases blank : isBlank c with
    | true =>
      rw [words_blank rest blank]
      exact ih.blank blank
    | false =>
      rw [words_solid blank]
      exact ih.attach blank

theorem words_eq_iff : words s = ws ↔ Spaced ws s := by
  constructor
  · rintro rfl
    exact spaced_words s
  · exact words_of_spaced

/-! ## Single spaces and capitals -/

/-- What is between the blanks of a text. -/
def IsWord (word : List Char) : Prop := word ≠ [] ∧ ∀ c ∈ word, isBlank c = false

theorem Spaced.isWord (spaced : Spaced ws s) : ∀ word ∈ ws, IsWord word := by
  induction spaced with
  | gap blank => exact List.forall_mem_nil _
  | word blank nonempty solid ends behind ih => exact List.forall_mem_cons.mpr ⟨⟨nonempty, solid⟩, ih⟩

/-- Words with one space between each two have just one way to be read. -/
theorem words_intersperse (all : ∀ word ∈ ws, IsWord word) : words (ws.intersperse [' ']).flatten = ws := by
  induction ws with
  | nil => rfl
  | cons word others ih =>
    obtain ⟨⟨nonempty, solid⟩, later⟩ := List.forall_mem_cons.mp all
    cases others with
    | nil =>
      show words (word ++ []) = [word]
      rw [words_word nonempty solid rfl, words_nil]
    | cons next more =>
      show words (word ++ ' ' :: ((next :: more).intersperse [' ']).flatten) = word :: next :: more
      rw [words_word nonempty solid rfl, words_blank _ rfl, ih later]

theorem isBlank_of_graphic (low : 0x20 < c.toNat) (high : c.toNat < 0x7f) : isBlank c = false := by
  unfold isBlank
  simp only [Bool.or_eq_false_iff, Bool.and_eq_false_iff, decide_eq_false_iff_not, beq_eq_false_iff_ne]
  omega

theorem isBlank_toUpper (c : Char) : isBlank c.toUpper = isBlank c := by
  unfold Char.toUpper
  split
  · next letter =>
    obtain ⟨low, high⟩ : 97 ≤ c.toNat ∧ c.toNat ≤ 122 := letter
    -- A capital is 32 places before its letter, which is a sum that wraps.
    have place : (c.val + ('A'.val - 'a'.val)).toNat = c.toNat - 32 := by
      have distance : ('A'.val - 'a'.val).toNat = 2 ^ 32 - 32 := by decide
      rw [UInt32.toNat_add, distance]
      show (c.toNat + (2 ^ 32 - 32)) % 2 ^ 32 = c.toNat - 32
      omega
    have plain : isBlank c = false := isBlank_of_graphic (by omega) (by omega)
    rw [plain]
    refine isBlank_of_graphic ?_ ?_
    · show 0x20 < (c.val + ('A'.val - 'a'.val)).toNat
      omega
    · show (c.val + ('A'.val - 'a'.val)).toNat < 0x7f
      omega
  · rfl

theorem isWord_upperAscii (isWord : IsWord word) : IsWord (upperAscii word) := by
  obtain ⟨nonempty, solid⟩ := isWord
  refine ⟨by simpa [upperAscii] using nonempty, fun c member => ?_⟩
  obtain ⟨d, inside, rfl⟩ := List.mem_map.mp member
  rw [isBlank_toUpper, solid d inside]

theorem upperAscii_intersperse (ws : List (List Char)) :
    upperAscii (ws.intersperse [' ']).flatten = ((ws.map upperAscii).intersperse [' ']).flatten := by
  induction ws with
  | nil => rfl
  | cons word others ih =>
    cases others with
    | nil => simp [upperAscii]
    | cons next more =>
      show upperAscii (word ++ ' ' :: ((next :: more).intersperse [' ']).flatten) =
        upperAscii word ++ ' ' :: (((next :: more).map upperAscii).intersperse [' ']).flatten
      rw [← ih]
      simp [upperAscii]

end SqlDraft.Text
