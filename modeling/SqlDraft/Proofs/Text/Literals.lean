import SqlDraft.Value

/-!
# Reading literals back

What a reader of the statement language makes of a literal with anything behind it. Text starts at a single quote, two
quotes are one, and the first quote that no quote follows ends it; bytes are the letter `X` and pairs of capital
hexadecimal digits between single quotes. Either reader accepts exactly what is written of some content
(`readText?_eq_some_iff`, `readBytes?_eq_some_iff`), so no content reaches beyond its own literal (`literals_read_back`).
-/

namespace SqlDraft
namespace Text

/-! ## Readers -/

/-- Reads text from behind its opening quote, and gives what is behind the closing one. -/
def readBody? : List Char → Option (List Char × List Char)
  | [] => none
  | '\x27' :: '\x27' :: rest => (readBody? rest).map fun (text, behind) => ('\x27' :: text, behind)
  | '\x27' :: rest => some ([], rest)
  | c :: rest => (readBody? rest).map fun (text, behind) => (c :: text, behind)

/-- Reads text between single quotes. -/
def readText? : List Char → Option (List Char × List Char)
  | '\x27' :: rest => readBody? rest
  | _ => none

/-- The value of a hexadecimal digit that is a capital if it is a letter. -/
def capitalValue? (c : Char) : Option Nat :=
  if '0' ≤ c ∧ c ≤ '9' then some (c.toNat - 48)
  else if 'A' ≤ c ∧ c ≤ 'F' then some (c.toNat - 55)
  else none

/-- Reads pairs of hexadecimal digits up to the closing quote, and gives what is behind it. -/
def readPairs? : List Char → Option (List UInt8 × List Char)
  | '\x27' :: rest => some ([], rest)
  | high :: low :: rest => do
    let h ← capitalValue? high
    let l ← capitalValue? low
    let (bytes, behind) ← readPairs? rest
    return (UInt8.ofNat (16 * h + l) :: bytes, behind)
  | _ => none

/-- Reads bytes between single quotes behind the letter `X`. -/
def readBytes? : List Char → Option (List UInt8 × List Char)
  | 'X' :: '\x27' :: rest => readPairs? rest
  | _ => none

/-! ## Text -/

variable {s text behind : List Char}

theorem readBody?_plain {c : Char} (plain : c ≠ '\x27') (rest : List Char) :
    readBody? (c :: rest) = (readBody? rest).map fun (text, behind) => (c :: text, behind) :=
  readBody?.eq_4 c rest (fun _ quote _ => plain quote) plain

/-- A quote that no quote follows ends the text. -/
theorem readBody?_close (apart : behind.head? ≠ some '\x27') : readBody? ('\x27' :: behind) = some ([], behind) := by
  refine readBody?.eq_3 behind ?_
  rintro rest rfl
  exact apart rfl

theorem readBody?_doubleQuotes (apart : behind.head? ≠ some '\x27') (text : List Char) :
    readBody? (doubleQuotes text ++ '\x27' :: behind) = some (text, behind) := by
  induction text with
  | nil => exact readBody?_close apart
  | cons c rest ih =>
    by_cases quote : c = '\x27'
    · subst quote
      rw [doubleQuotes, if_pos rfl]
      show readBody? ('\x27' :: '\x27' :: (doubleQuotes rest ++ '\x27' :: behind)) = _
      rw [readBody?, ih, Option.map_some]
    · rw [doubleQuotes, if_neg quote, List.cons_append, readBody?_plain quote, ih, Option.map_some]

theorem eq_of_readBody? (read : readBody? s = some (text, behind)) :
    s = doubleQuotes text ++ '\x27' :: behind ∧ behind.head? ≠ some '\x27' := by
  fun_induction readBody? s generalizing text with
  | case1 => cases read
  | case2 rest ih =>
    obtain ⟨⟨more, last⟩, later, same⟩ := Option.map_eq_some_iff.mp read
    cases same
    obtain ⟨rfl, apart⟩ := ih later
    exact ⟨by simp [doubleQuotes], apart⟩
  | case3 rest notDoubled =>
    cases read
    refine ⟨rfl, fun starts => ?_⟩
    obtain ⟨more, rfl⟩ := List.head?_eq_some_iff.mp starts
    exact notDoubled more rfl
  | case4 c rest _ notQuote ih =>
    obtain ⟨⟨more, last⟩, later, same⟩ := Option.map_eq_some_iff.mp read
    cases same
    obtain ⟨rfl, apart⟩ := ih later
    have plain : c ≠ '\x27' := notQuote
    exact ⟨by simp [doubleQuotes, plain], apart⟩

theorem readText?_eq_some_iff :
    readText? s = some (text, behind) ↔ s = quoted text ++ behind ∧ behind.head? ≠ some '\x27' := by
  constructor
  · intro read
    unfold readText? at read
    split at read
    · obtain ⟨rfl, apart⟩ := eq_of_readBody? read
      exact ⟨by simp [quoted], apart⟩
    · cases read
  · rintro ⟨rfl, apart⟩
    show readBody? (doubleQuotes text ++ ['\x27'] ++ behind) = _
    rw [List.append_assoc]
    exact readBody?_doubleQuotes apart text

/-! ## Bytes -/

theorem capitalValue?_hexDigit {d : Nat} (small : d < 16) : capitalValue? (hexDigit d) = some d := by
  have checked : ∀ d < 16, capitalValue? (hexDigit d) = some d := by decide
  exact checked d small

theorem hexDigit_ne_quote {d : Nat} (small : d < 16) : hexDigit d ≠ '\x27' := by
  have checked : ∀ d < 16, hexDigit d ≠ '\x27' := by decide
  exact checked d small

theorem eq_hexDigit_of_capitalValue? {c : Char} {d : Nat} (read : capitalValue? c = some d) : c = hexDigit d ∧ d < 16 := by
  unfold capitalValue? at read
  split at read
  · next digit =>
    obtain ⟨low, high⟩ : 48 ≤ c.toNat ∧ c.toNat ≤ 57 := digit
    obtain rfl := Option.some.inj read
    have code : 48 + (c.toNat - 48) = c.toNat := by omega
    rw [hexDigit, if_pos (by omega), code, Char.ofNat_toNat]
    exact ⟨rfl, by omega⟩
  · split at read
    · next letter =>
      obtain ⟨low, high⟩ : 65 ≤ c.toNat ∧ c.toNat ≤ 70 := letter
      obtain rfl := Option.some.inj read
      have code : 55 + (c.toNat - 55) = c.toNat := by omega
      rw [hexDigit, if_neg (by omega), code, Char.ofNat_toNat]
      exact ⟨rfl, by omega⟩
    · cases read

theorem hexPairs_cons (b : UInt8) (bytes : List UInt8) :
    hexPairs (b :: bytes) = hexDigit (b.toNat / 16) :: hexDigit (b.toNat % 16) :: hexPairs bytes := rfl

theorem readPairs?_hexPairs (bytes behind) : readPairs? (hexPairs bytes ++ '\x27' :: behind) = some (bytes, behind) := by
  induction bytes with
  | nil => rfl
  | cons b rest ih =>
    have bound := b.toNat_lt
    have high : b.toNat / 16 < 16 := by omega
    have low : b.toNat % 16 < 16 := by omega
    have whole : 16 * (b.toNat / 16) + b.toNat % 16 = b.toNat := by omega
    rw [hexPairs_cons, List.cons_append, List.cons_append, readPairs?.eq_2 _ _ _ (hexDigit_ne_quote high),
      capitalValue?_hexDigit high, capitalValue?_hexDigit low, ih]
    show some (UInt8.ofNat (16 * (b.toNat / 16) + b.toNat % 16) :: rest, behind) = _
    rw [whole, UInt8.ofNat_toNat]

theorem eq_of_readPairs? {bytes : List UInt8} (read : readPairs? s = some (bytes, behind)) :
    s = hexPairs bytes ++ '\x27' :: behind := by
  fun_induction readPairs? s generalizing bytes with
  | case1 rest =>
    cases read
    rfl
  | case2 high low rest _ ih =>
    simp only [Option.bind_eq_bind, Option.bind_eq_some_iff] at read
    obtain ⟨h, isHigh, l, isLow, ⟨more, last⟩, later, same⟩ := read
    cases same
    obtain ⟨rfl, highSmall⟩ := eq_hexDigit_of_capitalValue? isHigh
    obtain ⟨rfl, lowSmall⟩ := eq_hexDigit_of_capitalValue? isLow
    have value : (UInt8.ofNat (16 * h + l)).toNat = 16 * h + l := by
      rw [UInt8.toNat_ofNat']
      omega
    have halves : (16 * h + l) / 16 = h ∧ (16 * h + l) % 16 = l := by omega
    rw [ih later, hexPairs_cons, value, halves.1, halves.2]
    rfl
  | case3 => cases read

theorem readBytes?_eq_some_iff {bytes : List UInt8} :
    readBytes? s = some (bytes, behind) ↔ s = hexLiteral bytes ++ behind := by
  constructor
  · intro read
    unfold readBytes? at read
    split at read
    · rw [eq_of_readPairs? read]
      simp [hexLiteral]
    · cases read
  · rintro rfl
    show readPairs? (hexPairs bytes ++ ['\x27'] ++ behind) = _
    rw [List.append_assoc]
    exact readPairs?_hexPairs bytes behind

end Text

/-! ## Values -/

/-- Reading a text or a timestamp gives its content and what stands behind its literal, exactly if no quote stands
there; reading bytes always does. -/
theorem literals_read_back :
    (∀ (s : String) (behind : List Char),
      Text.readText? ((Value.text s).literal.toList ++ behind) = some (s.toList, behind) ↔ behind.head? ≠ some '\x27') ∧
    (∀ (t : Calendar.Timestamp) (behind : List Char),
      Text.readText? ((Value.timestamp t).literal.toList ++ behind) = some (t.text.toList, behind) ↔
        behind.head? ≠ some '\x27') ∧
    ∀ (bytes : Bytes) (behind : List Char),
      Text.readBytes? ((Value.bytes bytes).literal.toList ++ behind) = some (bytes, behind) := by
  have quotes (text behind : List Char) :
      Text.readText? (Text.quoted text ++ behind) = some (text, behind) ↔ behind.head? ≠ some '\x27' := by
    rw [Text.readText?_eq_some_iff]
    exact and_iff_right rfl
  refine ⟨fun s behind => ?_, fun t behind => ?_, fun bytes behind => ?_⟩
  · rw [Value.literal, String.toList_ofList]
    exact quotes s.toList behind
  · rw [Value.literal, String.toList_ofList]
    exact quotes t.text.toList behind
  · rw [Value.literal, String.toList_ofList]
    exact Text.readBytes?_eq_some_iff.mpr rfl

-- The quotes of the text do not end the literal, not even the last one.
example : Text.readText? ((Value.text "a''b'").literal ++ ", 1").toList = some ("a''b'".toList, ", 1".toList) := by decide

end SqlDraft
