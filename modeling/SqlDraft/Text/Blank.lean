/-!
# Blank characters

White space as the Unicode property `White_Space` lists it, and the readings of a text that skip it:
trimming, and cutting into words.
-/

namespace SqlDraft.Text

/-- A character of the property `White_Space`. -/
def isBlank (c : Char) : Bool :=
  let n := c.toNat
  (0x09 ≤ n && n ≤ 0x0d) || n == 0x20 || n == 0x85 || n == 0xa0 || n == 0x1680 ||
    (0x2000 ≤ n && n ≤ 0x200a) || n == 0x2028 || n == 0x2029 || n == 0x202f || n == 0x205f || n == 0x3000

/-- A text with nothing but blanks in it, the empty text included. -/
def isBlankText (s : List Char) : Bool := s.all isBlank

/-- The text without the blanks it starts with. -/
def trimStart (s : List Char) : List Char := s.dropWhile isBlank

/-- The text without the blanks it ends with. -/
def trimEnd (s : List Char) : List Char := (s.reverse.dropWhile isBlank).reverse

/-- The text without the blanks at either end. -/
def trim (s : List Char) : List Char := trimEnd (trimStart s)

/-- Whether a text starts inside a word. -/
def startsWord : List Char → Bool
  | [] => false
  | c :: _ => !isBlank c

/-- Puts a character in front of the words of the text after it: at the start of the first one if the
text goes on with it, and as a word of its own otherwise. -/
def attach (c : Char) (goesOn : Bool) : List (List Char) → List (List Char)
  | [] => [[c]]
  | word :: others => if goesOn then (c :: word) :: others else [c] :: word :: others

/-- The longest runs of characters that are not blank, in order. -/
def words : List Char → List (List Char)
  | [] => []
  | c :: rest => if isBlank c then words rest else attach c (startsWord rest) (words rest)

/-- The ASCII letters `a` to `z` become capitals and everything else stays. -/
def upperAscii (s : List Char) : List Char := s.map Char.toUpper

@[simp] theorem words_nil : words [] = [] := rfl

theorem words_blank {c : Char} (rest : List Char) (blank : isBlank c = true) :
    words (c :: rest) = words rest := by
  simp [words, blank]

theorem trimStart_blank {c : Char} (rest : List Char) (blank : isBlank c = true) :
    trimStart (c :: rest) = trimStart rest := by
  simp [trimStart, blank]

end SqlDraft.Text
