/-!
# Text as bytes

The encoding UTF-8 of a text, and the reading of any bytes as text: what is no encoding is replaced,
with one character for every longest start of an encoding and for every byte that starts none.
-/

namespace SqlDraft.Text

/-- The bytes of a text. -/
def utf8 (s : List Char) : List UInt8 := s.flatMap String.utf8EncodeChar

/-- The character that stands for bytes that are no text. -/
def replacement : Char := '\ufffd'

/-- A character whose first bytes are read: the value of their bits, the range that its next byte must
lie in, and the number of bytes behind that one. -/
structure Unfinished where
  value : Nat
  low : Nat := 0x80
  high : Nat := 0xbf
  behind : Nat

/-- What a byte says that is not inside a character. The ranges of second bytes leave out the encodings
that are too long, the surrogates, and what is beyond the last code point. -/
def startUtf8 (b : UInt8) : List Char × Option Unfinished :=
  let n := b.toNat
  if n < 0x80 then ([Char.ofNat n], none)
  else if n < 0xc2 then ([replacement], none)
  else if n < 0xe0 then ([], some { value := n - 0xc0, behind := 0 })
  else if n = 0xe0 then ([], some { value := 0, low := 0xa0, behind := 1 })
  else if n = 0xed then ([], some { value := 0xd, high := 0x9f, behind := 1 })
  else if n < 0xf0 then ([], some { value := n - 0xe0, behind := 1 })
  else if n = 0xf0 then ([], some { value := 0, low := 0x90, behind := 2 })
  else if n < 0xf4 then ([], some { value := n - 0xf0, behind := 2 })
  else if n = 0xf4 then ([], some { value := 4, high := 0x8f, behind := 2 })
  else ([replacement], none)

/-- What a byte says behind the first bytes of a character, if it is behind any: it goes on with the
character, or else the bytes before it are replaced and it is a start. -/
def stepUtf8 (before : Option Unfinished) (b : UInt8) : List Char × Option Unfinished :=
  match before with
  | none => startUtf8 b
  | some u =>
    if u.low ≤ b.toNat ∧ b.toNat ≤ u.high then
      let value := 64 * u.value + (b.toNat - 0x80)
      match u.behind with
      | 0 => ([Char.ofNat value], none)
      | behind + 1 => ([], some { value, behind })
    else
      let (chars, next) := startUtf8 b
      (replacement :: chars, next)

/-- Reads bytes as text, given the first bytes of a character if it has begun. -/
def ofUtf8From (before : Option Unfinished) : List UInt8 → List Char
  | [] => if before.isSome then [replacement] else []
  | b :: rest =>
    let (chars, next) := stepUtf8 before b
    chars ++ ofUtf8From next rest

/-- Reads bytes as text. -/
def ofUtf8 (bytes : List UInt8) : List Char := ofUtf8From none bytes

end SqlDraft.Text
