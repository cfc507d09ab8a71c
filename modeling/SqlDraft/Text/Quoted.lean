/-!
# Quoted literals

The two literal forms of a statement that hold arbitrary content: text between single quotes, where
a quote inside is written twice, and bytes as pairs of capital hexadecimal digits.
-/

namespace SqlDraft.Text

/-- Every single quote of the text is written twice. -/
def doubleQuotes : List Char → List Char
  | [] => []
  | c :: rest => if c = '\x27' then '\x27' :: '\x27' :: doubleQuotes rest else c :: doubleQuotes rest

/-- The text between single quotes, with every quote inside doubled. -/
def quoted (s : List Char) : List Char := '\x27' :: (doubleQuotes s ++ ['\x27'])

/-- The hexadecimal digit of a value below sixteen, letters as capitals. -/
def hexDigit (d : Nat) : Char := if d < 10 then Char.ofNat (48 + d) else Char.ofNat (55 + d)

/-- Two hexadecimal digits per byte. -/
def hexPairs (bytes : List UInt8) : List Char :=
  bytes.flatMap fun b => [hexDigit (b.toNat / 16), hexDigit (b.toNat % 16)]

/-- Bytes as a literal: the letter `X` and the digits between single quotes. -/
def hexLiteral (bytes : List UInt8) : List Char := 'X' :: '\x27' :: (hexPairs bytes ++ ['\x27'])

@[simp] theorem doubleQuotes_nil : doubleQuotes [] = [] := rfl

end SqlDraft.Text
