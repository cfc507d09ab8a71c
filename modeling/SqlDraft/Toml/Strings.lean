import SqlDraft.Text.Digits

/-!
# Strings of a document

Text between quotes. Between double quotes a backslash starts an escape; between single quotes
everything stands for itself. Behind three quotes the text may run over several lines; a line end
right at its start is dropped.
-/

namespace SqlDraft.Toml

/-- A rest of a text that is shorter than the text. -/
abbrev Shorter (s : List Char) := { r : List Char // r.length < s.length }

/-- The rest, if it is shorter. -/
def shorter? (s r : List Char) : Option (Shorter s) := if h : r.length < s.length then some ⟨r, h⟩ else none

/-- A character that may stand in a line of text: anything but control characters, tabs apart. -/
def isPlain (c : Char) : Bool := c == '\t' || (0x20 ≤ c.toNat && c.toNat != 0x7f)

/-- The character with a number of so many hexadecimal digits, and the text behind them. -/
def numbered? (width : Nat) (s : List Char) : Option (Char × List Char) :=
  let digits := s.take width
  if digits.length < width then none
  else (Text.hexNumber? digits).bind fun n => if n.isValidChar then some (Char.ofNat n, s.drop width) else none

/-- The character of an escape, given the text behind the backslash. -/
def escape? : List Char → Option (Char × List Char)
  | [] => none
  | c :: rest =>
    match c with
    | 'b' => some ('\x08', rest)
    | 't' => some ('\t', rest)
    | 'n' => some ('\n', rest)
    | 'f' => some ('\x0c', rest)
    | 'r' => some ('\r', rest)
    | 'e' => some ('\x1b', rest)
    | '\x22' => some ('\x22', rest)
    | '\\' => some ('\\', rest)
    | 'x' => numbered? 2 rest
    | 'u' => numbered? 4 rest
    | 'U' => numbered? 8 rest
    | _ => none

/-- Reads a string of one line behind its opening double quote. -/
def basic? : List Char → Option (List Char × List Char)
  | [] => none
  | c :: rest =>
    if c = '\x22' then some ([], rest)
    else if c = '\\' then do
      let (d, behind) ← escape? rest
      let behind ← shorter? (c :: rest) behind
      let (chars, rest) ← basic? behind.1
      return (d :: chars, rest)
    else if isPlain c then do
      let (chars, rest) ← basic? rest
      return (c :: chars, rest)
    else none
termination_by s => s.length
decreasing_by
  · exact behind.2
  · simp

/-- Reads a string of one line behind its opening single quote. -/
def literal? : List Char → Option (List Char × List Char)
  | [] => none
  | c :: rest =>
    if c = '\x27' then some ([], rest)
    else if isPlain c then (literal? rest).map fun (chars, rest) => (c :: chars, rest)
    else none

/-- The text behind a line end, if there is one at its start. -/
def lineEnd? : List Char → Option (List Char)
  | '\n' :: rest => some rest
  | '\r' :: '\n' :: rest => some rest
  | _ => none

/-- Skips tabs and spaces. -/
def skipSpaces (s : List Char) : List Char := s.dropWhile fun c => c == ' ' || c == '\t'

/-- Skips tabs, spaces and line ends. -/
def skipLines : List Char → List Char
  | [] => []
  | c :: rest =>
    if c = ' ' ∨ c = '\t' ∨ c = '\n' ∨ (c = '\r' ∧ rest.head? = some '\n') then skipLines rest else c :: rest

/-- The text behind a line end that a backslash hides, and behind all blanks and line ends after it. -/
def hiddenLineEnd? (s : List Char) : Option (List Char) := (lineEnd? (skipSpaces s)).map skipLines

/-- Reads a string of several lines behind its opening quotes. Line ends inside it are kept as they are
written. Up to two quotes may stand right before the closing ones. -/
def multiline? (quote : Char) (escapes : Bool) : List Char → Option (List Char × List Char)
  | [] => none
  | c :: rest =>
    if c = quote then
      let run := (c :: rest).takeWhile (· == quote)
      if 3 ≤ run.length then some (run.drop 3 |>.take 2, (c :: rest).drop (min run.length 5))
      else do
        let (chars, rest) ← multiline? quote escapes rest
        return (c :: chars, rest)
    else if escapes ∧ c = '\\' then
      match hiddenLineEnd? rest with
      | some behind => do
        let behind ← shorter? (c :: rest) behind
        multiline? quote escapes behind.1
      | none => do
        let (d, behind) ← escape? rest
        let behind ← shorter? (c :: rest) behind
        let (chars, rest) ← multiline? quote escapes behind.1
        return (d :: chars, rest)
    else if isPlain c ∨ c = '\n' ∨ (c = '\r' ∧ rest.head? = some '\n') then do
      let (chars, rest) ← multiline? quote escapes rest
      return (c :: chars, rest)
    else none
termination_by s => s.length
decreasing_by
  · simp
  · exact behind.2
  · exact behind.2
  · simp

/-- The text without a line end at its start. -/
def dropLineEnd (s : List Char) : List Char := (lineEnd? s).getD s

/-- Reads a string of any of the four kinds. -/
def string? : List Char → Option (List Char × List Char)
  | '\x22' :: '\x22' :: '\x22' :: rest => multiline? '\x22' true (dropLineEnd rest)
  | '\x27' :: '\x27' :: '\x27' :: rest => multiline? '\x27' false (dropLineEnd rest)
  | '\x22' :: rest => basic? rest
  | '\x27' :: rest => literal? rest
  | _ => none

end SqlDraft.Toml
